import SymbolGraph.Proofs.ModuleSlots

/-!
# What a call leaves alone

Slots are emptied and filled again, so a call could reach what another module lists. It does not: the slots it
writes were empty or belonged to its target before.
-/
namespace SymbolGraph.SymbolTable
variable {t t' t'' : SymbolTable}

/-- The tables differ at most in the module in slot `id` and in the declarations that it owns. -/
structure AgreeOutside (t t' : SymbolTable) (id : ModuleId) : Prop where
  modules : ∀ j, j ≠ id → t'.module? j = t.module? j
  declarations : ∀ i d, d.owner ≠ some id → (t'.declaration? i = some d ↔ t.declaration? i = some d)
  detached : t'.detached = t.detached

namespace AgreeOutside
variable {id : ModuleId}

theorem refl (t : SymbolTable) (id : ModuleId) : AgreeOutside t t id :=
  ⟨fun _ _ => rfl, fun _ _ _ => Iff.rfl, rfl⟩

theorem trans (h : AgreeOutside t t' id) (h' : AgreeOutside t' t'' id) : AgreeOutside t t'' id where
  modules j hj := (h'.modules j hj).trans (h.modules j hj)
  declarations i d hd := (h'.declarations i d hd).trans (h.declarations i d hd)
  detached := h'.detached.trans h.detached

end AgreeOutside

/-! ## Storing one declaration -/

/-- How `t'` differs from `t` once `d` is stored in the module `m` in slot `id`: slot `i`, which the module had
under that name or which was empty, holds the declaration, and a new name is listed last. -/
structure StoredUnder (t t' : SymbolTable) (id : ModuleId) (m : Module) (d : Declaration)
    (i : DeclarationId) : Prop where
  listing : ∃ m', t'.module? id = some m' ∧ { m' with declarations := m.declarations } = m ∧
    m'.declarations.entries =
      if d.name ∈ m.declarations.keys then m.declarations.entries
      else m.declarations.entries ++ [(d.name, i)]
  slot : m.declarations.get? d.name = some i ∨ m.declarations.get? d.name = none ∧ t.declaration? i = none
  found : t'.lookup? id d.name = some (i, d.storedIn id m.location)
  modules : ∀ j, j ≠ id → t'.module? j = t.module? j
  declarations : ∀ j, j ≠ i → t'.declaration? j = t.declaration? j
  index : t'.byName = t.byName
  detached : t'.detached = t.detached

theorem StoredUnder.written {id : ModuleId} {m : Module} {d : Declaration} {i : DeclarationId}
    (h : StoredUnder t t' id m d i) : t'.declaration? i = some (d.storedIn id m.location) :=
  (lookup?_eq_some_iff.1 h.found).2

theorem Linked.storedUnder_known {id : ModuleId} {m : Module} {d : Declaration} {i : DeclarationId}
    {st : List (ModuleId × String)} (h : Linked t [] st) (hm : t.module? id = some m)
    (hi : m.declarations.get? d.name = some i) :
    StoredUnder t (t.setDeclaration i (d.storedIn id m.location)) id m d i := by
  obtain ⟨-, d₀, hd₀, -⟩ := h.listed ⟨m, hm, hi⟩
  have hslot := declaration?_setDeclaration hd₀ (d.storedIn id m.location)
  have hknown : d.name ∈ m.declarations.keys := OrderedMap.mem_keys.2 ⟨i, hi⟩
  constructor
  case listing => exact ⟨m, hm, rfl, by rw [if_pos hknown]⟩
  case slot => exact .inl hi
  case found => exact lookup?_eq_some_iff.2 ⟨⟨m, hm, hi⟩, by rw [hslot, if_pos rfl]⟩
  case modules => exact fun j _ => rfl
  case declarations => exact fun j hj => by rw [hslot, if_neg (Ne.symm hj)]
  case index => rfl
  case detached => rfl

theorem Linked.storedUnder_new {id : ModuleId} {m : Module} {d : Declaration} {st : List (ModuleId × String)}
    (h : Linked t [] st) (hm : t.module? id = some m) (hnew : m.declarations.get? d.name = none)
    {p : DeclarationId × SymbolTable} (hp : t.allocate (d.storedIn id m.location) = p) :
    StoredUnder t (p.2.setModule id { m with declarations := m.declarations.insert d.name p.1 }) id m d p.1 := by
  have hfresh := h.free.fresh_allocate (d.storedIn id m.location)
  have hslot := h.free.declaration?_allocate (d.storedIn id m.location)
  have hmod := module?_allocate t (d.storedIn id m.location)
  have hindex := byName_allocate t (d.storedIn id m.location)
  have hdetached := detached_allocate t (d.storedIn id m.location)
  rw [hp] at hfresh hslot hmod hindex hdetached
  have hset := module?_setModule ((hmod id).trans hm)
    { m with declarations := m.declarations.insert d.name p.1 }
  have hnot : d.name ∉ m.declarations.keys := OrderedMap.get?_eq_none_iff.1 hnew
  constructor
  case listing =>
    refine ⟨{ m with declarations := m.declarations.insert d.name p.1 }, by rw [hset, if_pos rfl], rfl, ?_⟩
    rw [if_neg hnot]
    exact OrderedMap.entries_insert_of_not_mem hnot p.1
  case slot => exact .inr ⟨hnew, hfresh⟩
  case found =>
    refine lookup?_eq_some_iff.2 ⟨⟨_, by rw [hset, if_pos rfl], ?_⟩, (hslot p.1).trans (if_pos rfl)⟩
    exact (OrderedMap.get?_insert ..).trans (if_pos rfl)
  case modules => exact fun j hj => by rw [hset, if_neg (Ne.symm hj), hmod]
  case declarations => exact fun j hj => (hslot j).trans (if_neg (Ne.symm hj))
  case index => exact hindex
  case detached => exact hdetached

theorem Linked.storedUnder_insertDeclaration {id : ModuleId} {m : Module} {d : Declaration}
    {st : List (ModuleId × String)} (h : Linked t [] st) (hm : t.module? id = some m)
    (hpass : d.refusal? id = none) :
    ∃ i, (t.insertDeclaration id d).1 = .ok i ∧
      StoredUnder t (t.insertDeclaration id d).2 id m d i := by
  obtain ⟨hm', -⟩ | ⟨m', hm', ⟨e, hr, -⟩ | ⟨-, ⟨i, hi, heq⟩ | ⟨hnew, heq⟩⟩⟩ := t.insertDeclaration_cases id d
  · simp [hm] at hm'
  · simp [hpass] at hr
  · obtain rfl : m = m' := Option.some.inj (hm.symm.trans hm')
    rw [heq]
    exact ⟨i, rfl, h.storedUnder_known hm hi⟩
  · obtain rfl : m = m' := Option.some.inj (hm.symm.trans hm')
    rw [heq]
    exact ⟨_, rfl, h.storedUnder_new hm hnew rfl⟩

/-- The slot that is written was empty or the module's own. -/
theorem StoredUnder.agreeOutside {id : ModuleId} {m : Module} {d : Declaration} {i : DeclarationId}
    {st : List (ModuleId × String)} (h : StoredUnder t t' id m d i) (hlinked : Linked t [] st)
    (hm : t.module? id = some m) : AgreeOutside t t' id where
  modules := h.modules
  declarations j e he := by
    by_cases hj : j = i
    · subst hj
      have hafter : t'.declaration? j ≠ some e := by
        rw [h.written]
        rintro hd
        obtain rfl := Option.some.inj hd
        exact he rfl
      have hbefore : t.declaration? j ≠ some e := by
        intro hd
        rcases h.slot with hj | ⟨-, hj⟩
        · obtain ⟨-, e', he', -, ho⟩ := hlinked.listed ⟨m, hm, hj⟩
          obtain rfl : e' = e := Option.some.inj (he'.symm.trans hd)
          exact he ho
        · simp [hj] at hd
      exact iff_of_false hafter hbefore
    · rw [h.declarations j hj]
  detached := h.detached

theorem Linked.agreeOutside_insertDeclaration (h : Linked t [] []) (id : ModuleId) (d : Declaration) :
    AgreeOutside t (t.insertDeclaration id d).2 id := by
  cases hr : (t.insertDeclaration id d).1 with
  | error e =>
    rw [insertDeclaration_unchanged hr]
    exact .refl t id
  | ok i =>
    obtain ⟨hlive, hpass⟩ := insertDeclaration_ok_iff.1 ⟨i, hr⟩
    obtain ⟨m, hm⟩ := Option.isSome_iff_exists.1 hlive
    obtain ⟨i', -, hstored⟩ := h.storedUnder_insertDeclaration hm hpass
    exact hstored.agreeOutside h hm

/-- How `t'` differs from `t` once the unowned `d` is stored: slot `i`, which held the detached declaration of
that name or, if there was none, was empty, holds it. -/
structure StoredDetached (t t' : SymbolTable) (d : Declaration) (i : DeclarationId) : Prop where
  written : t'.declaration? i = some d
  slot : (∃ known, t.declaration? i = some known ∧ known.owner = none ∧ known.name = d.name) ∧
      t'.detached = t.detached ∨
    (∀ j known, t.declaration? j = some known → known.owner = none → known.name ≠ d.name) ∧
      t.declaration? i = none ∧ t'.detached = t.detached ++ [i]
  modules : t'.modules = t.modules
  declarations : ∀ j, j ≠ i → t'.declaration? j = t.declaration? j
  index : t'.byName = t.byName

theorem Linked.storedDetached_absorbDeclaration (h : Linked t [] []) {d : Declaration} (ho : d.owner = none) :
    ∃ i, (t.absorbDeclaration d).1 = .ok i ∧ StoredDetached t (t.absorbDeclaration d).2 d i := by
  rcases absorbDeclaration_detached (t := t) ho with ⟨i, known, hi, hk, hs, heq⟩ | ⟨hnew, heq⟩
  · obtain ⟨-, known', hk', hko⟩ := h.detached.1 hi
    obtain rfl : known = known' := Option.some.inj (hk.symm.trans hk')
    have hslot := declaration?_setDeclaration hk d
    rw [heq]
    refine ⟨i, rfl, ?_⟩
    constructor
    case written => rw [hslot, if_pos rfl]
    case slot => exact .inl ⟨⟨known, hk, hko, (sameDeclaration_iff.1 hs).1⟩, rfl⟩
    case modules => rfl
    case declarations => exact fun j hj => by rw [hslot, if_neg (Ne.symm hj)]
    case index => rfl
  · have hfresh := h.free.fresh_allocate d
    have hslot := h.free.declaration?_allocate d
    rw [heq]
    refine ⟨(t.allocate d).1, rfl, ?_⟩
    constructor
    case written => exact (hslot _).trans (if_pos rfl)
    case slot =>
      refine .inr ⟨fun j known hk hko hname => ?_, hfresh, ?detached⟩
      case detached => exact congrArg (· ++ [(t.allocate d).1]) (detached_allocate t d)
      have hj : j ∈ t.detached := h.detached.2 ⟨List.not_mem_nil, known, hk, hko⟩
      have hsame := sameDeclaration_iff (t := t).2 ⟨hname, .inl ⟨hko, ho⟩⟩
      simp [hnew j hj known hk] at hsame
    case modules => exact modules_allocate t d
    case declarations => exact fun j hj => (hslot j).trans (if_neg (Ne.symm hj))
    case index => exact byName_allocate t d

/-! ## Taking in and removing a module -/

theorem declaration?_foldl_release (t : SymbolTable) (is : List DeclarationId) (j : DeclarationId) :
    (is.foldl release t).declaration? j = if j ∈ is then none else t.declaration? j := by
  induction is generalizing t with
  | nil => simp
  | cons i is ih =>
    rw [List.foldl_cons, ih, declaration?_release]
    by_cases hj : j ∈ is
    · simp [hj]
    · by_cases hij : i = j
      · simp [hij]
      · simp [hj, hij, Ne.symm hij]

@[simp] theorem detached_foldl_release (t : SymbolTable) (is : List DeclarationId) :
    (is.foldl release t).detached = t.detached := by
  induction is generalizing t with
  | nil => rfl
  | cons i is ih =>
    rw [List.foldl_cons, ih]
    unfold release
    split <;> rfl

/-- What a module lists is what it owns. -/
theorem Linked.mem_values_iff {st : List (ModuleId × String)} (h : Linked t [] st) {id : ModuleId} {m : Module}
    (hm : t.module? id = some m) {i : DeclarationId} :
    i ∈ m.declarations.values ↔ ∃ d, t.declaration? i = some d ∧ d.owner = some id := by
  rw [OrderedMap.mem_values]
  constructor
  · rintro ⟨n, hn⟩
    obtain ⟨-, d, hd, -, ho⟩ := h.listed ⟨m, hm, hn⟩
    exact ⟨d, hd, ho⟩
  · rintro ⟨d, hd, ho⟩
    have hl := (h.owned hd ho).resolve_left List.not_mem_nil
    exact ⟨d.name, (lists_iff hm).1 hl⟩

/-- A module slot may be rewritten and slots of its own declarations released. -/
theorem agreeOutside_release {id : ModuleId} {is : List DeclarationId}
    (hmod : ∀ j, j ≠ id → t'.module? j = t.module? j) (hdecl : t'.declarations = t.declarations)
    (hdetached : t'.detached = t.detached)
    (hown : ∀ i ∈ is, ∃ d, t.declaration? i = some d ∧ d.owner = some id) :
    AgreeOutside t (is.foldl SymbolTable.release t') id where
  modules j hj := by rw [module?_foldl_release, hmod j hj]
  declarations i d hd := by
    have hget : t'.declaration? i = t.declaration? i := by rw [declaration?, hdecl]; rfl
    rw [declaration?_foldl_release, hget]
    split
    · rename_i hi
      obtain ⟨e, he, ho⟩ := hown i hi
      refine iff_of_false (by simp) fun hd' => hd ?_
      rwa [← Option.some.inj (he.symm.trans hd')]
    · rfl
  detached := by rw [detached_foldl_release, hdetached]

theorem Linked.agreeOutside_prepared (h : Linked t [] []) (m : Module) (ds : List Declaration) :
    AgreeOutside t (t.prepared m ds) (t.slotFor m) := by
  unfold SymbolTable.prepared slotFor
  cases htwin : t.moduleTwin? m with
  | none => exact ⟨fun j hj => by rw [module?_insertModule]; exact if_neg hj, fun _ _ _ => Iff.rfl, rfl⟩
  | some id =>
    obtain ⟨k, hk, -⟩ := mem_of_moduleTwin? htwin
    simp only [hk, Option.map_some, Option.getD_some]
    refine agreeOutside_release (fun j hj => ?_) rfl rfl fun i hi => ?_
    · rw [module?_setModule hk, if_neg (Ne.symm hj)]
    · obtain ⟨n, hn⟩ := OrderedMap.mem_values.1 hi
      exact (h.mem_values_iff hk).1 (OrderedMap.mem_values.2 ⟨n, (get?_left_iff.1 hn).2⟩)

theorem Linked.agreeOutside_insertDeclarations {id : ModuleId} {ds : List Declaration}
    (h : Linked t [] (ds.map fun d => (id, d.name))) (hlive : (t.module? id).isSome)
    (hpass : ∀ d ∈ ds, d.refusal? id = none) : AgreeOutside t (t.insertDeclarations id ds).2 id := by
  have hrun := insertDeclarations_induction (P := fun t' ds' =>
    Linked t' [] (ds'.map fun d => (id, d.name)) ∧ AgreeOutside t t' id) ?_ hlive hpass ⟨h, .refl t id⟩
  · exact hrun.2.2
  · rintro t' d ds' hm hd ⟨hl, hagree⟩
    rw [List.map_cons] at hl
    obtain ⟨m', hm'⟩ := Option.isSome_iff_exists.1 hm
    obtain ⟨i, -, hstored⟩ := hl.storedUnder_insertDeclaration hm' hd
    exact ⟨hl.insertDeclaration hm hd, hagree.trans (hstored.agreeOutside hl hm')⟩

theorem Linked.agreeOutside_absorbModule (h : Linked t [] []) {m : Module} {ds : List Declaration}
    {id : ModuleId} (hok : (t.absorbModule m ds).1 = .ok id) :
    AgreeOutside t (t.absorbModule m ds).2 id := by
  obtain ⟨rfl, hpass, heq⟩ := absorbModule_ok hok
  have hstored := (h.prepared m ds).agreeOutside_insertDeclarations (t.isSome_module?_prepared m ds) hpass
  rw [heq]
  exact (h.agreeOutside_prepared m ds).trans hstored

theorem Linked.agreeOutside_eraseModule (h : Linked t [] []) (id : ModuleId) :
    AgreeOutside t (t.eraseModule id).2 id := by
  obtain ⟨-, heq⟩ | ⟨m, hm, heq⟩ := t.eraseModule_cases id
  · rw [heq]
    exact .refl t id
  · rw [heq]
    refine agreeOutside_release (fun j hj => ?_) rfl rfl fun i hi => (h.mem_values_iff hm).1 hi
    rw [module?_clearModule, if_neg (Ne.symm hj)]

theorem Linked.declaration?_eraseModule (h : Linked t [] []) (id : ModuleId) (i : DeclarationId) :
    (t.eraseModule id).2.declaration? i = (t.declaration? i).filter (·.owner ≠ some id) := by
  cases hd : t.declaration? i with
  | none =>
    obtain ⟨-, heq⟩ | ⟨m, hm, heq⟩ := t.eraseModule_cases id
    · simp [heq, hd]
    · rw [heq, declaration?_foldl_release]
      have hget : (t.clearModule id m).declaration? i = none := hd
      simp [hget]
  | some d =>
    by_cases ho : d.owner = some id
    · obtain ⟨hm, -⟩ | ⟨m, hm, heq⟩ := t.eraseModule_cases id
      · obtain ⟨m, hm', -⟩ := (h.owned hd ho).resolve_left List.not_mem_nil
        simp [hm] at hm'
      · rw [heq, declaration?_foldl_release, if_pos ((h.mem_values_iff hm).2 ⟨d, hd, ho⟩)]
        simp [Option.filter, ho]
    · rw [((h.agreeOutside_eraseModule id).declarations i d ho).2 hd]
      simp [Option.filter, ho]

theorem module?_eraseModule (t : SymbolTable) (id : ModuleId) :
    (t.eraseModule id).1 = t.module? id ∧ (t.eraseModule id).2.module? id = none := by
  obtain ⟨hm, heq⟩ | ⟨m, hm, heq⟩ := t.eraseModule_cases id
  · simp [heq, hm]
  · simp [heq, hm, module?_clearModule]

/-- Every call changes its target only. Taking in or removing a module leaves the other modules, what they own
and what nobody owns in place, and a stored declaration changes its own entry only. -/
theorem calls_change_only_target (ops : List Operation) :
    (∀ m ds id, ((empty.run ops).absorbModule m ds).1 = .ok id →
      AgreeOutside (empty.run ops) ((empty.run ops).absorbModule m ds).2 id) ∧
    (∀ r location time id, ((empty.run ops).absorbReport r location time).1 = .ok id →
      AgreeOutside (empty.run ops) ((empty.run ops).absorbReport r location time).2 id) ∧
    (∀ id, AgreeOutside (empty.run ops) ((empty.run ops).eraseModule id).2 id ∧
      ((empty.run ops).eraseModule id).2.module? id = none ∧
      ∀ i, ((empty.run ops).eraseModule id).2.declaration? i =
        ((empty.run ops).declaration? i).filter (·.owner ≠ some id)) ∧
    (∀ id d i, ((empty.run ops).insertDeclaration id d).1 = .ok i →
      ∃ m, (empty.run ops).module? id = some m ∧
        StoredUnder (empty.run ops) ((empty.run ops).insertDeclaration id d).2 id m d i) ∧
    (∀ d, d.owner = none → ∃ i, ((empty.run ops).absorbDeclaration d).1 = .ok i ∧
      StoredDetached (empty.run ops) ((empty.run ops).absorbDeclaration d).2 d i) := by
  have h := linked_run ops
  generalize empty.run ops = t at h
  refine ⟨fun m ds id hok => h.agreeOutside_absorbModule hok,
    fun r location time id hok => h.agreeOutside_absorbModule hok,
    fun id => ⟨h.agreeOutside_eraseModule id, (module?_eraseModule t id).2, h.declaration?_eraseModule id⟩,
    fun id d i hok => ?_, fun d ho => h.storedDetached_absorbDeclaration ho⟩
  obtain ⟨hlive, hpass⟩ := insertDeclaration_ok_iff.1 ⟨i, hok⟩
  obtain ⟨m, hm⟩ := Option.isSome_iff_exists.1 hlive
  obtain ⟨i', hok', hstored⟩ := h.storedUnder_insertDeclaration hm hpass
  obtain rfl : i = i' := Except.ok.inj (hok.symm.trans hok')
  exact ⟨m, hm, hstored⟩

/-- Removing a module leaves a detached declaration of the same name. -/
theorem calls_change_only_target_removal :
    let d : Declaration := { name := "f", kind := .other }
    let t := empty.run [.absorbModule { name := "A" } [d], .absorbDeclaration d]
    (t.eraseModule ⟨0⟩).2.declaration? ⟨0⟩ = none ∧ (t.eraseModule ⟨0⟩).2.declaration? ⟨1⟩ = some d := by
  intro d t
  have hframe := (calls_change_only_target [.absorbModule { name := "A" } [d], .absorbDeclaration d]).2.2.1 ⟨0⟩
  have howned : t.declaration? ⟨0⟩ = some (d.storedIn ⟨0⟩ none) := by decide +zetaReduce
  have hdetached : t.declaration? ⟨1⟩ = some d := by decide +zetaReduce
  obtain ⟨hagree, -, hremoved⟩ := hframe
  refine ⟨(hremoved ⟨0⟩).trans ?_, (hagree.declarations ⟨1⟩ d (by simp [d])).2 hdetached⟩
  rw [howned]
  rfl

end SymbolGraph.SymbolTable
