import SymbolGraph.Proofs.Linkage

/-!
# Ownership: every run keeps modules, declarations and slots in step

Each call starts and ends without debts. A merge goes through three stages: the module takes its slot and keeps
the slots of the names declared again, the slots of the other names are released, and the declarations are
stored, which brings each kept name up to date.
-/
namespace SymbolGraph.SymbolTable
variable {t : SymbolTable}

/-! ## The stages of a merge -/

/-- Names declared again move to `kept` with their slots, and the others stay behind. -/
theorem get?_keepSlots (kept old : OrderedMap String DeclarationId) (ds : List Declaration) (n : String) :
    (keepSlots kept old ds).1.get? n =
        (if n ∈ ds.map Declaration.name then (old.get? n).or (kept.get? n) else kept.get? n) ∧
      (keepSlots kept old ds).2.get? n = if n ∈ ds.map Declaration.name then none else old.get? n := by
  induction ds generalizing kept old with
  | nil => simp [keepSlots]
  | cons d ds ih =>
    rw [keepSlots]
    cases hd : old.get? d.name with
    | none =>
      obtain ⟨hk, ho⟩ := ih kept old
      rw [hk, ho]
      by_cases hn : n = d.name
      · subst hn
        simp [hd]
      · simp [hn]
    | some i =>
      obtain ⟨hk, ho⟩ := ih (kept.insert d.name i) (old.erase d.name)
      rw [hk, ho, OrderedMap.get?_insert, OrderedMap.get?_erase]
      by_cases hn : d.name = n
      · subst hn
        simp [hd]
      · simp [hn, Ne.symm hn]

theorem get?_kept_iff {old : OrderedMap String DeclarationId} {ds : List Declaration} {n : String}
    {i : DeclarationId} : (keepSlots .empty old ds).1.get? n = some i ↔
      n ∈ ds.map Declaration.name ∧ old.get? n = some i := by
  rw [(get?_keepSlots .empty old ds n).1]
  by_cases hn : n ∈ ds.map Declaration.name <;> simp [hn]

theorem get?_left_iff {old : OrderedMap String DeclarationId} {ds : List Declaration} {n : String}
    {i : DeclarationId} : (keepSlots .empty old ds).2.get? n = some i ↔
      n ∉ ds.map Declaration.name ∧ old.get? n = some i := by
  rw [(get?_keepSlots .empty old ds n).2]
  by_cases hn : n ∈ ds.map Declaration.name <;> simp [hn]

theorem Linked.prepared (h : Linked t [] []) (m : Module) (ds : List Declaration) :
    Linked (t.prepared m ds) [] (ds.map fun d => (t.slotFor m, d.name)) := by
  unfold SymbolTable.prepared slotFor
  cases htwin : t.moduleTwin? m with
  | none => exact (h.insertModule m).weaken (by simp)
  | some id =>
    obtain ⟨k, hk, -⟩ := mem_of_moduleTwin? htwin
    have hname {n n' i} (hn : k.declarations.get? n = some i) (hn' : k.declarations.get? n' = some i) :
        n = n' := (h.lists_inj ⟨k, hk, hn⟩ ⟨k, hk, hn'⟩).2
    have hset := module?_setModule hk
      { m.attributeImports with declarations := (keepSlots .empty k.declarations ds).1 }
    have hself := hset id
    rw [if_pos rfl] at hself
    simp only [hk, Option.map_some, Option.getD_some]
    apply Linked.foldl_release
    refine h.relist hk ?other rfl rfl rfl ?kept ?dropped ?released ?nodup ?imports
    case other =>
      intro j hj
      rw [hset, if_neg (Ne.symm hj)]
    case kept =>
      intro n i hl
      obtain ⟨hn, hi⟩ := get?_kept_iff.1 ((lists_iff hself).1 hl)
      refine ⟨hi, fun hmem => ?_, ?_⟩
      · obtain ⟨n', hn'⟩ := OrderedMap.mem_values.1 hmem
        obtain ⟨hnot, hi'⟩ := get?_left_iff.1 hn'
        exact hnot (hname hi hi' ▸ hn)
      · obtain ⟨d, hd, rfl⟩ := List.mem_map.1 hn
        exact List.mem_map.2 ⟨d, hd, rfl⟩
    case dropped =>
      intro n i hi
      by_cases hn : n ∈ ds.map Declaration.name
      · exact .inr ((lists_iff hself).2 (get?_kept_iff.2 ⟨hn, hi⟩))
      · exact .inl (OrderedMap.mem_values.2 ⟨n, get?_left_iff.2 ⟨hn, hi⟩⟩)
    case released =>
      intro i hi
      obtain ⟨n, hn⟩ := OrderedMap.mem_values.1 hi
      exact ⟨n, (get?_left_iff.1 hn).2⟩
    case nodup =>
      refine OrderedMap.values_nodup fun n n' i hn hn' => ?_
      exact hname (get?_left_iff.1 hn).2 (get?_left_iff.1 hn').2
    case imports =>
      intro m' hm'
      obtain rfl := Option.some.inj (hself.symm.trans hm')
      simp [Module.attributeImports]

theorem Linked.insertDeclaration {id : ModuleId} {d : Declaration} {st : List (ModuleId × String)}
    (h : Linked t [] ((id, d.name) :: st)) (hlive : (t.module? id).isSome) (hpass : d.refusal? id = none) :
    Linked (t.insertDeclaration id d).2 [] st := by
  obtain ⟨hm, -⟩ | ⟨m, hm, ⟨e, hr, -⟩ | ⟨-, ⟨i, hi, heq⟩ | ⟨hnew, heq⟩⟩⟩ := t.insertDeclaration_cases id d
  · simp [hm] at hlive
  · simp [hpass] at hr
  · rw [heq]
    obtain ⟨-, d₀, hd₀, hn, ho⟩ := h.listed ⟨m, hm, hi⟩
    refine h.setDeclaration hd₀ hn.symm ho.symm ?_ ?_
    · intro id' m' hid hm'
      obtain rfl : id = id' := Option.some.inj hid
      obtain rfl : m = m' := Option.some.inj (hm.symm.trans hm')
      rfl
    · intro p hp
      rcases List.mem_cons.1 hp with rfl | hp
      · exact .inr ⟨rfl, rfl⟩
      · exact .inl hp
  · rw [heq]
    have hwait := h.allocate (d.storedIn id m.location)
    have hslot := h.free.declaration?_allocate (d.storedIn id m.location)
    have hm' : (t.allocate (d.storedIn id m.location)).2.module? id = some m := by rwa [module?_allocate]
    exact Linked.adopt (d := d.storedIn id m.location) hwait hm' (by rw [hslot, if_pos rfl]) rfl rfl hnew

theorem Linked.insertDeclarations {id : ModuleId} {ds : List Declaration}
    (h : Linked t [] (ds.map fun d => (id, d.name))) (hlive : (t.module? id).isSome)
    (hpass : ∀ d ∈ ds, d.refusal? id = none) : Linked (t.insertDeclarations id ds).2 [] [] := by
  have hrun := insertDeclarations_induction
    (P := fun t (ds : List Declaration) => Linked t [] (ds.map fun d => (id, d.name))) ?_ hlive hpass h
  · exact hrun.2
  · intro t d ds hm hd hl
    rw [List.map_cons] at hl
    exact hl.insertDeclaration hm hd

/-! ## Calls -/

theorem Linked.absorbModule (h : Linked t [] []) (m : Module) (ds : List Declaration) :
    Linked (t.absorbModule m ds).2 [] [] := by
  cases hr : ds.findSome? (·.refusal? (t.slotFor m)) with
  | some e =>
    rw [absorbModule_of_refusal hr]
    exact h
  | none =>
    rw [absorbModule_of_passed hr]
    have hlive := t.isSome_module?_prepared m ds
    exact (h.prepared m ds).insertDeclarations hlive (List.findSome?_eq_none_iff.1 hr)

/-- The table without the module in slot `id`, whose declarations are still in their slots. -/
def clearModule (t : SymbolTable) (id : ModuleId) (m : Module) : SymbolTable :=
  { t with
    modules := t.modules.clear id.index
    byName := t.byName.alter m.name fun ids => (ids.getD []).filter (· ≠ id) }

theorem module?_clearModule (t : SymbolTable) (id : ModuleId) (m : Module) (j : ModuleId) :
    (t.clearModule id m).module? j = if id = j then none else t.module? j := by
  simp [clearModule, module?, Slots.get?_clear]

theorem eraseModule_cases (t : SymbolTable) (id : ModuleId) :
    (t.module? id = none ∧ t.eraseModule id = (none, t)) ∨
      ∃ m, t.module? id = some m ∧
        t.eraseModule id = (some m, m.declarations.values.foldl SymbolTable.release (t.clearModule id m)) := by
  cases hm : t.module? id with
  | none => exact .inl ⟨rfl, by simp [eraseModule, hm]⟩
  | some m => exact .inr ⟨m, rfl, by simp [eraseModule, hm, clearModule]⟩

theorem Linked.eraseModule (h : Linked t [] []) (id : ModuleId) : Linked (t.eraseModule id).2 [] [] := by
  obtain ⟨-, heq⟩ | ⟨m, hm, heq⟩ := t.eraseModule_cases id
  · rw [heq]
    exact h
  · rw [heq]
    have hgone : (t.clearModule id m).module? id = none := by rw [module?_clearModule, if_pos rfl]
    have hnone {n i} : ¬(t.clearModule id m).Lists id n i := by simp [Lists, hgone]
    apply Linked.foldl_release
    refine h.relist hm ?other rfl rfl rfl ?kept ?dropped ?released (h.values_nodup hm) ?imports
    case other =>
      intro j hj
      rw [module?_clearModule, if_neg (Ne.symm hj)]
    case kept => exact fun hl => absurd hl hnone
    case dropped => exact fun hn => .inl (OrderedMap.mem_values.2 ⟨_, hn⟩)
    case released => exact fun i hi => OrderedMap.mem_values.1 hi
    case imports =>
      intro m' hm'
      rw [hgone] at hm'
      cases hm'

theorem Linked.insertDeclaration_call (h : Linked t [] []) (id : ModuleId) (d : Declaration) :
    Linked (t.insertDeclaration id d).2 [] [] := by
  cases hr : (t.insertDeclaration id d).1 with
  | error e =>
    rw [insertDeclaration_unchanged hr]
    exact h
  | ok i =>
    obtain ⟨hlive, hpass⟩ := insertDeclaration_ok_iff.1 ⟨i, hr⟩
    have hdue : Linked t [] [(id, d.name)] := h.weaken fun _ hp => absurd hp List.not_mem_nil
    exact hdue.insertDeclaration hlive hpass

theorem sameDeclaration_iff {d e : Declaration} : t.sameDeclaration d e = true ↔
    d.name = e.name ∧ (d.owner = none ∧ e.owner = none ∨
      ∃ a b m n, d.owner = some a ∧ e.owner = some b ∧ t.module? a = some m ∧ t.module? b = some n ∧
        m.same n = true) := by
  cases hd : d.owner <;> cases he : e.owner <;> simp [sameDeclaration, hd, he, Option.any_eq_true]

theorem Linked.absorbDeclaration (h : Linked t [] []) (d : Declaration) :
    Linked (t.absorbDeclaration d).2 [] [] := by
  cases ho : d.owner with
  | some id =>
    rw [absorbDeclaration_owned ho]
    exact h.insertDeclaration_call id d
  | none =>
    rcases absorbDeclaration_detached (t := t) ho with ⟨i, known, hi, hk, hs, heq⟩ | ⟨hnew, heq⟩
    · rw [heq]
      obtain ⟨-, known', hk', hko⟩ := h.detached.1 hi
      obtain rfl : known = known' := Option.some.inj (hk.symm.trans hk')
      have hname : known.name = d.name := (sameDeclaration_iff.1 hs).1
      refine h.setDeclaration hk hname.symm (ho.trans hko.symm) ?_ fun p hp => .inl hp
      intro id m hid
      rw [ho] at hid
      cases hid
    · rw [heq]
      have hslot := h.free.declaration?_allocate d
      refine (h.allocate d).detach (by rw [hslot, if_pos rfl]) ho ?_
      intro j hj e he hname
      rw [detached_allocate] at hj
      obtain ⟨-, e', he', ho'⟩ := h.detached.1 hj
      have hfresh := h.free.fresh_allocate d
      have hij : (t.allocate d).1 ≠ j := by
        rintro rfl
        simp [hfresh] at he'
      rw [hslot, if_neg hij, he', Option.some.injEq] at he
      subst he
      have hdiff := hnew j hj e' he'
      rw [sameDeclaration_iff.2 ⟨hname, .inl ⟨ho', ho⟩⟩] at hdiff
      cases hdiff

theorem linked_empty : Linked empty [] [] := by
  have hm (id : ModuleId) : empty.module? id = none := Slots.get?_empty _
  have hd (i : DeclarationId) : empty.declaration? i = none := Slots.get?_empty _
  have hdetached : empty.detached = [] := rfl
  have hfree : FreeExact empty := ⟨.nil, fun i => by simp [empty, Slots.empty, Slots.size]⟩
  constructor <;> simp [Lists, hm, hd, hdetached, hfree]

theorem Linked.step (h : Linked t [] []) (op : Operation) : Linked (t.step op) [] [] := by
  cases op with
  | insertModule m => exact h.insertModule m
  | absorbModule m ds => exact h.absorbModule m ds
  | absorbReport r location time => exact h.absorbModule _ _
  | eraseModule id => exact h.eraseModule id
  | insertDeclaration id d => exact h.insertDeclaration_call id d
  | absorbDeclaration d => exact h.absorbDeclaration d

/-- No debts are left after any run. -/
theorem linked_run (ops : List Operation) : Linked (empty.run ops) [] [] :=
  run_induction (P := fun t => Linked t [] []) (fun _ op _ h => h.step op) linked_empty

/-- Modules, declarations and slots agree. Names and owners are read off both sides: what a module lists is
what it owns, and what nobody lists is detached or an emptied slot. -/
structure Coherent (t : SymbolTable) : Prop where
  listed : ∀ id m, t.module? id = some m → ∀ n i, (n, i) ∈ m.declarations.entries →
    ∃ d, t.declaration? i = some d ∧ d.name = n ∧ d.owner = some id ∧ d.location = m.location
  owned : ∀ i d id, t.declaration? i = some d → d.owner = some id →
    ∀ id' n, t.Lists id' n i ↔ id' = id ∧ n = d.name
  detached : ∀ i, i ∈ t.detached ↔ ∃ d, t.declaration? i = some d ∧ d.owner = none
  detached_nodup : t.detached.Nodup
  detached_names : (t.detached.map fun i => (t.declaration? i).map Declaration.name).Nodup
  free_nodup : t.free.Nodup
  free : ∀ i : DeclarationId, i ∈ t.free ↔ i.index < t.declarations.size ∧ t.declaration? i = none
  imports : ∀ id m, t.module? id = some m → ∀ i ∈ m.imports, i.location = m.location

theorem Linked.detached_names_nodup {st : List (ModuleId × String)} (h : Linked t [] st) :
    (t.detached.map fun i => (t.declaration? i).map Declaration.name).Nodup := by
  refine List.pairwise_map.2 (h.detached_nodup.imp_of_mem ?_)
  intro i j hi hj hij heq
  obtain ⟨-, d, hd, -⟩ := h.detached.1 hi
  obtain ⟨-, e, he, -⟩ := h.detached.1 hj
  have hname : d.name = e.name := by simpa [hd, he] using heq
  exact hij (h.detached_names hi hj hd he hname)

/-- Modules, declarations and slots agree after every run, whatever its calls are given and however they end. -/
theorem coherent_run (ops : List Operation) : Coherent (empty.run ops) := by
  have h := linked_run ops
  generalize empty.run ops = t at h
  constructor
  case listed =>
    intro id m hm n i hmem
    have hn := OrderedMap.get?_eq_some_iff.2 hmem
    obtain ⟨-, d, hd, hname, ho⟩ := h.listed ⟨m, hm, hn⟩
    have hloc := (h.located hm hn hd).resolve_right List.not_mem_nil
    exact ⟨d, hd, hname, ho, hloc⟩
  case owned =>
    intro i d id hd ho id' n
    have hl := (h.owned hd ho).resolve_left List.not_mem_nil
    constructor
    · intro hl'
      exact h.lists_inj hl' hl
    · rintro ⟨rfl, rfl⟩
      exact hl
  case detached =>
    intro i
    rw [h.detached]
    exact and_iff_right List.not_mem_nil
  case detached_nodup => exact h.detached_nodup
  case detached_names => exact h.detached_names_nodup
  case free_nodup => exact h.free.nodup
  case free => exact h.free.mem_iff
  case imports => exact fun id m hm => h.imports hm

end SymbolGraph.SymbolTable
