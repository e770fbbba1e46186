import SymbolGraph.Proofs.Ownership

/-!
# What taking in a module leaves behind

A look-up sees the last declaration given for a name and nothing of an earlier version of the module, whether
there was one or not.
-/
namespace SymbolGraph.SymbolTable
variable {t t' : SymbolTable}

theorem lookup?_eq_some_iff {id : ModuleId} {n : String} {i : DeclarationId} {d : Declaration} :
    t.lookup? id n = some (i, d) ↔ t.Lists id n i ∧ t.declaration? i = some d := by
  simp only [lookup?, Lists, stored?, Option.bind_eq_some_iff, Option.map_eq_some_iff, Prod.mk.injEq]
  constructor
  · rintro ⟨m, hm, j, hj, e, he, rfl, rfl⟩
    exact ⟨⟨m, hm, hj⟩, he⟩
  · rintro ⟨⟨m, hm, hi⟩, hd⟩
    exact ⟨m, hm, i, hi, d, hd, rfl, rfl⟩

theorem lookup?_congr {id : ModuleId} {n : String} (hl : ∀ i, t'.Lists id n i ↔ t.Lists id n i)
    (hd : ∀ i, t.Lists id n i → t'.declaration? i = t.declaration? i) : t'.lookup? id n = t.lookup? id n := by
  refine Option.ext fun ⟨i, d⟩ => ?_
  rw [lookup?_eq_some_iff, lookup?_eq_some_iff, hl]
  exact and_congr_right fun hi => by rw [hd i hi]

/-- A stored declaration is written in one slot, which its module lists under its name and nothing else lists. -/
theorem Linked.insertDeclaration_slot {id : ModuleId} {m : Module} {d : Declaration}
    {st : List (ModuleId × String)} (h : Linked t [] st) (hm : t.module? id = some m)
    (hpass : d.refusal? id = none) :
    ∃ i, (∀ id' n j, (t.insertDeclaration id d).2.Lists id' n j ↔
        t.Lists id' n j ∨ id = id' ∧ d.name = n ∧ i = j) ∧
      (∀ id' n, t.Lists id' n i → id = id' ∧ d.name = n) ∧
      ∀ j, (t.insertDeclaration id d).2.declaration? j =
        if i = j then some (d.storedIn id m.location) else t.declaration? j := by
  obtain ⟨hm', -⟩ | ⟨m', hm', ⟨e, hr, -⟩ | ⟨-, ⟨i, hi, heq⟩ | ⟨hnew, heq⟩⟩⟩ := t.insertDeclaration_cases id d
  · simp [hm] at hm'
  · simp [hpass] at hr
  · rw [heq]
    obtain rfl : m = m' := Option.some.inj (hm.symm.trans hm')
    have hl : t.Lists id d.name i := ⟨m, hm, hi⟩
    obtain ⟨-, d₀, hd₀, -⟩ := h.listed hl
    refine ⟨i, fun id' n j => ⟨.inl, ?_⟩, fun id' n hl' => h.lists_inj hl hl', ?_⟩
    · rintro (hl' | ⟨rfl, rfl, rfl⟩)
      · exact hl'
      · exact hl
    · exact declaration?_setDeclaration hd₀ _
  · rw [heq]
    obtain rfl : m = m' := Option.some.inj (hm.symm.trans hm')
    have hfresh := h.free.fresh_allocate (d.storedIn id m.location)
    refine ⟨(t.allocate (d.storedIn id m.location)).1, ?_, fun id' n hl => ?_, ?_⟩
    · intro id' n j
      rw [lists_setModule_insert (by rwa [module?_allocate]) hnew]
      simp [Lists]
    · obtain ⟨-, e, he, -⟩ := h.listed hl
      simp [hfresh] at he
    · exact h.free.declaration?_allocate _

theorem Linked.lookup?_insertDeclaration {id : ModuleId} {m : Module} {d : Declaration}
    {st : List (ModuleId × String)} (h : Linked t [] st) (hm : t.module? id = some m)
    (hpass : d.refusal? id = none) (n : String) :
    ((t.insertDeclaration id d).2.lookup? id n).map Prod.snd =
      if d.name = n then some (d.storedIn id m.location) else (t.lookup? id n).map Prod.snd := by
  obtain ⟨i, hl, honly, hd⟩ := h.insertDeclaration_slot hm hpass
  by_cases hn : d.name = n
  · subst hn
    have hfound : (t.insertDeclaration id d).2.lookup? id d.name = some (i, d.storedIn id m.location) :=
      lookup?_eq_some_iff.2 ⟨(hl id d.name i).2 (.inr ⟨rfl, rfl, rfl⟩), by rw [hd, if_pos rfl]⟩
    rw [hfound, if_pos rfl, Option.map_some]
  · rw [if_neg hn]
    refine congrArg _ (lookup?_congr (fun j => ?_) fun j hj => ?_)
    · rw [hl]
      simp [hn]
    · rw [hd, if_neg]
      rintro rfl
      exact hn (honly id n hj).2

def lastNamed (ds : List Declaration) (n : String) : Option Declaration :=
  (ds.filter fun d => d.name = n).getLast?

theorem lastNamed_cons (d : Declaration) (ds : List Declaration) (n : String) :
    lastNamed (d :: ds) n = (lastNamed ds n).or (if d.name = n then some d else none) := by
  by_cases hn : d.name = n
  · cases hl : (ds.filter fun d => d.name = n).getLast? <;> simp [lastNamed, hn, List.getLast?_cons, hl]
  · simp [lastNamed, hn]

theorem mem_of_lastNamed {ds : List Declaration} {n : String} {d : Declaration} (h : lastNamed ds n = some d) :
    d ∈ ds ∧ d.name = n := by
  obtain ⟨hmem, hn⟩ := List.mem_filter.1 (List.mem_of_getLast? h)
  exact ⟨hmem, by simpa using hn⟩

theorem lastNamed_eq_none_iff {ds : List Declaration} {n : String} :
    lastNamed ds n = none ↔ n ∉ ds.map Declaration.name := by
  rw [lastNamed, List.getLast?_eq_none_iff, List.filter_eq_nil_iff]
  simp

theorem module?_of_bareModule? {id : ModuleId} {b : Module} (h : t.bareModule? id = some b) :
    ∃ m, t.module? id = some m ∧ m.name = b.name ∧ m.exports = b.exports ∧ m.imports = b.imports ∧
      m.location = b.location ∧ m.inspectedAt = b.inspectedAt := by
  obtain ⟨m, hm, rfl⟩ := Option.map_eq_some_iff.1 h
  exact ⟨m, hm, rfl, rfl, rfl, rfl, rfl⟩

/-- Storing declarations one after the other leaves the last one of each name. -/
theorem Linked.lookup?_insertDeclarations {id : ModuleId} {m : Module} {ds : List Declaration}
    (h : Linked t [] (ds.map fun d => (id, d.name))) (hm : t.module? id = some m)
    (hpass : ∀ d ∈ ds, d.refusal? id = none) (n : String) :
    ((t.insertDeclarations id ds).2.lookup? id n).map Prod.snd =
      ((lastNamed ds n).map (·.storedIn id m.location)).or ((t.lookup? id n).map Prod.snd) := by
  let owed (t : SymbolTable) (ds : List Declaration) : Option Declaration :=
    ((lastNamed ds n).map (·.storedIn id m.location)).or ((t.lookup? id n).map Prod.snd)
  have hrun := insertDeclarations_induction (P := fun t' ds' =>
    Linked t' [] (ds'.map fun d => (id, d.name)) ∧
      (∃ m', t'.module? id = some m' ∧ m'.location = m.location) ∧ owed t' ds' = owed t ds) ?_
    (by simp [hm]) hpass ⟨h, ⟨m, hm, rfl⟩, rfl⟩
  · obtain ⟨-, -, hend⟩ := hrun.2
    simpa [owed, lastNamed] using hend
  · rintro t' d ds' hlive hd ⟨hl, ⟨m', hm', hloc⟩, howed⟩
    rw [List.map_cons] at hl
    refine ⟨hl.insertDeclaration hlive hd, ?_, ?_⟩
    · have hbare := bareModule?_of_module? hm'
      rw [← bareModule?_insertDeclaration t' id d id] at hbare
      obtain ⟨m'', hm'', -, -, -, hloc', -⟩ := module?_of_bareModule? hbare
      exact ⟨m'', hm'', hloc'.trans hloc⟩
    · rw [← howed]
      simp only [owed, lastNamed_cons, hl.lookup?_insertDeclaration hm' hd, hloc]
      by_cases hn : d.name = n <;> cases lastNamed ds' n <;> simp [hn]

theorem bareModule?_insertDeclarations {id : ModuleId} {ds : List Declaration}
    (hlive : (t.module? id).isSome) (hpass : ∀ d ∈ ds, d.refusal? id = none) (j : ModuleId) :
    (t.insertDeclarations id ds).2.bareModule? j = t.bareModule? j := by
  have hrun := insertDeclarations_induction (P := fun t' _ => t'.bareModule? j = t.bareModule? j) ?_
    hlive hpass rfl
  · exact hrun.2
  · intro t' d ds' _ _ h
    rw [bareModule?_insertDeclaration, h]

/-- The prepared module keeps the slots of the names that are declared again. -/
theorem lists_prepared (t : SymbolTable) (m : Module) (ds : List Declaration) (n : String)
    (i : DeclarationId) : (t.prepared m ds).Lists (t.slotFor m) n i ↔
      n ∈ ds.map Declaration.name ∧ t.Lists (t.slotFor m) n i := by
  unfold prepared slotFor
  cases htwin : t.moduleTwin? m with
  | none =>
    have hfresh := module?_fresh t
    simp [Lists, module?_insertModule, hfresh]
  | some id =>
    obtain ⟨k, hk, -⟩ := mem_of_moduleTwin? htwin
    simp [Lists, module?_setModule hk, hk, get?_kept_iff]

theorem bareModule?_absorbModule {m : Module} {ds : List Declaration} {id : ModuleId}
    (hok : (t.absorbModule m ds).1 = .ok id) (j : ModuleId) :
    (t.absorbModule m ds).2.bareModule? j =
      if j = id then some { m.attributeImports with declarations := .empty } else t.bareModule? j := by
  obtain ⟨rfl, hpass, heq⟩ := absorbModule_ok hok
  rw [heq, bareModule?_insertDeclarations (t.isSome_module?_prepared m ds) hpass, bareModule?_prepared]

theorem Linked.lookup?_absorbModule (h : Linked t [] []) {m : Module} {ds : List Declaration}
    {id : ModuleId} (hok : (t.absorbModule m ds).1 = .ok id) (n : String) :
    ((t.absorbModule m ds).2.lookup? id n).map Prod.snd =
      (lastNamed ds n).map (·.storedIn id m.location) := by
  obtain ⟨rfl, hpass, heq⟩ := absorbModule_ok hok
  have hbare := t.bareModule?_prepared m ds (t.slotFor m)
  rw [if_pos rfl] at hbare
  obtain ⟨k, hk, -, -, -, hloc, -⟩ := module?_of_bareModule? hbare
  have hloc' : k.location = m.location := hloc
  rw [heq, (h.prepared m ds).lookup?_insertDeclarations hk hpass, hloc']
  cases hlast : lastNamed ds n with
  | some d => rfl
  | none =>
    -- a name that is not declared again is not kept either
    have hnot : n ∉ ds.map Declaration.name := lastNamed_eq_none_iff.1 hlast
    cases hl : (t.prepared m ds).lookup? (t.slotFor m) n with
    | none => rfl
    | some p =>
      have hlists := (lookup?_eq_some_iff.1 hl).1
      exact absurd ((lists_prepared t m ds n p.1).1 hlists).1 hnot

/-- A module that was taken in has what was given, and a look-up in it sees the last declaration given for
each name and nothing else. No declaration of an earlier version is left in its name. -/
theorem absorbModule_leaves_given (ops : List Operation) (m : Module) (ds : List Declaration)
    (id : ModuleId) (hok : ((empty.run ops).absorbModule m ds).1 = .ok id) :
    id = (empty.run ops).slotFor m ∧
    (∃ m', ((empty.run ops).absorbModule m ds).2.module? id = some m' ∧ m'.name = m.name ∧
      m'.exports = m.exports ∧ m'.inspectedAt = m.inspectedAt ∧ m'.location = m.location ∧
      m'.imports = m.imports.map fun i => { i with location := m.location }) ∧
    (∀ n, (((empty.run ops).absorbModule m ds).2.lookup? id n).map Prod.snd =
      (lastNamed ds n).map (·.storedIn id m.location)) ∧
    (∀ i d, ((empty.run ops).absorbModule m ds).2.declaration? i = some d → d.owner = some id →
      ∃ given, lastNamed ds d.name = some given ∧ d = given.storedIn id m.location) := by
  have h := linked_run ops
  generalize empty.run ops = t at h hok
  have hlookup := h.lookup?_absorbModule hok
  refine ⟨(absorbModule_ok hok).1, ?_, hlookup, fun i d hd ho => ?_⟩
  · have hbare := bareModule?_absorbModule hok id
    rw [if_pos rfl] at hbare
    obtain ⟨m', hm', hname, hexports, himports, hloc, htime⟩ := module?_of_bareModule? hbare
    exact ⟨m', hm', hname, hexports, htime, hloc, himports⟩
  · have hl := ((h.absorbModule m ds).owned hd ho).resolve_left List.not_mem_nil
    have hfound := hlookup d.name
    rw [lookup?_eq_some_iff.2 ⟨hl, hd⟩, Option.map_some] at hfound
    obtain ⟨given, hgiven, heq⟩ := Option.map_eq_some_iff.1 hfound.symm
    exact ⟨given, hgiven, heq.symm⟩

/-- A newer version drops `f`, keeps `g` and gives it twice. -/
theorem absorbModule_leaves_given_newer :
    let m : Module := { name := "A" }
    let ops : List Operation := [.absorbModule m [{ name := "f", kind := .other }, { name := "g", kind := .other }]]
    let ds : List Declaration :=
      [{ name := "g", kind := .other }, { name := "h", kind := .other }, { name := "g", kind := .function none }]
    ((empty.run ops).absorbModule m ds).1 = .ok ⟨0⟩ ∧
      (((empty.run ops).absorbModule m ds).2.lookup? ⟨0⟩ "f").map Prod.snd = none ∧
      (((empty.run ops).absorbModule m ds).2.lookup? ⟨0⟩ "g").map Prod.snd =
        some { name := "g", kind := .function none, owner := some ⟨0⟩ } := by
  intro m ops ds
  have hslot : (empty.run ops).slotFor m = ⟨0⟩ := by decide +zetaReduce
  have hpass : ds.findSome? (·.refusal? ((empty.run ops).slotFor m)) = none := by decide +zetaReduce
  have hok : ((empty.run ops).absorbModule m ds).1 = .ok ⟨0⟩ := by rw [absorbModule_of_passed hpass, hslot]
  have hf : lastNamed ds "f" = none := by decide
  have hg : lastNamed ds "g" = some { name := "g", kind := .function none } := by decide
  obtain ⟨-, -, hlookup, -⟩ := absorbModule_leaves_given ops m ds ⟨0⟩ hok
  exact ⟨hok, by rw [hlookup, hf]; rfl, by rw [hlookup, hg]; rfl⟩

end SymbolGraph.SymbolTable
