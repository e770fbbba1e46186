import SymbolGraph.Proofs.NameIndex
import SymbolGraph.Proofs.QualifiedNames
import SymbolGraph.Symbol.Resolution

/-!
# Names are resolved by their rule

The rule is stated over modules, names and slots alone. That a walk over the declarations of a module and a
look-up in the name index come to the same is due to both being kept in step with the slots.
-/
namespace SymbolGraph

/-- One of the imports that the declaration came through has the alias or the module name `q`. -/
def Declaration.IsImportedAs (d : Declaration) (q : String) : Prop :=
  ∃ i ∈ d.imported, i.knownAs = some q ∨ i.moduleName = q

theorem Declaration.isImportedAs_iff {d : Declaration} {q : String} :
    d.IsImportedAs q ↔ d.imported.any (·.answersTo q) = true := by
  simp [IsImportedAs, Import.answersTo]

/-- What a qualifier stands for in a module: the modules imported under it, in import order, and the one that
has this name. -/
def Module.targets (m : Module) (q : String) : List String :=
  (m.imports.filter fun i => i.knownAs = some q).map Import.moduleName ++ [q]

theorem Module.aliased_append (m : Module) (q : String) : m.aliased q ++ [q] = m.targets q := by
  have hfilter : (m.imports.filter fun i => i.knownAs == some q) =
      m.imports.filter fun i => i.knownAs = some q :=
    List.filter_congr fun i _ => Bool.beq_eq_decide_eq _ _
  rw [aliased, targets, hfilter]

theorem Module.mem_targets {m : Module} {q target : String} :
    target ∈ m.targets q ↔ target = q ∨ ∃ i ∈ m.imports, i.knownAs = some q ∧ i.moduleName = target := by
  simp [targets, and_assoc, or_comm]

namespace SymbolTable
variable {t : SymbolTable} {id : ModuleId} {n q : String}

/-! ## Modules of a name -/

def Unlisted (t : SymbolTable) (n target : String) : Prop :=
  ∀ j m, t.module? j = some m → m.name = target → t.lookup? j n = none

theorem Indexed.lookupIn?_eq_none_iff (h : Indexed t) {target : String} :
    t.lookupIn? n target = none ↔ Unlisted t n target := by
  rw [lookupIn?, List.findSome?_eq_none_iff]
  constructor
  · intro hnone j m hm hname
    exact hnone (j, m) (h.mem_modulesNamed.2 ⟨hm, hname⟩)
  · rintro hnone ⟨j, m⟩ hp
    obtain ⟨hm, hname⟩ := h.mem_modulesNamed.1 hp
    exact hnone j m hm hname

theorem Indexed.lookupIn?_eq_some_iff (h : Indexed t) {target : String} {r : DeclarationId × Declaration} :
    t.lookupIn? n target = some r ↔
      ∃ j m, t.module? j = some m ∧ m.name = target ∧ t.lookup? j n = some r ∧
        ∀ k m', k.index < j.index → t.module? k = some m' → m'.name = target → t.lookup? k n = none := by
  rw [lookupIn?, findSome?_of_ascending (h.modulesNamed_ascending target)]
  constructor
  · rintro ⟨⟨j, m⟩, hp, hr, hfirst⟩
    obtain ⟨hm, hname⟩ := h.mem_modulesNamed.1 hp
    refine ⟨j, m, hm, hname, hr, fun k m' hlt hm' hname' => ?_⟩
    exact hfirst (k, m') (h.mem_modulesNamed.2 ⟨hm', hname'⟩) hlt
  · rintro ⟨j, m, hm, hname, hr, hfirst⟩
    refine ⟨(j, m), h.mem_modulesNamed.2 ⟨hm, hname⟩, hr, ?_⟩
    rintro ⟨k, m'⟩ hp hlt
    obtain ⟨hm', hname'⟩ := h.mem_modulesNamed.1 hp
    exact hfirst k m' hlt hm' hname'

/-! ## Declarations of the module itself -/

theorem Linked.name_owner_of_lookup? {st : List (ModuleId × String)} (h : Linked t [] st) {i : DeclarationId}
    {d : Declaration} (hl : t.lookup? id n = some (i, d)) : d.name = n ∧ d.owner = some id := by
  obtain ⟨hlists, hd⟩ := lookup?_eq_some_iff.1 hl
  obtain ⟨-, d', hd', hn, ho⟩ := h.listed hlists
  obtain rfl : d' = d := Option.some.inj (hd'.symm.trans hd)
  exact ⟨hn, ho⟩

theorem Linked.mem_declarationsOf {st : List (ModuleId × String)} (h : Linked t [] st) {i : DeclarationId}
    {d : Declaration} : (i, d) ∈ t.declarationsOf id ↔ t.lookup? id d.name = some (i, d) := by
  rw [lookup?_eq_some_iff]
  cases hm : t.module? id with
  | none => simp [declarationsOf, Lists, hm]
  | some m =>
    simp only [declarationsOf, hm, List.mem_filterMap, stored?, Option.map_eq_some_iff, Prod.mk.injEq,
      OrderedMap.mem_values, lists_iff hm]
    constructor
    · rintro ⟨j, ⟨n, hn⟩, e, he, rfl, rfl⟩
      obtain ⟨-, e', he', rfl, -⟩ := h.listed ⟨m, hm, hn⟩
      obtain rfl : e' = e := Option.some.inj (he'.symm.trans he)
      exact ⟨hn, he⟩
    · rintro ⟨hn, hd⟩
      exact ⟨i, ⟨d.name, hn⟩, d, hd, rfl, rfl⟩

/-- Walking over the declarations of a module comes to looking up the name. -/
theorem Linked.find?_declarationsOf {st : List (ModuleId × String)} (h : Linked t [] st)
    (p : Declaration → Bool) :
    (t.declarationsOf id).find? (fun r => r.2.name == n && p r.2) =
      (t.lookup? id n).filter fun r => p r.2 := by
  cases hf : (t.declarationsOf id).find? fun r => r.2.name == n && p r.2 with
  | some r =>
    have hmem := h.mem_declarationsOf.1 (List.mem_of_find?_eq_some hf)
    have hr := List.find?_some hf
    obtain ⟨hn, hp⟩ : r.2.name = n ∧ p r.2 = true := by simpa using hr
    rw [hn] at hmem
    exact (Option.filter_eq_some_iff.2 ⟨hmem, hp⟩).symm
  | none =>
    cases hl : t.lookup? id n with
    | none => rfl
    | some r =>
      obtain ⟨hn, -⟩ := h.name_owner_of_lookup? hl
      have hmem : r ∈ t.declarationsOf id := h.mem_declarationsOf.2 (hn ▸ hl)
      have hp : p r.2 = false := by simpa [hn] using List.find?_eq_none.1 hf r hmem
      simp [Option.filter, hp]

/-! ## The rule -/

/-- What the name `n` qualified by `q` means in the module `scope` in slot `id`: its own declaration if it is
imported as `q`, and else that of the first target of `q` and, among the modules of this name, of the lowest
slot that lists `n`. -/
inductive Resolves (t : SymbolTable) (id : ModuleId) (scope : Module) (q n : String)
    (r : DeclarationId × Declaration) : Prop where
  | inScope (hown : t.lookup? id n = some r) (himported : r.2.IsImportedAs q)
  | elsewhere (hown : ∀ own, t.lookup? id n = some own → ¬own.2.IsImportedAs q)
      (before : List String) (target : String) (after : List String)
      (htargets : scope.targets q = before ++ target :: after)
      (hbefore : ∀ earlier ∈ before, Unlisted t n earlier)
      (j : ModuleId) (m : Module) (hm : t.module? j = some m) (hname : m.name = target)
      (hfound : t.lookup? j n = some r)
      (hlowest : ∀ k m', k.index < j.index → t.module? k = some m' → m'.name = target →
        t.lookup? k n = none)

theorem Linked.resolve?_qualified (h : Linked t [] []) {scope : Module} (hm : t.module? id = some scope)
    {s : String} (hq : (QualifiedName.ofText s).qualifier? = some q) :
    t.resolve? id s =
      ((t.lookup? id (QualifiedName.ofText s).name).filter fun r => r.2.imported.any (·.answersTo q)).or
        ((scope.targets q).findSome? (t.lookupIn? (QualifiedName.ofText s).name)) := by
  simp only [resolve?, hm, Option.bind_some, hq, scope.aliased_append q,
    h.find?_declarationsOf fun d => d.imported.any (·.answersTo q)]
  cases (t.lookup? id (QualifiedName.ofText s).name).filter fun r => r.2.imported.any (·.answersTo q) <;> rfl

/-- Nothing is in scope just if the module's own declaration of that name is not imported as `q`. -/
theorem filter_lookup?_eq_none_iff :
    ((t.lookup? id n).filter fun r => r.2.imported.any (·.answersTo q)) = none ↔
      ∀ own, t.lookup? id n = some own → ¬own.2.IsImportedAs q := by
  simp only [Option.filter_eq_none_iff, Declaration.isImportedAs_iff]

theorem Linked.resolve?_eq_some_iff (h : Linked t [] []) (hindexed : Indexed t) {scope : Module}
    (hm : t.module? id = some scope) {s : String} (hq : (QualifiedName.ofText s).qualifier? = some q)
    {r : DeclarationId × Declaration} :
    t.resolve? id s = some r ↔ Resolves t id scope q (QualifiedName.ofText s).name r := by
  rw [h.resolve?_qualified hm hq]
  generalize (QualifiedName.ofText s).name = n
  cases hf : (t.lookup? id n).filter fun r => r.2.imported.any (·.answersTo q) with
  | some own =>
    obtain ⟨hown, hany⟩ := Option.filter_eq_some_iff.1 hf
    have himported := Declaration.isImportedAs_iff.2 hany
    rw [Option.some_or, Option.some.injEq]
    constructor
    · rintro rfl
      exact .inScope hown himported
    · intro hr
      cases hr with
      | inScope hown' => exact Option.some.inj (hown.symm.trans hown')
      | elsewhere hnot => exact absurd himported (hnot own hown)
  | none =>
    have hnot := filter_lookup?_eq_none_iff.1 hf
    rw [Option.none_or, List.findSome?_eq_some_iff]
    constructor
    · rintro ⟨before, target, after, htargets, hr, hbefore⟩
      obtain ⟨j, m, hj, hname, hfound, hlowest⟩ := hindexed.lookupIn?_eq_some_iff.1 hr
      exact .elsewhere hnot before target after htargets
        (fun u hu => hindexed.lookupIn?_eq_none_iff.1 (hbefore u hu)) j m hj hname hfound hlowest
    · intro hr
      cases hr with
      | inScope hown himported => exact absurd himported (hnot r hown)
      | elsewhere _ before target after htargets hbefore j m hj hname hfound hlowest =>
        exact ⟨before, target, after, htargets,
          hindexed.lookupIn?_eq_some_iff.2 ⟨j, m, hj, hname, hfound, hlowest⟩,
          fun u hu => hindexed.lookupIn?_eq_none_iff.2 (hbefore u hu)⟩

theorem Linked.resolve?_eq_none_iff (h : Linked t [] []) (hindexed : Indexed t) {scope : Module}
    (hm : t.module? id = some scope) {s : String} (hq : (QualifiedName.ofText s).qualifier? = some q) :
    t.resolve? id s = none ↔
      (∀ own, t.lookup? id (QualifiedName.ofText s).name = some own → ¬own.2.IsImportedAs q) ∧
        ∀ target ∈ scope.targets q, Unlisted t (QualifiedName.ofText s).name target := by
  rw [h.resolve?_qualified hm hq, Option.or_eq_none_iff, filter_lookup?_eq_none_iff,
    List.findSome?_eq_none_iff]
  simp only [hindexed.lookupIn?_eq_none_iff]

/-- The result has the name looked for, and the module or one that the qualifier stands for owns it. -/
theorem Linked.name_owner_of_resolves {st : List (ModuleId × String)} (h : Linked t [] st) {scope : Module}
    {i : DeclarationId} {d : Declaration} (hr : Resolves t id scope q n (i, d)) :
    d.name = n ∧ ∃ owner, d.owner = some owner ∧ (owner = id ∨ ∃ m, t.module? owner = some m ∧
      (m.name = q ∨ ∃ imp ∈ scope.imports, imp.knownAs = some q ∧ imp.moduleName = m.name)) := by
  cases hr with
  | inScope hown himported =>
    obtain ⟨hn, ho⟩ := h.name_owner_of_lookup? hown
    exact ⟨hn, id, ho, .inl rfl⟩
  | elsewhere _ before target after htargets _ j m hj hname hfound _ =>
    obtain ⟨hn, ho⟩ := h.name_owner_of_lookup? hfound
    have htarget : m.name ∈ scope.targets q := by simp [htargets, hname]
    exact ⟨hn, j, ho, .inr ⟨m, hj, Module.mem_targets.1 htarget⟩⟩

theorem resolve?_unqualified {scope : Module} (hm : t.module? id = some scope) {s : String}
    (hq : (QualifiedName.ofText s).qualifier? = none) : t.resolve? id s = t.lookup? id s := by
  simp only [resolve?, hm, Option.bind_some, hq, QualifiedName.name_of_qualifier?_none hq]

/-- A name without qualifier is looked up in the module. A qualified one is resolved by the rule, which gives
nothing just if the module's own declaration is not imported under the qualifier and no module that it stands
for lists the name. -/
theorem resolve?_follows_rule (ops : List Operation) (id : ModuleId) (scope : Module)
    (hm : (empty.run ops).module? id = some scope) (s : String) :
    ((QualifiedName.ofText s).qualifier? = none →
      (QualifiedName.ofText s).name = s ∧ (empty.run ops).resolve? id s = (empty.run ops).lookup? id s) ∧
    ∀ q n, (QualifiedName.ofText s).qualifier? = some q → (QualifiedName.ofText s).name = n →
      (∀ r, (empty.run ops).resolve? id s = some r ↔ Resolves (empty.run ops) id scope q n r) ∧
      ((empty.run ops).resolve? id s = none ↔
        (∀ own, (empty.run ops).lookup? id n = some own → ¬own.2.IsImportedAs q) ∧
          ∀ target ∈ scope.targets q, Unlisted (empty.run ops) n target) ∧
      ∀ i d, (empty.run ops).resolve? id s = some (i, d) →
        d.name = n ∧ ∃ owner, d.owner = some owner ∧
          (owner = id ∨ ∃ m, (empty.run ops).module? owner = some m ∧
            (m.name = q ∨ ∃ imp ∈ scope.imports, imp.knownAs = some q ∧ imp.moduleName = m.name)) := by
  have h := linked_run ops
  have hindexed := indexed_run ops
  generalize empty.run ops = t at h hindexed hm
  refine ⟨fun hq => ⟨QualifiedName.name_of_qualifier?_none hq, resolve?_unqualified hm hq⟩, ?_⟩
  rintro q n hq rfl
  refine ⟨fun r => h.resolve?_eq_some_iff hindexed hm hq, h.resolve?_eq_none_iff hindexed hm hq, ?_⟩
  intro i d hr
  exact h.name_owner_of_resolves ((h.resolve?_eq_some_iff hindexed hm hq).1 hr)

/-- The alias `M` stands for `N` before the module `M` itself, and of two modules `N` only the second has `f`. -/
theorem resolve?_follows_rule_alias :
    let scope : Module := { name := "A", imports := [{ moduleName := "N", knownAs := some "M" }] }
    let first : Module := { name := "N", location := some (.source { filename := some "1.hs" }) }
    let second : Module := { name := "N", location := some (.source { filename := some "2.hs" }) }
    let f : Declaration := { name := "f", kind := .other }
    let ops : List Operation :=
      [.absorbModule scope [], .absorbModule first [], .absorbModule { name := "M" } [f], .absorbModule second [f]]
    (empty.run ops).module? ⟨0⟩ = some scope ∧
      (empty.run ops).resolve? ⟨0⟩ "M.f" = some (⟨1⟩, f.storedIn ⟨3⟩ second.location) := by
  intro scope first second f ops
  have hscope : (empty.run ops).module? ⟨0⟩ = some scope := by decide +zetaReduce
  have hq : (QualifiedName.ofText "M.f").qualifier? = some "M" := by decide +kernel
  have hn : (QualifiedName.ofText "M.f").name = "f" := by decide +kernel
  obtain ⟨-, hrule⟩ := resolve?_follows_rule ops ⟨0⟩ scope hscope "M.f"
  have hown : (empty.run ops).lookup? ⟨0⟩ "f" = none := by decide +zetaReduce
  have hsecond : (empty.run ops).module? ⟨3⟩ =
      some { second with declarations := OrderedMap.ofList [("f", ⟨1⟩)] } := by decide +zetaReduce
  have hfound : (empty.run ops).lookup? ⟨3⟩ "f" = some (⟨1⟩, f.storedIn ⟨3⟩ second.location) := by
    decide +zetaReduce
  refine ⟨hscope, ((hrule "M" "f" hq hn).1 _).2 (.elsewhere ?own [] "N" ["M"] rfl ?before ⟨3⟩ _ hsecond rfl
    hfound ?lowest)⟩
  case own => simp [hown]
  case before => simp
  case lowest =>
    rintro ⟨k⟩ m hlt hm hname
    have hcases : k = 0 ∨ k = 1 ∨ k = 2 := by
      simp only at hlt
      omega
    rcases hcases with rfl | rfl | rfl
    · exact hown
    · decide +zetaReduce
    · obtain rfl : m = { name := "M", declarations := OrderedMap.ofList [("f", ⟨0⟩)] } := by
        refine Option.some.inj (hm.symm.trans ?_)
        decide +zetaReduce
      exact absurd hname (by decide)

end SymbolTable
end SymbolGraph
