import SymbolGraph.Proofs.Resolution

/-!
# Where a declaration's qualified name leads

An imported declaration is found again under its qualified name, since it is in scope under the module it is
imported from. One that the module declares itself is searched for among all modules of that name, and the
lowest slot answers.
-/
namespace SymbolGraph

theorem Module.targets_of_no_alias {m : Module} {q : String} (h : ∀ i ∈ m.imports, i.knownAs ≠ some q) :
    m.targets q = [q] := by
  have hnone : (m.imports.filter fun i => i.knownAs = some q) = [] :=
    List.filter_eq_nil_iff.2 fun i hi => by simpa using h i hi
  rw [targets, hnone]
  rfl

namespace SymbolTable
open QualifiedName (IsModuleName)
variable {t : SymbolTable} {id : ModuleId} {m : Module} {i : DeclarationId} {d : Declaration}

/-- Of the modules called `name` that list `n`, the one in slot `j` has the lowest slot. -/
def ListsFirst (t : SymbolTable) (name n : String) (j : ModuleId) : Prop :=
  (∃ m, t.module? j = some m ∧ m.name = name) ∧ (t.lookup? j n).isSome ∧
    ∀ k m', k.index < j.index → t.module? k = some m' → m'.name = name → t.lookup? k n = none

theorem Indexed.lookupIn?_of_listsFirst (h : Indexed t) {name n : String} {j : ModuleId}
    (hj : ListsFirst t name n j) : t.lookupIn? n name = t.lookup? j n := by
  obtain ⟨⟨m, hm, hname⟩, hsome, hlowest⟩ := hj
  obtain ⟨r, hr⟩ := Option.isSome_iff_exists.1 hsome
  rw [hr]
  exact h.lookupIn?_eq_some_iff.2 ⟨j, m, hm, hname, hr, hlowest⟩

theorem Indexed.exists_listsFirst (h : Indexed t) (hm : t.module? id = some m) {n : String}
    (hl : (t.lookup? id n).isSome) : ∃ j, ListsFirst t m.name n j := by
  cases hin : t.lookupIn? n m.name with
  | none =>
    have hnone := h.lookupIn?_eq_none_iff.1 hin id m hm rfl
    simp [hnone] at hl
  | some r =>
    obtain ⟨j, m', hj, hname, hr, hlowest⟩ := h.lookupIn?_eq_some_iff.1 hin
    exact ⟨j, ⟨m', hj, hname⟩, by simp [hr], hlowest⟩

/-! ## The two ways to a declaration -/

/-- The first import is one that answers to the module's name in front. -/
theorem Linked.resolve?_imported (h : Linked t [] []) (hindexed : Indexed t) (hm : t.module? id = some m)
    (hl : t.lookup? id d.name = some (i, d)) (hne : d.name ≠ "")
    (hplain : (QualifiedName.ofText d.name).qualifier? = none) {imp : Import} {imports : List Import}
    (himports : d.imported = imp :: imports) (himp : IsModuleName imp.moduleName) :
    t.resolve? id (t.qualifiedName d) = some (i, d) := by
  have htext : t.qualifiedName d = imp.moduleName ++ "." ++ d.name := by
    simp only [qualifiedName, scopeName?, himports]
  obtain ⟨hq, hn⟩ := QualifiedName.ofText_qualified himp hne hplain
  rw [htext, h.resolve?_eq_some_iff hindexed hm hq, hn]
  exact .inScope hl ⟨imp, by simp [himports], .inr rfl⟩

theorem Linked.resolve?_own (h : Linked t [] []) (hm : t.module? id = some m)
    (hl : t.lookup? id d.name = some (i, d)) (hne : d.name ≠ "")
    (hplain : (QualifiedName.ofText d.name).qualifier? = none) (hown : d.imported = [])
    (hname : IsModuleName m.name) (halias : ∀ imp ∈ m.imports, imp.knownAs ≠ some m.name) :
    t.resolve? id (t.qualifiedName d) = t.lookupIn? d.name m.name := by
  have howner : t.owner? d = some m := by
    rw [owner?, (h.name_owner_of_lookup? hl).2]
    exact hm
  have htext : t.qualifiedName d = m.name ++ "." ++ d.name := by
    simp only [qualifiedName, scopeName?, hown, howner, Option.map_some]
  obtain ⟨hq, hn⟩ := QualifiedName.ofText_qualified hname hne hplain
  have hscope : ((t.lookup? id d.name).filter fun r => r.2.imported.any (·.answersTo m.name)) = none := by
    simp [hl, hown, Option.filter]
  rw [htext, h.resolve?_qualified hm hq, hn, hscope, Module.targets_of_no_alias halias]
  cases hin : t.lookupIn? d.name m.name <;> simp [hin]

/-- The qualified name of a declaration leads back to it if it is imported, and else to what the first module
with the owner's name lists under it. So it leads back just if the declaration is imported or no module of
that name lists it in a lower slot. -/
theorem resolve?_qualifiedName (ops : List Operation) (id : ModuleId) (m : Module)
    (hm : (empty.run ops).module? id = some m) (hname : IsModuleName m.name)
    (halias : ∀ imp ∈ m.imports, imp.knownAs ≠ some m.name) (i : DeclarationId) (d : Declaration)
    (hd : (i, d) ∈ (empty.run ops).declarationsOf id) (hne : d.name ≠ "")
    (hplain : (QualifiedName.ofText d.name).qualifier? = none)
    (himport : ∀ imp ∈ d.imported.head?, IsModuleName imp.moduleName) :
    (d.imported ≠ [] →
      (empty.run ops).resolve? id ((empty.run ops).qualifiedName d) = some (i, d)) ∧
    (d.imported = [] → ∃ j, ListsFirst (empty.run ops) m.name d.name j ∧
      (empty.run ops).resolve? id ((empty.run ops).qualifiedName d) = (empty.run ops).lookup? j d.name) ∧
    ((empty.run ops).resolve? id ((empty.run ops).qualifiedName d) = some (i, d) ↔
      d.imported ≠ [] ∨ ListsFirst (empty.run ops) m.name d.name id) := by
  have h := linked_run ops
  have hindexed := indexed_run ops
  generalize empty.run ops = t at h hindexed hm hd
  have hl : t.lookup? id d.name = some (i, d) := h.mem_declarationsOf.1 hd
  cases himports : d.imported with
  | cons imp imports =>
    have himp : IsModuleName imp.moduleName := himport imp (by simp [himports])
    have hback := h.resolve?_imported hindexed hm hl hne hplain himports himp
    simp [hback]
  | nil =>
    have hown := h.resolve?_own hm hl hne hplain himports hname halias
    obtain ⟨j, hj⟩ := hindexed.exists_listsFirst hm (n := d.name) (by simp [hl])
    have hfirst := hindexed.lookupIn?_of_listsFirst hj
    refine ⟨fun hne' => absurd rfl hne', fun _ => ⟨j, hj, hown.trans hfirst⟩, ?_⟩
    rw [hown]
    constructor
    · intro hback
      -- the owner of what is found is the slot it was found in
      have hj' := (h.name_owner_of_lookup? (hfirst.symm.trans hback)).2
      obtain rfl : id = j := Option.some.inj ((h.name_owner_of_lookup? hl).2.symm.trans hj')
      exact .inr hj
    · rintro (hne' | hid)
      · exact absurd rfl hne'
      · rw [hindexed.lookupIn?_of_listsFirst hid, hl]

/-- `sort` is imported and leads back to itself, though the first of the two modules `A` has a `sort` too. -/
theorem resolve?_qualifiedName_imported :
    let first : Module := { name := "A", location := some (.source { filename := some "1.hs" }) }
    let second : Module := { name := "A", location := some (.source { filename := some "2.hs" }) }
    let own : Declaration := { name := "sort", kind := .other }
    let sort : Declaration := { name := "sort", kind := .other, imported := [{ moduleName := "Data.List" }] }
    let t := empty.run [.absorbModule first [own], .absorbModule second [sort]]
    t.module? ⟨1⟩ = some { second with declarations := OrderedMap.ofList [("sort", ⟨1⟩)] } ∧
      t.resolve? ⟨1⟩ (t.qualifiedName (sort.storedIn ⟨1⟩ second.location)) =
        some (⟨1⟩, sort.storedIn ⟨1⟩ second.location) := by
  intro first second own sort t
  have hm : t.module? ⟨1⟩ = some { second with declarations := OrderedMap.ofList [("sort", ⟨1⟩)] } := by
    decide +zetaReduce
  have hname : IsModuleName "A" := ⟨["A"], by decide, by decide, rfl⟩
  have hlist : IsModuleName "Data.List" := ⟨["Data", "List"], by decide, by decide, by decide⟩
  have hd : (⟨1⟩, sort.storedIn ⟨1⟩ second.location) ∈ t.declarationsOf ⟨1⟩ := by decide +zetaReduce
  have himport : ∀ imp ∈ (sort.storedIn ⟨1⟩ second.location).imported.head?, IsModuleName imp.moduleName := by
    rintro imp himp
    obtain rfl : { moduleName := "Data.List" } = imp := Option.some.inj himp
    exact hlist
  have hrule := resolve?_qualifiedName _ ⟨1⟩ _ hm hname (by decide) ⟨1⟩ _ hd (by decide) (by decide +kernel)
    himport
  exact ⟨hm, hrule.1 (by decide)⟩

/-- In the second of two modules `A` that both declare `f`, the name `A.f` leads to the `f` of the first. -/
theorem own_qualifiedName_leads_to_namesake :
    let first : Module := { name := "A", location := some (.source { filename := some "1.hs" }) }
    let second : Module := { name := "A", location := some (.source { filename := some "2.hs" }) }
    let f : Declaration := { name := "f", kind := .function none }
    let t := empty.run [.absorbModule first [f], .absorbModule second [f]]
    t.module? ⟨1⟩ = some { second with declarations := OrderedMap.ofList [("f", ⟨1⟩)] } ∧
      (⟨1⟩, f.storedIn ⟨1⟩ second.location) ∈ t.declarationsOf ⟨1⟩ ∧
      t.qualifiedName (f.storedIn ⟨1⟩ second.location) = "A.f" ∧
      IsModuleName "A" ∧ second.imports = [] ∧ (QualifiedName.ofText "f").qualifier? = none ∧
      t.resolve? ⟨1⟩ "A.f" = some (⟨0⟩, f.storedIn ⟨0⟩ first.location) := by
  intro first second f t
  exact ⟨by decide +zetaReduce, by decide +zetaReduce, by decide +zetaReduce,
    ⟨["A"], by decide, by decide, rfl⟩, rfl, by decide +kernel, by decide +kernel +zetaReduce⟩

end SymbolTable
end SymbolGraph
