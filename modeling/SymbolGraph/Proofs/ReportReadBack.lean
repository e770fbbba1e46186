import Mathlib.Data.List.Nodup
import SymbolGraph.Proofs.DeclarationOrder
import SymbolGraph.Proofs.Resolution

/-!
# Reading a report back from the table

A report that declares each name once can be read back from the module as which it was taken in, whether that
module was known before or not. Imports and declarations are compared with what was reported by undoing the
conversions field by field; what the table adds to them (owner and location) is stated apart.
-/
namespace SymbolGraph

/-- What an import says, without the place of the importing module. -/
def Import.toReport (i : Import) : ImportReport :=
  { name := i.moduleName, qualified := i.qualified, knownAs := i.knownAs, position := i.position }

def TypeShape.toReport (s : TypeShape) : TypeReport :=
  { context := s.context, args := s.args, definition := s.definition }

def DeclarationKind.toReport : DeclarationKind → KindReport
  | .other => .other
  | .function signature => .function signature
  | .typeLike .synonym shape => .synonym shape.toReport
  | .typeLike .newtype shape => .newtype shape.toReport
  | .typeLike .datatype shape => .datatype shape.toReport
  | .typeLike .typeclass shape => .typeclass shape.toReport

def Declaration.toReport (d : Declaration) : DeclarationReport :=
  { name := d.name, docs := d.docs, position := d.position, imported := d.imported.map Import.toReport,
    kind := d.kind.toReport }

@[simp] theorem ImportReport.toReport_toImport (r : ImportReport) : r.toImport.toReport = r := rfl

@[simp] theorem ImportReport.toReport_located (r : ImportReport) (location : Option Location) :
    Import.toReport { r.toImport with location := location } = r := rfl

@[simp] theorem KindReport.toReport_toKind (k : KindReport) : k.toKind.toReport = k := by
  cases k <;> rfl

@[simp] theorem DeclarationReport.toReport_toDeclaration (r : DeclarationReport) : r.toDeclaration.toReport = r := by
  simp [toDeclaration, Declaration.toReport, Function.comp_def]

/-- The module is the reported one, as inspected at `location` and `time`. -/
structure Module.Records (m : Module) (r : ModuleReport) (location : Option Location) (time : UInt64) : Prop where
  name : m.name = r.name
  exports : m.exports = r.exports
  inspected : m.inspectedAt = time
  located : m.location = location
  imports : m.imports.map Import.toReport = r.imports
  imports_located : ∀ i ∈ m.imports, i.location = location

/-- The declaration is the reported one, as the module `id` at `location` has it. -/
structure Declaration.Records (e : Declaration) (d : DeclarationReport) (id : ModuleId)
    (location : Option Location) : Prop where
  report : e.toReport = d
  imported : ∀ i ∈ e.imported, i.location = none
  defined : e.defined = none
  owner : e.owner = some id
  located : e.location = location

theorem DeclarationReport.records_storedIn (d : DeclarationReport) (id : ModuleId) (location : Option Location) :
    (d.toDeclaration.storedIn id location).Records d id location where
  report := d.toReport_toDeclaration
  imported := by
    intro i hi
    obtain ⟨r, -, rfl⟩ := List.mem_map.1 hi
    rfl
  defined := rfl
  owner := rfl
  located := rfl

theorem ModuleReport.names_toDeclarations (r : ModuleReport) :
    r.toDeclarations.map Declaration.name = r.declarations.map DeclarationReport.name := by
  rw [toDeclarations, List.map_map]
  rfl

namespace SymbolTable
variable {t : SymbolTable} {ds : List Declaration} {r : ModuleReport} {location : Option Location} {time : UInt64}
  {id : ModuleId}

/-- Where each name is declared once, the last declaration of a name is the only one. -/
theorem lastNamed_eq_some_iff (h : (ds.map Declaration.name).Nodup) {n : String} {d : Declaration} :
    lastNamed ds n = some d ↔ d ∈ ds ∧ d.name = n := by
  refine ⟨mem_of_lastNamed, ?_⟩
  rintro ⟨hd, rfl⟩
  cases hlast : lastNamed ds d.name with
  | none => exact absurd (List.mem_map_of_mem hd) (lastNamed_eq_none_iff.1 hlast)
  | some e =>
    obtain ⟨he, hn⟩ := mem_of_lastNamed hlast
    rw [List.inj_on_of_nodup_map h he hd hn]

/-- All that a report says is in the table, under the module `id`. -/
structure Records (t : SymbolTable) (id : ModuleId) (r : ModuleReport) (location : Option Location)
    (time : UInt64) : Prop where
  stored : ∃ m, t.module? id = some m ∧ m.Records r location time
  declared : ∀ d ∈ r.declarations, ∃ i e, t.lookup? id d.name = some (i, e) ∧ e.Records d id location
  absent : ∀ n ∉ r.declarations.map DeclarationReport.name, t.lookup? id n = none
  nothingElse : ((t.declarationsOf id).map (·.2.toReport)).Perm r.declarations

theorem exists_module?_absorbReport (hok : (t.absorbReport r location time).1 = .ok id) :
    ∃ m, (t.absorbReport r location time).2.module? id = some m ∧ m.Records r location time := by
  have hbare := bareModule?_absorbModule hok id
  rw [if_pos rfl] at hbare
  obtain ⟨m, hm, hname, hexports, himports, hlocation, htime⟩ := module?_of_bareModule? hbare
  rw [r.toModule_eq] at hname hexports himports hlocation htime
  have hlocated : m.imports = r.imports.map fun i => { i.toImport with location := location } := by
    rw [himports]
    simp [Module.attributeImports, Function.comp_def]
  refine ⟨m, hm, hname, hexports, htime, hlocation, ?_, fun i hi => ?_⟩
  · simp [hlocated, Function.comp_def]
  · rw [hlocated] at hi
    obtain ⟨x, -, rfl⟩ := List.mem_map.1 hi
    rfl

theorem Linked.lookup?_absorbReport (h : Linked t [] []) (hnames : (r.declarations.map DeclarationReport.name).Nodup)
    (hok : (t.absorbReport r location time).1 = .ok id) (n : String) (e : Declaration) :
    (∃ i, (t.absorbReport r location time).2.lookup? id n = some (i, e)) ↔
      ∃ d ∈ r.declarations, d.name = n ∧ d.toDeclaration.storedIn id location = e := by
  have hfound : (∃ i, (t.absorbReport r location time).2.lookup? id n = some (i, e)) ↔
      (lastNamed r.toDeclarations n).map (·.storedIn id location) = some e := by
    have hlookup := h.lookup?_absorbModule hok n
    rw [r.location_toModule] at hlookup
    rw [← hlookup]
    simp [absorbReport]
  have hnames' : (r.toDeclarations.map Declaration.name).Nodup := by rwa [r.names_toDeclarations]
  rw [hfound, Option.map_eq_some_iff]
  constructor
  · rintro ⟨given, hgiven, he⟩
    obtain ⟨hmem, hn⟩ := (lastNamed_eq_some_iff hnames').1 hgiven
    obtain ⟨d, hd, rfl⟩ := List.mem_map.1 hmem
    exact ⟨d, hd, hn, he⟩
  · rintro ⟨d, hd, hn, he⟩
    exact ⟨d.toDeclaration, (lastNamed_eq_some_iff hnames').2 ⟨List.mem_map.2 ⟨d, hd, rfl⟩, hn⟩, he⟩

theorem Linked.perm_declarationsOf_absorbReport (h : Linked t [] [])
    (hnames : (r.declarations.map DeclarationReport.name).Nodup)
    (hok : (t.absorbReport r location time).1 = .ok id) :
    (((t.absorbReport r location time).2.declarationsOf id).map (·.2.toReport)).Perm r.declarations := by
  have h' : Linked (t.absorbReport r location time).2 [] [] := h.absorbModule _ _
  have hnodup : (((t.absorbReport r location time).2.declarationsOf id).map (·.2.toReport)).Nodup := by
    obtain ⟨m, hm, -⟩ := exists_module?_absorbReport hok
    refine List.Nodup.of_map DeclarationReport.name ?_
    have hlisted := h'.names_declarationsOf id
    rw [listedNames_of_module? hm] at hlisted
    rw [List.map_map]
    exact hlisted ▸ m.declarations.distinct
  refine (List.perm_ext_iff_of_nodup hnodup (.of_map _ hnames)).2 fun d => ?_
  have hmem := h.lookup?_absorbReport hnames hok
  rw [List.mem_map]
  constructor
  · rintro ⟨⟨i, e⟩, he, rfl⟩
    obtain ⟨d, hd, -, rfl⟩ := (hmem _ _).1 ⟨i, h'.mem_declarationsOf.1 he⟩
    rwa [(d.records_storedIn id location).report]
  · intro hd
    obtain ⟨i, hi⟩ := (hmem _ _).2 ⟨d, hd, rfl, rfl⟩
    exact ⟨(i, d.toDeclaration.storedIn id location), h'.mem_declarationsOf.2 hi,
      (d.records_storedIn id location).report⟩

/-- After a report that declares each name once has been taken in, the table says all that the report says, and
the module has nothing else. -/
theorem absorbReport_records (ops : List Operation) (r : ModuleReport) (location : Option Location) (time : UInt64)
    (hnames : (r.declarations.map DeclarationReport.name).Nodup) :
    ∃ id, ((empty.run ops).absorbReport r location time).1 = .ok id ∧
      ((empty.run ops).absorbReport r location time).2.Records id r location time := by
  have h := linked_run ops
  generalize empty.run ops = t at h
  have hok := t.absorbReport_ok r location time
  have hlookup := h.lookup?_absorbReport hnames hok
  refine ⟨_, hok, exists_module?_absorbReport hok, fun d hd => ?_, fun n hn => ?_,
    h.perm_declarationsOf_absorbReport hnames hok⟩
  · obtain ⟨i, hi⟩ := (hlookup _ _).2 ⟨d, hd, rfl, rfl⟩
    exact ⟨i, _, hi, d.records_storedIn _ location⟩
  · refine Option.eq_none_iff_forall_ne_some.2 fun p hp => hn ?_
    obtain ⟨d, hd, hdn, -⟩ := (hlookup _ _).1 ⟨p.1, hp⟩
    exact List.mem_map.2 ⟨d, hd, hdn⟩

/-- A newer report drops `pop` and declares `Stack` before the kept `push`, of which it says more. -/
theorem absorbReport_records_newer :
    let location : Option Location := some (.source { filename := some "Stack.hs" })
    let older : ModuleReport :=
      { name := "Stack", declarations := [{ name := "push", kind := .other }, { name := "pop", kind := .other }] }
    let newer : ModuleReport :=
      { name := "Stack", exports := some ["push"], imports := [{ name := "List", qualified := true, knownAs := some "L" }]
        declarations :=
          [{ name := "Stack", docs := some "LIFO", kind := .newtype { args := ["a"] } },
            { name := "push", position := some ⟨3, some 1⟩, imported := [{ name := "List" }],
              kind := .function (some "a -> Stack a") }] }
    let ops : List Operation := [.absorbReport older location 1]
    (newer.declarations.map DeclarationReport.name).Nodup ∧
      ((empty.run ops).absorbReport newer location 2).1 = .ok ⟨0⟩ ∧
      ((empty.run ops).absorbReport newer location 2).2.Records ⟨0⟩ newer location 2 := by
  intro location older newer ops
  have hnames : (newer.declarations.map DeclarationReport.name).Nodup := by decide
  have hslot : (empty.run ops).slotFor (newer.toModule location 2) = ⟨0⟩ := by decide +zetaReduce
  obtain ⟨id, hok, hrecords⟩ := absorbReport_records ops newer location 2 hnames
  obtain rfl : id = ⟨0⟩ := by
    rw [absorbReport_ok, hslot] at hok
    exact (Except.ok.inj hok).symm
  exact ⟨hnames, hok, hrecords⟩

end SymbolTable
end SymbolGraph
