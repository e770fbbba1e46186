import SymbolGraph.Symbol.Update

/-! # Inspection reports: what one inspection says about a module -/
namespace SymbolGraph

structure ImportReport where
  name : String
  qualified : Bool := false
  knownAs : Option String := none
  position : Option Position := none
  deriving DecidableEq, Repr

structure TypeReport where
  context : List String := []
  args : List String := []
  definition : Option String := none
  deriving DecidableEq, Repr

/-- What a declaration is reported to be. Unlike in the table, each kind of type is a kind of its own. -/
inductive KindReport where
  | function (signature : Option String)
  | synonym (r : TypeReport)
  | newtype (r : TypeReport)
  | datatype (r : TypeReport)
  | typeclass (r : TypeReport)
  | other
  deriving DecidableEq, Repr

structure DeclarationReport where
  name : String
  docs : Option String := none
  position : Option Position := none
  imported : List ImportReport := []
  kind : KindReport
  deriving DecidableEq, Repr

structure ModuleReport where
  name : String
  exports : Option (List String) := none
  imports : List ImportReport := []
  declarations : List DeclarationReport := []
  deriving DecidableEq, Repr

def ImportReport.toImport (r : ImportReport) : Import :=
  { moduleName := r.name, qualified := r.qualified, knownAs := r.knownAs, position := r.position }

def TypeReport.toShape (r : TypeReport) : TypeShape :=
  { context := r.context, args := r.args, definition := r.definition }

def KindReport.toKind : KindReport → DeclarationKind
  | function signature => .function signature
  | synonym r => .typeLike .synonym r.toShape
  | newtype r => .typeLike .newtype r.toShape
  | datatype r => .typeLike .datatype r.toShape
  | typeclass r => .typeLike .typeclass r.toShape
  | other => .other

def DeclarationReport.toDeclaration (r : DeclarationReport) : Declaration :=
  { name := r.name, kind := r.kind.toKind, docs := r.docs, position := r.position,
    imported := r.imported.map ImportReport.toImport }

namespace ModuleReport

/-- The reported module as inspected at `location` and `time`. The imports come before the location, which then
reaches them too. -/
def toModule (r : ModuleReport) (location : Option Location) (time : UInt64) : Module :=
  let imported := (Module.withImports { name := r.name } (r.imports.map ImportReport.toImport)).withInspection time
  let exported :=
    match r.exports with
    | some exports => imported.withExports exports
    | none => imported
  match location with
  | some l => exported.withLocation l
  | none => exported

theorem toModule_eq (r : ModuleReport) (location : Option Location) (time : UInt64) :
    r.toModule location time =
      { name := r.name, exports := r.exports, location := location, inspectedAt := time
        imports := r.imports.map fun i => { i.toImport with location := location } } := by
  unfold toModule
  cases r.exports <;> cases location <;>
    simp [Module.withImports, Module.withInspection, Module.withExports, Module.withLocation,
      Module.attributeImports, Function.comp_def]

theorem location_toModule (r : ModuleReport) (location : Option Location) (time : UInt64) :
    (r.toModule location time).location = location := by
  rw [toModule_eq]

def toDeclarations (r : ModuleReport) : List Declaration :=
  r.declarations.map DeclarationReport.toDeclaration

end ModuleReport

/-- Takes in a reported module. -/
def SymbolTable.absorbReport (t : SymbolTable) (r : ModuleReport) (location : Option Location)
    (time : UInt64) : Attempt ModuleId :=
  t.absorbModule (r.toModule location time) r.toDeclarations

end SymbolGraph
