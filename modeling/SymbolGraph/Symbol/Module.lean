import SymbolGraph.Location
import SymbolGraph.OrderedMap

/-! # Modules and their imports -/
namespace SymbolGraph
open Text

structure ModuleId where
  index : Nat
  deriving DecidableEq, Repr

structure DeclarationId where
  index : Nat
  deriving DecidableEq, Repr

@[simp] theorem ModuleId.index_inj {a b : ModuleId} : a.index = b.index ↔ a = b := by
  cases a; cases b; simp

@[simp] theorem DeclarationId.index_inj {a b : DeclarationId} : a.index = b.index ↔ a = b := by
  cases a; cases b; simp

def ModuleId.text (id : ModuleId) : String := "mod_" ++ Decimal.natText id.index

/-- One import of a module; `location` is that of the importing module. -/
structure Import where
  moduleName : String
  qualified : Bool := false
  knownAs : Option String := none
  position : Option Position := none
  location : Option Location := none
  deriving DecidableEq, Repr

structure Module where
  name : String
  exports : Option (List String) := none
  imports : List Import := []
  location : Option Location := none
  inspectedAt : UInt64 := 0
  declarations : OrderedMap String DeclarationId := OrderedMap.empty
  deriving DecidableEq, Repr

namespace Module

def attributeImports (m : Module) : Module :=
  { m with imports := m.imports.map fun i => { i with location := m.location } }

def withExports (m : Module) (exports : List String) : Module := { m with exports := some exports }

def withLocation (m : Module) (location : Location) : Module :=
  attributeImports { m with location := some location }

/-- Adds imports behind those there are. -/
def withImports (m : Module) (imports : List Import) : Module :=
  attributeImports { m with imports := m.imports ++ imports }

def withInspection (m : Module) (time : UInt64) : Module := { m with inspectedAt := time }

/-- The modules imported under an alias, in import order. -/
def aliased (m : Module) (name : String) : List String :=
  (m.imports.filter fun i => i.knownAs == some name).map Import.moduleName

def isInspected (m : Module) : Bool := m.inspectedAt != 0

/-- The key of the location, with the module's name behind it for an installed one. -/
def locationKey (m : Module) : String :=
  match m.location with
  | some (.installed l) => l.key ++ ":" ++ m.name
  | some l => l.key
  | none => ""

def installedKey? (m : Module) : Option String :=
  match m.location with
  | some (.installed l) => some l.key
  | _ => none

def filename? (m : Module) : Option String := m.location.bind Location.filename?

def isFromSource (m : Module) : Bool := m.location.any Location.isSource

def isInstalled (m : Module) : Bool := m.location.any Location.isInstalled

def isFromElsewhere (m : Module) : Bool := m.location.any Location.isOther

def isInProject (m : Module) (project : String) : Bool :=
  (m.location.bind Location.project?).any (· == project)

def hasInstalledKey (m : Module) : Option String → Bool
  | some key => m.installedKey?.any (key == ·)
  | none => false

/-- Both values are there and equal. -/
def agree (l r : Option String) : Bool := l.any fun a => r.any (a == ·)

/-- Two inspections saw the same module: equal names, and the same installed package, the same source file,
or no location on either side. -/
def same (l r : Module) : Bool :=
  l.name == r.name &&
    (agree l.installedKey? r.installedKey? || agree l.filename? r.filename? ||
      (l.location.isNone && r.location.isNone))

end Module
end SymbolGraph
