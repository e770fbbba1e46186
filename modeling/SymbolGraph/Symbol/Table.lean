import SymbolGraph.Slots
import SymbolGraph.Symbol.Declaration

/-! # The table of all known modules and declarations -/
namespace SymbolGraph

/-- `byName` lists the modules of each name, `detached` the declarations without an owner, and `free` the
emptied declaration slots, the one to be filled next in front. -/
structure SymbolTable where
  modules : Slots Module := Slots.empty
  declarations : Slots Declaration := Slots.empty
  byName : OrderedMap String (List ModuleId) := OrderedMap.empty
  detached : List DeclarationId := []
  free : List DeclarationId := []
  deriving DecidableEq, Repr

namespace SymbolTable

def empty : SymbolTable := {}

def module? (t : SymbolTable) (id : ModuleId) : Option Module := t.modules.get? id.index

def declaration? (t : SymbolTable) (id : DeclarationId) : Option Declaration :=
  t.declarations.get? id.index

def liveModules (t : SymbolTable) : List (ModuleId × Module) :=
  t.modules.live.map fun p => (⟨p.1⟩, p.2)

def liveDeclarations (t : SymbolTable) : List (DeclarationId × Declaration) :=
  t.declarations.live.map fun p => (⟨p.1⟩, p.2)

def moduleCount (t : SymbolTable) : Nat := t.modules.count

def declarationCount (t : SymbolTable) : Nat := t.declarations.count

def modulesNamed (t : SymbolTable) (name : String) : List (ModuleId × Module) :=
  ((t.byName.get? name).getD []).filterMap fun id => (t.module? id).map fun m => (id, m)

/-- The stored module that is the same as `m`. -/
def moduleTwin? (t : SymbolTable) (m : Module) : Option ModuleId :=
  ((t.modulesNamed m.name).find? fun p => p.2.same m).map Prod.fst

/-- Equal names, and owners that are the same module or no owner on either side. -/
def sameDeclaration (t : SymbolTable) (l r : Declaration) : Bool :=
  l.name == r.name &&
    match l.owner, r.owner with
    | some a, some b => (t.module? a).any fun m => (t.module? b).any fun n => m.same n
    | none, none => true
    | _, _ => false

/-- The first stored declaration that is the same as `d`. -/
def declarationTwin? (t : SymbolTable) (d : Declaration) : Option DeclarationId :=
  (t.liveDeclarations.find? fun p => t.sameDeclaration p.2 d).map Prod.fst

def stored? (t : SymbolTable) (id : DeclarationId) : Option (DeclarationId × Declaration) :=
  (t.declaration? id).map fun d => (id, d)

def declarationsOf (t : SymbolTable) (id : ModuleId) : List (DeclarationId × Declaration) :=
  match t.module? id with
  | some m => m.declarations.values.filterMap t.stored?
  | none => []

def declarationsNamed (t : SymbolTable) (name : String) : List (DeclarationId × Declaration) :=
  t.liveDeclarations.filter fun p => p.2.name == name

def lookup? (t : SymbolTable) (id : ModuleId) (name : String) : Option (DeclarationId × Declaration) :=
  (t.module? id).bind fun m => (m.declarations.get? name).bind t.stored?

end SymbolTable
end SymbolGraph
