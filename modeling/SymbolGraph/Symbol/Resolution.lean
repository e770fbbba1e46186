import SymbolGraph.QualifiedName
import SymbolGraph.Symbol.Table

/-! # Resolving names, and where a declaration stands -/
namespace SymbolGraph

/-- The import brings names in under `qualifier`: as its alias or as its module's name. -/
def Import.answersTo (i : Import) (qualifier : String) : Bool :=
  i.knownAs == some qualifier || i.moduleName == qualifier

namespace SymbolTable

/-- The first module called `target` that lists `name`. -/
def lookupIn? (t : SymbolTable) (name target : String) : Option (DeclarationId × Declaration) :=
  (t.modulesNamed target).findSome? fun p => t.lookup? p.1 name

/-- Resolves a name as written in a module. A qualified name is searched for among the module's own
declarations that were imported under the qualifier, then in the modules imported under that alias, then in
the modules of that name. -/
def resolve? (t : SymbolTable) (id : ModuleId) (name : String) : Option (DeclarationId × Declaration) :=
  (t.module? id).bind fun scope =>
    let q := QualifiedName.ofText name
    match q.qualifier? with
    | none => t.lookup? id q.name
    | some qualifier =>
      match (t.declarationsOf id).find? fun p =>
          p.2.name == q.name && p.2.imported.any (·.answersTo qualifier) with
      | some found => some found
      | none => (scope.aliased qualifier ++ [qualifier]).findSome? (t.lookupIn? q.name)

def owner? (t : SymbolTable) (d : Declaration) : Option Module := d.owner.bind t.module?

/-- The module that defines `d`: the one recorded, else the owner. -/
def definingModule? (t : SymbolTable) (d : Declaration) : Option Module := d.definingId?.bind t.module?

def definingLocation? (t : SymbolTable) (d : Declaration) : Option Location :=
  (t.definingModule? d).bind Module.location

def isFromSource (t : SymbolTable) (d : Declaration) : Bool :=
  (t.definingLocation? d).any Location.isSource

def isInstalled (t : SymbolTable) (d : Declaration) : Bool :=
  (t.definingLocation? d).any Location.isInstalled

def isFromElsewhere (t : SymbolTable) (d : Declaration) : Bool :=
  (t.definingLocation? d).any Location.isOther

def hasJumpTarget (t : SymbolTable) (d : Declaration) : Bool := t.isFromSource d && d.position.isSome

/-- Where an editor finds a declaration with a position in a source file. -/
def jumpTarget? (t : SymbolTable) (d : Declaration) : Option String :=
  if t.hasJumpTarget d then (t.definingLocation? d).map fun l => l.jumpTarget d.position else none

/-- The module a name is known from: its first import, else its owner. -/
def scopeName? (t : SymbolTable) (d : Declaration) : Option String :=
  match d.imported with
  | i :: _ => some i.moduleName
  | [] => (t.owner? d).map Module.name

def qualifiedName (t : SymbolTable) (d : Declaration) : String :=
  match t.scopeName? d with
  | some scope => scope ++ "." ++ d.name
  | none => d.name

def qualify (t : SymbolTable) (d : Declaration) : Declaration := { d with name := t.qualifiedName d }

end SymbolTable
end SymbolGraph
