import SymbolGraph.Symbol.Module

/-! # Declarations: functions, types and classes -/
namespace SymbolGraph

inductive TypeFlavour where
  | synonym
  | newtype
  | datatype
  | typeclass
  deriving DecidableEq, Repr

def TypeFlavour.keyword : TypeFlavour → String
  | synonym => "type"
  | newtype => "newtype"
  | datatype => "data"
  | typeclass => "class"

structure TypeShape where
  context : List String := []
  args : List String := []
  definition : Option String := none
  deriving DecidableEq, Repr

inductive DeclarationKind where
  | other
  | function (signature : Option String)
  | typeLike (flavour : TypeFlavour) (shape : TypeShape)
  deriving DecidableEq, Repr

def DeclarationKind.keyword : DeclarationKind → String
  | other => "declaration"
  | function _ => "function"
  | typeLike flavour _ => flavour.keyword

/-- A declaration as a module shows it. `owner` is the module that lists it and `defined` the one that
defines it, if that is another; `location` is the owner's. -/
structure Declaration where
  name : String
  kind : DeclarationKind
  docs : Option String := none
  imported : List Import := []
  defined : Option ModuleId := none
  position : Option Position := none
  owner : Option ModuleId := none
  location : Option Location := none
  deriving DecidableEq, Repr

/-- Adds a name to an ascending list of names that has each name once. -/
def insertName (x : String) : List String → List String
  | [] => [x]
  | y :: ys => if x < y then x :: y :: ys else if x = y then y :: ys else y :: insertName x ys

namespace Declaration

def definingId? (d : Declaration) : Option ModuleId := d.defined.or d.owner

/-- The modules it is imported from, ascending and each once. -/
def importNames (d : Declaration) : List String :=
  (d.imported.map Import.moduleName).foldr insertName []

def firstImportName (d : Declaration) : String := d.importNames.head?.getD ""

end Declaration
end SymbolGraph
