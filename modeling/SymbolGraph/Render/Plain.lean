import SymbolGraph.Symbol.Resolution

/-! # Plain text for declarations: signatures, completions and summaries -/
namespace SymbolGraph
open Text

/-- A name as it stands in front of its arguments: operators are put in parentheses. -/
def wrapOperator (name : String) : String :=
  if name.toList.head?.any Identifier.isIdentifierChar then name else "(" ++ name ++ ")"

namespace TypeShape

def contextText? (s : TypeShape) : Option String :=
  match s.context with
  | [] => none
  | [single] => some (single ++ " =>")
  | many => some ("(" ++ ", ".intercalate many ++ ") =>")

def argsText (s : TypeShape) : String := " ".intercalate s.args

def argsText? (s : TypeShape) : Option String := if s.args.isEmpty then none else some s.argsText

end TypeShape

structure Completion where
  label : String
  inserted : String
  deriving DecidableEq, Repr

namespace Declaration

def signatureText : Option String → String
  | some signature => signature
  | none => "?"

def shortLine (d : Declaration) : String :=
  match d.kind with
  | .other => d.name
  | .function _ => wrapOperator d.name
  | .typeLike flavour shape => " ".intercalate (flavour.keyword :: d.name :: shape.args)

def typeHead (d : Declaration) (flavour : TypeFlavour) (shape : TypeShape) : String :=
  " ".intercalate
    (flavour.keyword :: shape.contextText?.toList ++ d.name :: shape.argsText?.toList)

/-- Declaration in one line: the signature of a function, the definition or else the head of a type. -/
def oneLine (d : Declaration) : String :=
  match d.kind with
  | .other => d.name
  | .function signature => wrapOperator d.name ++ " :: " ++ signatureText signature
  | .typeLike flavour shape => shape.definition.getD (d.typeHead flavour shape)

/-- The label ends with a tab and the first module it is imported from. -/
def completion (d : Declaration) : Completion :=
  let head :=
    match d.kind with
    | .function signature => wrapOperator d.name ++ " :: " ++ signatureText signature
    | .typeLike _ shape => " ".intercalate (d.name :: shape.argsText?.toList)
    | .other => d.name
  ⟨head ++ "\t" ++ d.firstImportName, d.name⟩

end Declaration

namespace SymbolTable

def originLines (t : SymbolTable) (d : Declaration) : List String :=
  let place :=
    match t.definingLocation? d with
    | some (.source l) => (l.project.map ("Project: " ++ ·)).toList
    | some (.installed l) => ["Installed in: " ++ l.database.text, "Package: " ++ l.package.id]
    | _ => []
  let target :=
    match t.jumpTarget? d with
    | some target => ["Defined at: " ++ target]
    | none => ((t.definingModule? d).map fun m => "Defined in: " ++ m.name).toList
  place ++ target

/-- Several lines on a declaration: its one line, imports, documentation and origin, with an empty line
between them. -/
def summary (t : SymbolTable) (d : Declaration) : String :=
  let imports := if d.importNames.isEmpty then [] else ["", "Imported from " ++ ", ".intercalate d.importNames]
  let docs :=
    match d.docs with
    | some docs => ["", docs]
    | none => []
  "\n".intercalate (d.oneLine :: imports ++ docs ++ "" :: t.originLines d)

end SymbolTable
end SymbolGraph
