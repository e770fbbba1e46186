import SymbolGraph.Json.Reader
import SymbolGraph.Json.Writer
import SymbolGraph.Report.Basic

/-! # The JSON form of positions, locations and reports -/
namespace SymbolGraph
open JsonValue

namespace Position

def toJson (p : Position) : JsonValue :=
  ofFields [("line", ofInt64 p.line), ("column", ofOption ofInt64 p.column)]

def ofJson? (v : JsonValue) : Option Position := do
  match ← record? ["line", "column"] 2 v with
  | [line, column] => return ⟨← required? int64? line, ← optional? int64? column⟩
  | _ => none

end Position

namespace Package

def toJson (p : Package) : JsonValue :=
  ofFields [("name", ofString p.name), ("version", ofOption ofString p.version)]

def ofJson? (v : JsonValue) : Option Package := do
  match ← record? ["name", "version"] 2 v with
  | [name, version] => return ⟨← required? string? name, ← optional? string? version⟩
  | _ => none

end Package

namespace PackageDatabase

def toJson : PackageDatabase → JsonValue
  | global => ofString "Global"
  | user => ofString "User"
  | sandbox path => ofFields [("Path", ofString path)]

/-- The shared databases are given by their names alone, or with null. -/
def ofJson? (v : JsonValue) : Option PackageDatabase :=
  match v.string? with
  | some s => if s = "Global" then some global else if s = "User" then some user else none
  | none =>
    match v.variant? with
    | some ("Global", .null) => some global
    | some ("User", .null) => some user
    | some ("Path", path) => path.string?.map sandbox
    | _ => none

end PackageDatabase

namespace SourceLocation

def toJson (l : SourceLocation) : JsonValue :=
  ofFields [("filename", ofOption ofString l.filename), ("project", ofOption ofString l.project)]

def ofJson? (v : JsonValue) : Option SourceLocation := do
  match ← record? ["filename", "project"] 2 v with
  | [filename, project] => return ⟨← optional? string? filename, ← optional? string? project⟩
  | _ => none

end SourceLocation

namespace InstalledLocation

def toJson (l : InstalledLocation) : JsonValue :=
  ofFields [("package", l.package.toJson), ("db", l.database.toJson)]

def ofJson? (v : JsonValue) : Option InstalledLocation := do
  match ← record? ["package", "db"] 2 v with
  | [package, database] =>
    return ⟨← required? Package.ofJson? package, ← required? PackageDatabase.ofJson? database⟩
  | _ => none

end InstalledLocation

namespace OtherLocation

def toJson (l : OtherLocation) : JsonValue := ofFields [("source", ofOption ofString l.source)]

def ofJson? (v : JsonValue) : Option OtherLocation := do
  match ← record? ["source"] 1 v with
  | [source] => return ⟨← optional? string? source⟩
  | _ => none

end OtherLocation

namespace Location

def toJson : Location → JsonValue
  | source l => ofFields [("Source", l.toJson)]
  | installed l => ofFields [("Installed", l.toJson)]
  | other l => ofFields [("Other", l.toJson)]

def ofJson? (v : JsonValue) : Option Location :=
  match v.variant? with
  | some ("Source", l) => (SourceLocation.ofJson? l).map source
  | some ("Installed", l) => (InstalledLocation.ofJson? l).map installed
  | some ("Other", l) => (OtherLocation.ofJson? l).map other
  | _ => none

end Location

namespace ImportReport

def toJson (r : ImportReport) : JsonValue :=
  ofFields [("name", ofString r.name), ("qualified", .bool r.qualified),
    ("as", ofOption ofString r.knownAs), ("position", ofOption Position.toJson r.position)]

def ofJson? (v : JsonValue) : Option ImportReport := do
  match ← record? ["name", "qualified", "as", "position"] 1 v with
  | [name, qualified, knownAs, position] =>
    return ⟨← required? string? name, ← defaulted? bool? false qualified, ← optional? string? knownAs,
      ← optional? Position.ofJson? position⟩
  | _ => none

end ImportReport

namespace TypeReport

def toFields (r : TypeReport) : List (String × JsonValue) :=
  [("context", ofList ofString r.context), ("args", ofList ofString r.args),
    ("definition", ofOption ofString r.definition)]

def ofFields? (fields : List (Option String × JsonValue)) : Option TypeReport :=
  if keysFit ["context", "args", "definition"] fields then do
    return ⟨← defaulted? (list? string?) [] (field? "context" fields),
      ← defaulted? (list? string?) [] (field? "args" fields),
      ← optional? string? (field? "definition" fields)⟩
  else none

end TypeReport

namespace KindReport

def word : KindReport → String
  | function _ => "function"
  | synonym _ => "type"
  | newtype _ => "newtype"
  | datatype _ => "data"
  | typeclass _ => "class"
  | other => "declaration"

/-- The fields of a kind, after the word that names it. -/
def toFields (k : KindReport) : List (String × JsonValue) :=
  ("what", ofString k.word) ::
    match k with
    | function signature => [("type", ofOption ofString signature)]
    | synonym r | newtype r | datatype r | typeclass r => r.toFields
    | other => []

def functionOfFields? (fields : List (Option String × JsonValue)) : Option KindReport :=
  if occurrences "type" fields ≤ 1 then (optional? string? (field? "type" fields)).map function else none

/-- All words. A kind may also be given by the place of its word in this list. -/
def words : List String := ["function", "type", "newtype", "data", "class", "declaration"]

def wordOfJson? : JsonValue → Option String
  | .string s => s
  | .number n => n.toInt?.bind fun i => if i < 0 then none else words[i.toNat]?
  | _ => none

/-- The kind that the fields describe; fields of other kinds are ignored. -/
def ofFields? (fields : List (Option String × JsonValue)) : Option KindReport := do
  if occurrences "what" fields ≤ 1 then
    match ← wordOfJson? (← field? "what" fields) with
    | "function" => functionOfFields? fields
    | "type" => (TypeReport.ofFields? fields).map synonym
    | "newtype" => (TypeReport.ofFields? fields).map newtype
    | "data" => (TypeReport.ofFields? fields).map datatype
    | "class" => (TypeReport.ofFields? fields).map typeclass
    | "declaration" => some other
    | _ => none
  else none

end KindReport

namespace DeclarationReport

def commonNames : List String := ["name", "docs", "position", "imported"]

def toJson (r : DeclarationReport) : JsonValue :=
  ofFields ([("name", ofString r.name), ("docs", ofOption ofString r.docs),
    ("position", ofOption Position.toJson r.position),
    ("imported", ofList ImportReport.toJson r.imported)] ++ r.kind.toFields)

/-- How deep the fields of a kind may be nested. -/
def maxDepth : Nat := 124

/-- The fields that all declarations share are read first; those of the kind are set aside until it is
known, so all of them have to be storable. -/
def ofJson? : JsonValue → Option DeclarationReport
  | .object fields => do
    let kindFields := fields.filter fun f => f.1.all (· ∉ commonNames)
    if keysFit commonNames fields && kindFields.all fun f => f.2.isStorable maxDepth then
      return {
        name := ← required? string? (field? "name" fields)
        docs := ← optional? string? (field? "docs" fields)
        position := ← optional? Position.ofJson? (field? "position" fields)
        imported := ← defaulted? (list? ImportReport.ofJson?) [] (field? "imported" fields)
        kind := ← KindReport.ofFields? kindFields }
    else none
  | _ => none

end DeclarationReport

namespace ModuleReport

def toJson (r : ModuleReport) : JsonValue :=
  ofFields [("name", ofString r.name), ("exports", ofOption (ofList ofString) r.exports),
    ("imports", ofList ImportReport.toJson r.imports),
    ("declarations", ofList DeclarationReport.toJson r.declarations)]

def ofJson? (v : JsonValue) : Option ModuleReport := do
  match ← record? ["name", "exports", "imports", "declarations"] 1 v with
  | [name, exports, imports, declarations] =>
    return ⟨← required? string? name, ← optional? (list? string?) exports,
      ← defaulted? (list? ImportReport.ofJson?) [] imports,
      ← defaulted? (list? DeclarationReport.ofJson?) [] declarations⟩
  | _ => none

def ofText? (text : String) : Option ModuleReport := (JsonValue.ofText? text).bind ofJson?

end ModuleReport
end SymbolGraph
