import SymbolGraph.Text.Word

/-! # Packages and package databases -/
namespace SymbolGraph

structure Package where
  name : String
  version : Option String := none
  deriving DecidableEq, Repr

namespace Package
open Text

def id (p : Package) : String :=
  match p.version with
  | some version => p.name ++ "-" ++ version
  | none => p.name

def isNameChar (c : Char) : Bool := Word.isWord c || c == '-'

def isVersionChar (c : Char) : Bool := Word.isDecimal c || c == '.'

/-- Cuts at the last hyphen that only name characters precede and a version character follows. -/
def versionCut? : List Char → Option (List Char × List Char)
  | [] => none
  | c :: rest =>
    if isNameChar c then
      match versionCut? rest with
      | some (name, version) => some (c :: name, version)
      | none =>
        if c == '-' && rest.head?.any isVersionChar then some ([], rest.takeWhile isVersionChar)
        else none
    else none

/-- The name and version at the start of a package id; the name has at least one character. -/
def versioned? : List Char → Option (List Char × List Char)
  | [] => none
  | c :: rest =>
    if isNameChar c then (versionCut? rest).map fun p => (c :: p.1, p.2) else none

/-- Reads a package id: a name and a version if there is a version, else the longest name; what follows
is ignored. -/
def ofId? (id : String) : Option Package :=
  match versioned? id.toList with
  | some (name, version) => some ⟨String.ofList name, some (String.ofList version)⟩
  | none =>
    match id.toList.takeWhile isNameChar with
    | [] => none
    | name => some ⟨String.ofList name, none⟩

end Package

inductive PackageDatabase where
  | global
  | user
  | sandbox (path : String)
  deriving DecidableEq, Repr

namespace PackageDatabase

def text : PackageDatabase → String
  | global => "global-db"
  | user => "user-db"
  | sandbox path => path

/-- The shared databases have names of their own, every other text is the path of a sandbox. -/
def ofText (s : String) : PackageDatabase :=
  if s = "global-db" then global else if s = "user-db" then user else sandbox s

def sandboxPath? : PackageDatabase → Option String
  | sandbox path => some path
  | _ => none

end PackageDatabase
end SymbolGraph
