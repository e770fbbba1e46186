/-! # Files, directories and symbolic links, and the canonical form of a path -/
namespace SymbolGraph

inductive FileNode where
  | directory
  | file
  | link (target : String)
  deriving DecidableEq, Repr

/-- What stands at each place; places are lists of names from the root, which is always there. -/
structure FileTree where
  nodes : List (List String × FileNode) := []
  deriving DecidableEq, Repr

namespace FileTree

def components (path : String) : List String := path.splitOn "/"

/-- A path seen from a directory; one that starts with a slash is the same from everywhere. -/
def join (directory path : String) : String :=
  if path.startsWith "/" then path else directory ++ "/" ++ path

def node? (t : FileTree) (place : List String) : Option FileNode :=
  match place with
  | [] => some .directory
  | place => (t.nodes.find? fun p => p.1 == place).map Prod.snd

/-- Follows the remaining names of a path from a place that was reached, and at most `links` more symbolic
links. Only a directory has a way on; the root is above itself. -/
def walk (t : FileTree) (links : Nat) (place : List String) (names : List String) :
    Option (List String) :=
  match names with
  | [] => some place
  | name :: rest =>
    if t.node? place = some .directory then
      if name = "" ∨ name = "." then t.walk links place rest
      else if name = ".." then t.walk links place.dropLast rest
      else
        match t.node? (place ++ [name]), links with
        | none, _ => none
        | some (.link target), links + 1 =>
          t.walk links (if target.startsWith "/" then [] else place) (components target ++ rest)
        | some (.link _), 0 => none
        | some _, links => t.walk links (place ++ [name]) rest
    else none
termination_by (links, names.length)

def maxLinks : Nat := 40

def place? (t : FileTree) (names : List String) : Option (List String) := t.walk maxLinks [] names

/-- The path without links, dots and repeated slashes; every name on the way has to exist. -/
def canonical? (t : FileTree) (path : String) : Option (List String) := t.place? (components path)

/-- Adds a node under the last name to the directory that the names before it lead to, where there is none. -/
def addLast (t : FileTree) (names : List String) (n : FileNode) : FileTree :=
  match t.place? names, t.place? names.dropLast, names.getLast? with
  | none, some place, some name =>
    if t.node? place = some .directory ∧ t.node? (place ++ [name]) = none then
      ⟨t.nodes ++ [(place ++ [name], n)]⟩
    else t
  | _, _, _ => t

def addDirectories (t : FileTree) (names : List String) : FileTree :=
  (List.range (names.length + 1)).foldl (fun t n => t.addLast (names.take n) .directory) t

def addDirectory (t : FileTree) (path : String) : FileTree := t.addDirectories (components path)

def add (t : FileTree) (path : String) (n : FileNode) : FileTree :=
  (t.addDirectories (components path).dropLast).addLast (components path) n

end FileTree
end SymbolGraph
