import SymbolGraph.Package
import SymbolGraph.Position

/-! # Where a module comes from -/
namespace SymbolGraph

structure SourceLocation where
  filename : Option String := none
  project : Option String := none
  deriving DecidableEq, Repr

structure InstalledLocation where
  package : Package
  database : PackageDatabase
  deriving DecidableEq, Repr

/-- A look-up service outside. -/
structure OtherLocation where
  source : Option String := none
  deriving DecidableEq, Repr

inductive Location where
  | source (place : SourceLocation)
  | installed (place : InstalledLocation)
  | other (place : OtherLocation)
  deriving DecidableEq, Repr

namespace InstalledLocation

/-- Database and package, the key under which installed modules are known. -/
def key (l : InstalledLocation) : String := l.database.text ++ ":" ++ l.package.id

def isShared (l : InstalledLocation) : Bool := l.database.sandboxPath?.isNone

end InstalledLocation

namespace Location

/-- The key for caching and deduplication. -/
def key : Location → String
  | source l => l.filename.getD ""
  | installed l => l.key
  | other l => "[" ++ l.source.getD "" ++ "]"

def label : Location → String
  | source l => l.filename.getD ""
  | installed l => l.package.id ++ " in " ++ l.database.text
  | other l => l.source.getD ""

/-- A location that says nothing. -/
def isNull : Location → Bool
  | source l => l.filename.isNone && l.project.isNone
  | installed _ => false
  | other l => l.source.isNone

def isSource : Location → Bool
  | source _ => true
  | _ => false

def isInstalled : Location → Bool
  | installed _ => true
  | _ => false

def isOther : Location → Bool
  | other _ => true
  | _ => false

def filename? : Location → Option String
  | source l => l.filename
  | _ => none

def project? : Location → Option String
  | source l => l.project
  | _ => none

def package? : Location → Option Package
  | installed l => some l.package
  | _ => none

def installed? : Location → Option InstalledLocation
  | installed l => some l
  | _ => none

/-- What an editor jumps to: the label and, behind a colon, the position. -/
def jumpTarget (l : Location) : Option Position → String
  | some p => l.label ++ ":" ++ p.text
  | none => l.label

end Location
end SymbolGraph
