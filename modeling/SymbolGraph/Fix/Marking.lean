import SymbolGraph.Fix.Buffer

/-! # Marking suggested fixes in the buffers that show their files -/
namespace SymbolGraph

inductive Severity where
  | error
  | warning
  | hint
  deriving DecidableEq, Repr

/-- Reads a level in any mix of ASCII cases; an unknown one is a hint. -/
def Severity.ofLevel (level : String) : Severity :=
  let lower := String.ofList (level.toList.map Char.toLower)
  if lower = "error" then .error
  else if lower = "warning" ∨ lower = "warn" then .warning
  else .hint

structure Fix where
  file : String
  severity : Severity
  message : String
  edit : Edit
  deriving DecidableEq, Repr

structure Highlight where
  key : String
  scope : String
  icon : String
  ranges : List TextRange
  deriving DecidableEq, Repr

namespace Fix

def markKey : String := "autofix"

variable {γ : Type} [DecidableEq γ] (canonical : String → Option γ)

/-- Two paths lead to the same file: both have a canonical form, and it is the same. -/
def sameFile (a b : String) : Bool := (canonical a).any fun p => (canonical b).any (p = ·)

/-- The ranges in a buffer of the fixes for its file, in the order of the fixes; a buffer without a file
gets no marks. -/
def highlight? (fixes : List Fix) (b : Buffer) : Option Highlight :=
  b.path.map fun path =>
    { key := markKey
      scope := "entity.name.function"
      icon := "dot"
      ranges := (fixes.filter fun f => sameFile canonical f.file path).map fun f => b.range f.edit }

def markIn (fixes : List Fix) (b : Buffer) : Buffer :=
  match highlight? canonical fixes b with
  | some h => b.mark h.key h.ranges
  | none => b

def markAll (fixes : List Fix) (buffers : List Buffer) : List Buffer := buffers.map (markIn canonical fixes)

end Fix
end SymbolGraph
