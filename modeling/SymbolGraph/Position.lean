import SymbolGraph.Text.Decimal

/-! # Line and column positions -/
namespace SymbolGraph

/-- A place in a text file. The base of line and column is the caller's, and neither need be positive. -/
structure Position where
  line : Int64
  column : Option Int64 := none
  deriving DecidableEq, Repr

namespace Position
open Text

def text (p : Position) : String :=
  match p.column with
  | some column => Decimal.intText p.line.toInt ++ ":" ++ Decimal.intText column.toInt
  | none => Decimal.intText p.line.toInt

def toZeroBased (p : Position) : Position := ⟨p.line - 1, p.column.map (· - 1)⟩

def toOneBased (p : Position) : Position := ⟨p.line + 1, p.column.map (· + 1)⟩

/-- A missing column comes before every column. -/
def compareColumn : Option Int64 → Option Int64 → Ordering
  | none, none => .eq
  | none, some _ => .lt
  | some _, none => .gt
  | some a, some b => compare a b

/-- Positions are ordered by line, then by column. -/
instance : Ord Position where
  compare a b := (compare a.line b.line).then (compareColumn a.column b.column)

end Position
end SymbolGraph
