import SymbolGraph.LineTable
import SymbolGraph.OrderedMap
import SymbolGraph.Position

/-! # Edits of a text, and buffers that hold a text with marked ranges -/
namespace SymbolGraph
open Text

structure TextRange where
  start : Nat
  stop : Nat
  ordered : start ≤ stop
  deriving DecidableEq, Repr

namespace TextRange

def ofEnds? (start stop : Nat) : Option TextRange :=
  if h : start ≤ stop then some ⟨start, stop, h⟩ else none

/-- The range between two offsets in any order. -/
def between (a b : Nat) : TextRange := ⟨min a b, max a b, by omega⟩

end TextRange

structure Edit where
  start : Position
  stop : Position
  contents : String := ""
  deriving DecidableEq, Repr

/-- The offset of a position; without a column it is the start of the line. -/
def LineTable.point (t : LineTable) (text : String) (p : Position) : Nat :=
  t.offset text p.line (p.column.getD 0)

def Edit.range (e : Edit) (t : LineTable) (text : String) : TextRange :=
  .between (t.point text e.start) (t.point text e.stop)

structure Buffer where
  path : Option String
  text : String
  lines : LineTable
  marks : OrderedMap String (List TextRange)
  deriving DecidableEq, Repr

namespace Buffer

def ofText (path : Option String) (text : String) : Buffer := ⟨path, text, .ofText text, .empty⟩

def offset (b : Buffer) (line column : Int64) : Nat := b.lines.offset b.text line column

def range (b : Buffer) (e : Edit) : TextRange := e.range b.lines b.text

/-- The text of a range; the ends have to be character boundaries of the text. -/
def slice? (b : Buffer) (r : TextRange) : Option String :=
  (Bytes.slice? r.start r.stop b.text.toList).map String.ofList

/-- Carries an edit out. Marks do not survive an edit. -/
def edit? (b : Buffer) (e : Edit) : Option Buffer :=
  let r := b.range e
  (Bytes.replace? r.start r.stop e.contents.toList b.text.toList).map fun cs =>
    ofText b.path (String.ofList cs)

/-- Marks ranges under a key in the place of those marked under it before. -/
def mark (b : Buffer) (key : String) (ranges : List TextRange) : Buffer :=
  { b with marks := b.marks.insert key ranges }

def marked (b : Buffer) (key : String) : List TextRange := (b.marks.get? key).getD []

theorem marked_mark (b : Buffer) (key other : String) (ranges : List TextRange) :
    (b.mark key ranges).marked other = if key = other then ranges else b.marked other := by
  simp only [marked, mark, OrderedMap.get?_insert]
  split <;> rfl

end Buffer
end SymbolGraph
