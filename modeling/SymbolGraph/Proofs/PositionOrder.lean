import SymbolGraph.Fix.Buffer
import SymbolGraph.Proofs.LineCoordinates

/-!
# Positions in order

A position that stands before another leads to an offset before the other's, also where one of them or both have to be
moved into the text. So an edit with its ends in order has a range from the one to the other, and of two edits one
behind the other the ranges stand one behind the other.
-/
namespace SymbolGraph
open Text

namespace Position

instance : LE Position := leOfOrd

theorem le_iff {p q : Position} : p ≤ q ↔ p.line.toInt < q.line.toInt ∨ p.line = q.line ∧
    (p.column = none ∨ ∃ a b, p.column = some a ∧ q.column = some b ∧ a.toInt ≤ b.toInt) := by
  change ((compare p.line q.line).then (compareColumn p.column q.column)).isLE = true ↔ _
  rw [Ordering.isLE_then_iff_or, Std.compare_eq_lt, Std.compare_eq_iff_eq, Int64.lt_iff_toInt_lt]
  refine or_congr_right (and_congr_right fun _ => ?_)
  cases p.column <;> cases q.column <;>
    simp [compareColumn, Std.isLE_compare, Int64.le_iff_toInt_le]

/-- A column that is missing is as good as the first. -/
theorem column_le {p q : Position} (h : p ≤ q) : p.line.toInt < q.line.toInt ∨ p.line.toInt = q.line.toInt ∧
    max (p.column.getD 0).toInt 0 ≤ max (q.column.getD 0).toInt 0 := by
  rcases le_iff.1 h with hline | ⟨hline, hnone | ⟨a, b, ha, hb, hab⟩⟩
  · exact .inl hline
  · have hzero : (0 : Int64).toInt = 0 := rfl
    rw [hline, hnone, Option.getD_none, hzero]
    exact .inr ⟨rfl, by omega⟩
  · rw [hline, ha, hb, Option.getD_some, Option.getD_some]
    exact .inr ⟨rfl, by omega⟩

end Position

theorem LineTable.point_mono (text : String) {p q : Position} (h : p ≤ q) :
    (ofText text).point text p ≤ (ofText text).point text q := by
  obtain ⟨before, hbefore, hp⟩ := exists_denotes text p.line (p.column.getD 0)
  obtain ⟨before', hbefore', hq⟩ := exists_denotes text q.line (q.column.getD 0)
  rw [point, point, hp, hq]
  exact Bytes.size_le_of_prefix (hbefore.mono hbefore' (Position.column_le h))

theorem Edit.range_of_le {e : Edit} (h : e.start ≤ e.stop) (text : String) :
    (e.range (.ofText text) text).start = (LineTable.ofText text).point text e.start ∧
      (e.range (.ofText text) text).stop = (LineTable.ofText text).point text e.stop := by
  have hle := LineTable.point_mono text h
  exact ⟨Nat.min_eq_left hle, Nat.max_eq_right hle⟩

namespace Buffer

/-- The offset of a position in the text; without a column it is the start of the line. -/
def point (b : Buffer) (p : Position) : Nat := b.offset p.line (p.column.getD 0)

/-- Positions in order have offsets in order. An edit with its ends in order has the range between their offsets, and
the range of an edit behind it begins where its own has ended. -/
theorem ranges_in_order (path : Option String) (text : String) :
    (∀ p q : Position, p ≤ q → (ofText path text).point p ≤ (ofText path text).point q) ∧
    (∀ e : Edit, e.start ≤ e.stop → ((ofText path text).range e).start = (ofText path text).point e.start ∧
      ((ofText path text).range e).stop = (ofText path text).point e.stop) ∧
    ∀ e e' : Edit, e.start ≤ e.stop → e.stop ≤ e'.start → e'.start ≤ e'.stop →
      ((ofText path text).range e).stop ≤ ((ofText path text).range e').start := by
  have hmono : ∀ p q : Position, p ≤ q → (ofText path text).point p ≤ (ofText path text).point q :=
    fun p q h => LineTable.point_mono text h
  have hrange : ∀ e : Edit, e.start ≤ e.stop → ((ofText path text).range e).start = (ofText path text).point e.start ∧
      ((ofText path text).range e).stop = (ofText path text).point e.stop :=
    fun e h => e.range_of_le h text
  refine ⟨hmono, hrange, fun e e' he hbetween he' => ?_⟩
  calc ((ofText path text).range e).stop = (ofText path text).point e.stop := (hrange e he).2
    _ ≤ (ofText path text).point e'.start := hmono _ _ hbetween
    _ = ((ofText path text).range e').start := (hrange e' he').1.symm

/-- The first edit begins above the text and ends behind its line, the second one ends below the text. -/
theorem ranges_in_order_past_the_ends :
    let b := ofText none "aé\nλx"
    let e : Edit := { start := ⟨-3, some 8⟩, stop := ⟨0, some 9⟩ }
    let e' : Edit := { start := ⟨1, none⟩, stop := ⟨7, some (-1)⟩ }
    (e.start ≤ e.stop ∧ e.stop ≤ e'.start ∧ e'.start ≤ e'.stop) ∧
      (b.range e).start = 0 ∧ (b.range e).stop = 3 ∧ (b.range e').start = 4 ∧ (b.range e').stop = 7 ∧
      (b.range e).stop ≤ (b.range e').start := by
  intro b e e'
  obtain ⟨-, hrange, hfollow⟩ := ranges_in_order none "aé\nλx"
  have he : e.start ≤ e.stop := by decide +zetaReduce
  have hbetween : e.stop ≤ e'.start := by decide +zetaReduce
  have he' : e'.start ≤ e'.stop := by decide +zetaReduce
  obtain ⟨hstart, hstop⟩ := hrange e he
  obtain ⟨hstart', hstop'⟩ := hrange e' he'
  exact ⟨⟨he, hbetween, he'⟩, hstart.trans (by decide +zetaReduce), hstop.trans (by decide +zetaReduce),
    hstart'.trans (by decide +zetaReduce), hstop'.trans (by decide +zetaReduce), hfollow e e' he hbetween he'⟩

end Buffer
end SymbolGraph
