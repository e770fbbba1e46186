/-!
# Byte offsets in a text

A text is cut at byte offsets of its UTF-8 form, and a table of line starts leads from lines and columns to such
offsets.
-/
namespace SymbolGraph

namespace Text.Bytes

def size : List Char → Nat
  | [] => 0
  | c :: rest => c.utf8Size + size rest

/-- Cuts a text after `n` bytes; there is no cut past the end or inside a character. -/
def splitAt? : Nat → List Char → Option (List Char × List Char)
  | 0, cs => some ([], cs)
  | _ + 1, [] => none
  | n + 1, c :: rest =>
    if c.utf8Size ≤ n + 1 then (splitAt? (n + 1 - c.utf8Size) rest).map fun p => (c :: p.1, p.2)
    else none

def slice? (start stop : Nat) (cs : List Char) : Option (List Char) :=
  if start ≤ stop then
    (splitAt? start cs).bind fun p => (splitAt? (stop - start) p.2).map Prod.fst
  else none

def replace? (start stop : Nat) (contents cs : List Char) : Option (List Char) :=
  if start ≤ stop then
    (splitAt? start cs).bind fun p =>
      (splitAt? (stop - start) p.2).map fun q => p.1 ++ contents ++ q.2
  else none

@[simp] theorem size_append (l r : List Char) : size (l ++ r) = size l + size r := by
  induction l with
  | nil => simp [size]
  | cons c l ih => simp [size, ih, Nat.add_assoc]

theorem length_le_size (cs : List Char) : cs.length ≤ size cs := by
  induction cs with
  | nil => exact Nat.le_refl 0
  | cons c cs ih =>
    have hpos := c.utf8Size_pos
    simp only [List.length_cons, size]
    omega

theorem splitAt?_size_append (l r : List Char) : splitAt? (size l) (l ++ r) = some (l, r) := by
  induction l with
  | nil => simp [size, splitAt?]
  | cons c l ih =>
    obtain ⟨n, hn⟩ := Nat.exists_eq_succ_of_ne_zero (Nat.ne_of_gt c.utf8Size_pos)
    rw [size, hn, Nat.succ_add, List.cons_append, splitAt?, hn]
    simp [show n + size l + 1 - (n + 1) = size l by omega, ih]

/-- The part between two others is cut out at their sizes. -/
theorem slice?_size_append (l m r : List Char) : slice? (size l) (size l + size m) (l ++ m ++ r) = some m := by
  rw [slice?, if_pos (Nat.le_add_right _ _), List.append_assoc, splitAt?_size_append, Nat.add_sub_cancel_left]
  simp [splitAt?_size_append]

theorem replace?_size_append (l m r contents : List Char) :
    replace? (size l) (size l + size m) contents (l ++ m ++ r) = some (l ++ contents ++ r) := by
  rw [replace?, if_pos (Nat.le_add_right _ _), List.append_assoc, splitAt?_size_append, Nat.add_sub_cancel_left]
  simp [splitAt?_size_append]

theorem size_le_of_prefix {l r : List Char} (h : l <+: r) : size l ≤ size r := by
  obtain ⟨d, rfl⟩ := h
  rw [size_append]
  exact Nat.le_add_right _ _

/-- Of two texts that a third begins with, the one with fewer bytes begins the other. -/
theorem prefix_of_size_le {l r cs : List Char} (hl : l <+: cs) (hr : r <+: cs) (h : size l ≤ size r) : l <+: r := by
  rcases List.prefix_or_prefix_of_prefix hl hr with hlr | ⟨d, rfl⟩
  · exact hlr
  · have hd := length_le_size d
    rw [size_append] at h
    obtain rfl : d = [] := List.eq_nil_of_length_eq_zero (by omega)
    simp

end Text.Bytes

open Text

/-- The byte offsets at which the lines of a text start, and the text's length in bytes. -/
structure LineTable where
  starts : List Nat
  length : Nat
  deriving DecidableEq, Repr

namespace LineTable

/-- The offset behind each line feed of a text that begins at offset `n`. -/
def startsFrom : Nat → List Char → List Nat
  | _, [] => []
  | n, c :: rest =>
    let next := n + c.utf8Size
    if c = '\n' then next :: startsFrom next rest else startsFrom next rest

def ofText (text : String) : LineTable := ⟨0 :: startsFrom 0 text.toList, Bytes.size text.toList⟩

def lineCount (t : LineTable) : Nat := t.starts.length

/-- The offset of a line's end: before the line feed, or the end of the text. -/
def lineEnd (t : LineTable) (line : Nat) : Nat :=
  match t.starts[line + 1]? with
  | some next => next - 1
  | none => t.length

/-- The offset of a line and column in `text`. Lines before the first and behind the last give the ends of
the indexed text, columns stop at the ends of their line, and a line that is no slice of `text` gives its
start. -/
def offset (t : LineTable) (text : String) (line column : Int64) : Nat :=
  if line.toInt < 0 then 0
  else
    match t.starts[line.toInt.toNat]? with
    | none => t.length
    | some start =>
      match Bytes.slice? start (t.lineEnd line.toInt.toNat) text.toList with
      | none => start
      | some chars => start + Bytes.size (chars.take column.toInt.toNat)

end LineTable
end SymbolGraph
