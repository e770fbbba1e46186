import SymbolGraph.LineTable

/-!
# Lines and columns of byte offsets

A boundary between two characters is given by the text before it: its offset is the size of that text, its line
the number of line feeds in it and its column the number of characters behind the last one. The line table
leads from line and column to the offset, and coordinates that no boundary has are moved to the nearest ones.
-/
namespace SymbolGraph
open Text

def columnOf (cs : List Char) : Nat := (cs.reverse.takeWhile (· ≠ '\n')).length

theorem columnOf_le (cs : List Char) : columnOf cs ≤ cs.length := by
  have hle := (List.takeWhile_sublist (· ≠ '\n') (l := cs.reverse)).length_le
  rwa [List.length_reverse] at hle

theorem columnOf_feed (b : List Char) : columnOf (b ++ ['\n']) = 0 := by
  simp [columnOf]

theorem columnOf_append (b : List Char) {line : List Char} (h : '\n' ∉ line) :
    columnOf (b ++ line) = columnOf b + line.length := by
  have hpos : ∀ c ∈ line.reverse, decide (c ≠ '\n') = true := fun c hc =>
    decide_eq_true fun heq => h (heq ▸ List.mem_reverse.1 hc)
  rw [columnOf, List.reverse_append, List.takeWhile_append_of_pos hpos, List.length_append, List.length_reverse,
    Nat.add_comm]
  rfl

/-- Boundaries of a text stand in the order of their lines and columns. -/
theorem prefix_of_coordinates {cs b b' : List Char} (hb : b <+: cs) (hb' : b' <+: cs)
    (h : b.count '\n' < b'.count '\n' ∨ b.count '\n' = b'.count '\n' ∧ columnOf b ≤ columnOf b') : b <+: b' := by
  rcases List.prefix_or_prefix_of_prefix hb hb' with hprefix | ⟨d, rfl⟩
  · exact hprefix
  -- what `b` has behind `b'` holds no line feed and no other character
  · rw [List.count_append] at h
    have hnone : d.count '\n' = 0 := by omega
    have hcolumn := columnOf_append b' (List.count_eq_zero.1 hnone)
    have hd : d = [] := List.eq_nil_of_length_eq_zero (by omega)
    simp [hd]

theorem exists_first_line (cs : List Char) :
    ∃ line rest, cs = line ++ rest ∧ '\n' ∉ line ∧ (rest = [] ∨ ∃ r, rest = '\n' :: r) := by
  induction cs with
  | nil => exact ⟨[], [], rfl, by simp, .inl rfl⟩
  | cons c cs ih =>
    by_cases hc : c = '\n'
    · exact ⟨[], c :: cs, rfl, by simp, .inr ⟨cs, by rw [hc]⟩⟩
    · obtain ⟨line, rest, rfl, hline, hrest⟩ := ih
      exact ⟨c :: line, rest, rfl, by simp [hline, Ne.symm hc], hrest⟩

theorem exists_last_line (cs : List Char) :
    ∃ before line, cs = before ++ line ∧ (before = [] ∨ ∃ b, before = b ++ ['\n']) ∧ '\n' ∉ line := by
  obtain ⟨line, rest, heq, hline, hrest⟩ := exists_first_line cs.reverse
  refine ⟨rest.reverse, line.reverse, ?_, ?_, by simpa using hline⟩
  · rw [← List.reverse_append, ← heq, List.reverse_reverse]
  · rcases hrest with rfl | ⟨r, rfl⟩
    · exact .inl rfl
    · exact .inr ⟨r.reverse, List.reverse_cons⟩

/-! ## One line of a text -/

/-- The line `number` of a text, without its line feed, and what stands before and after it. -/
structure IsLine (cs : List Char) (number : Nat) (before line after : List Char) : Prop where
  text_eq : cs = before ++ line ++ after
  count_eq : before.count '\n' = number
  starts : before = [] ∨ ∃ b, before = b ++ ['\n']
  noFeed : '\n' ∉ line
  stops : after = [] ∨ ∃ a, after = '\n' :: a

namespace IsLine
variable {cs before line after : List Char} {number : Nat}

theorem columnOf_before (h : IsLine cs number before line after) : columnOf before = 0 := by
  rcases h.starts with rfl | ⟨b, rfl⟩
  · rfl
  · exact columnOf_feed b

theorem noFeed_take (h : IsLine cs number before line after) (n : Nat) : '\n' ∉ line.take n :=
  fun hmem => h.noFeed (List.mem_of_mem_take hmem)

theorem columnOf_take (h : IsLine cs number before line after) (n : Nat) :
    columnOf (before ++ line.take n) = min n line.length := by
  rw [columnOf_append before (h.noFeed_take n), h.columnOf_before, Nat.zero_add, List.length_take]

theorem count_take (h : IsLine cs number before line after) (n : Nat) :
    (before ++ line.take n).count '\n' = number := by
  rw [List.count_append, h.count_eq, List.count_eq_zero_of_not_mem (h.noFeed_take n), Nat.add_zero]

end IsLine

/-- Every boundary stands in a line, behind as many of its characters as its column says. -/
theorem exists_isLine_of_append (before after : List Char) : ∃ b line rest,
    IsLine (before ++ after) (before.count '\n') b line rest ∧ before = b ++ line.take (columnOf before) := by
  obtain ⟨b, front, rfl, hstarts, hfront⟩ := exists_last_line before
  obtain ⟨back, rest, rfl, hback, hrest⟩ := exists_first_line after
  have hcount : (b ++ front).count '\n' = b.count '\n' := by
    rw [List.count_append, List.count_eq_zero_of_not_mem hfront, Nat.add_zero]
  have hline : IsLine (b ++ front ++ (back ++ rest)) ((b ++ front).count '\n') b (front ++ back) rest :=
    ⟨by simp, hcount.symm, hstarts, by simp [hfront, hback], hrest⟩
  have hcolumn : columnOf (b ++ front) = front.length := by
    rw [columnOf_append b hfront, hline.columnOf_before, Nat.zero_add]
  exact ⟨b, front ++ back, rest, hline, by rw [hcolumn, List.take_left]⟩

theorem exists_isLine (cs : List Char) {number : Nat} (h : number ≤ cs.count '\n') :
    ∃ before line after, IsLine cs number before line after := by
  induction number generalizing cs with
  | zero =>
    obtain ⟨line, rest, rfl, hline, hrest⟩ := exists_first_line cs
    exact ⟨[], line, rest, rfl, rfl, .inl rfl, hline, hrest⟩
  | succ number ih =>
    -- behind the first line feed there is one line less to go
    obtain ⟨first, rest, rfl, hfirst, hrest⟩ := exists_first_line cs
    rcases hrest with rfl | ⟨rest, rfl⟩
    · simp [List.count_eq_zero_of_not_mem hfirst] at h
    · have hcount : (first ++ '\n' :: rest).count '\n' = rest.count '\n' + 1 := by
        simp [List.count_eq_zero_of_not_mem hfirst]
      obtain ⟨before, line, after, hl⟩ := ih rest (by omega)
      refine ⟨first ++ '\n' :: before, line, after, by simp [hl.text_eq], ?_, .inr ?_, hl.noFeed, hl.stops⟩
      · simp [List.count_eq_zero_of_not_mem hfirst, hl.count_eq]
      · rcases hl.starts with rfl | ⟨b, rfl⟩
        · exact ⟨first, rfl⟩
        · exact ⟨first ++ '\n' :: b, by simp⟩

theorem length_splitOn_feed (cs : List Char) : (cs.splitOn '\n').length = cs.count '\n' + 1 := by
  induction cs with
  | nil => rfl
  | cons c cs ih =>
    rw [List.splitOn_cons_eq_if_modifyHead]
    by_cases hc : c = '\n'
    · simp [hc, ih]
    · simp [hc, ih]

theorem IsLine.getElem?_splitOn {cs before line after : List Char} {number : Nat}
    (h : IsLine cs number before line after) : (cs.splitOn '\n')[number]? = some line := by
  have hrest : (line ++ after).splitOn '\n' = line :: ((line ++ after).splitOn '\n').tail := by
    rcases h.stops with rfl | ⟨a, rfl⟩
    · rw [List.append_nil, List.splitOn_eq_singleton h.noFeed, List.tail_cons]
    · rw [List.splitOn_append_cons_self_of_not_mem h.noFeed, List.tail_cons]
  rw [h.text_eq, ← h.count_eq, List.append_assoc]
  rcases h.starts with rfl | ⟨b, rfl⟩
  · rw [List.nil_append, hrest]
    rfl
  · have htext : b ++ ['\n'] ++ (line ++ after) = b ++ '\n' :: (line ++ after) := by simp
    have hcount : (b ++ ['\n']).count '\n' = (b.splitOn '\n').length := by
      simp [length_splitOn_feed]
    rw [htext, List.splitOn_append_cons_self, hrest, hcount, List.getElem?_append_right (Nat.le_refl _),
      Nat.sub_self]
    rfl

/-! ## The line table -/

namespace LineTable

theorem length_startsFrom (n : Nat) (cs : List Char) : (startsFrom n cs).length = cs.count '\n' := by
  induction cs generalizing n with
  | nil => rfl
  | cons c cs ih => by_cases hc : c = '\n' <;> simp [startsFrom, hc, ih]

theorem startsFrom_append (n : Nat) (l r : List Char) :
    startsFrom n (l ++ r) = startsFrom n l ++ startsFrom (n + Bytes.size l) r := by
  induction l generalizing n with
  | nil => rfl
  | cons c l ih =>
    by_cases hc : c = '\n' <;> simp [startsFrom, hc, ih, Bytes.size, Nat.add_assoc]

theorem startsFrom_of_noFeed (n : Nat) {cs : List Char} (h : '\n' ∉ cs) : startsFrom n cs = [] := by
  have hlength := length_startsFrom n cs
  rw [List.count_eq_zero_of_not_mem h] at hlength
  exact List.eq_nil_of_length_eq_zero hlength

theorem lineCount_ofText (text : String) : (ofText text).lineCount = text.toList.count '\n' + 1 := by
  simp [lineCount, ofText, length_startsFrom]

variable {text : String} {number : Nat} {before chars after : List Char}

/-- From a line on, the table has the line's own start and those of the line feeds behind it. -/
theorem drop_starts (h : IsLine text.toList number before chars after) : (ofText text).starts.drop number =
      Bytes.size before :: startsFrom (Bytes.size before + Bytes.size chars) after := by
  have hskip : startsFrom (Bytes.size before) (chars ++ after) =
      startsFrom (Bytes.size before + Bytes.size chars) after := by
    rw [startsFrom_append, startsFrom_of_noFeed _ h.noFeed, List.nil_append]
  rw [← hskip, ← h.count_eq]
  rcases h.starts with rfl | ⟨b, rfl⟩
  · simp [ofText, h.text_eq, Bytes.size]
  -- the line's start is the entry of the line feed in front of it
  · have hfeed : startsFrom (Bytes.size b) ['\n'] = [Bytes.size (b ++ ['\n'])] := by
      simp [startsFrom, Bytes.size]
    have hstarts : startsFrom 0 text.toList = startsFrom 0 b ++
        Bytes.size (b ++ ['\n']) :: startsFrom (Bytes.size (b ++ ['\n'])) (chars ++ after) := by
      rw [h.text_eq, List.append_assoc, startsFrom_append, startsFrom_append, Nat.zero_add, Nat.zero_add, hfeed,
        List.append_assoc, List.singleton_append]
    have hcount : (b ++ ['\n']).count '\n' = (startsFrom 0 b).length + 1 := by
      simp [length_startsFrom]
    rw [ofText, hcount, List.drop_succ_cons, hstarts, List.drop_left]

theorem getElem?_starts (h : IsLine text.toList number before chars after) :
    (ofText text).starts[number]? = some (Bytes.size before) := by
  have hdrop := congrArg (fun l => l[0]?) (drop_starts h)
  simpa [List.getElem?_drop] using hdrop

theorem lineEnd_eq (h : IsLine text.toList number before chars after) :
    (ofText text).lineEnd number = Bytes.size before + Bytes.size chars := by
  have hdrop := congrArg (fun l => l[1]?) (drop_starts h)
  have hnext : (ofText text).starts[number + 1]? =
      (startsFrom (Bytes.size before + Bytes.size chars) after)[0]? := by
    simpa [List.getElem?_drop] using hdrop
  have hfeed : '\n'.utf8Size = 1 := rfl
  rw [lineEnd, hnext]
  rcases h.stops with rfl | ⟨a, rfl⟩
  · simp [startsFrom, ofText, h.text_eq]
  · simp [startsFrom, hfeed]

/-- A column of a line that is there leads into the line or to its end. -/
theorem offset_of_isLine {line : Int64} (hline : 0 ≤ line.toInt) (column : Int64)
    (h : IsLine text.toList line.toInt.toNat before chars after) :
    (ofText text).offset text line column = Bytes.size (before ++ chars.take column.toInt.toNat) := by
  have hslice : Bytes.slice? (Bytes.size before) (Bytes.size before + Bytes.size chars) text.toList =
      some chars := by
    rw [h.text_eq]
    exact Bytes.slice?_size_append before chars after
  rw [offset, if_neg (by omega)]
  simp only [getElem?_starts h, lineEnd_eq h, hslice, Bytes.size_append]

theorem offset_of_neg {line : Int64} (hline : line.toInt < 0) (column : Int64) :
    (ofText text).offset text line column = 0 := if_pos hline

theorem offset_past_end {line : Int64} (hline : (text.toList.count '\n' : Int) < line.toInt)
    (column : Int64) : (ofText text).offset text line column = Bytes.size text.toList := by
  have hlength : (ofText text).starts.length = text.toList.count '\n' + 1 := lineCount_ofText text
  have hnone : (ofText text).starts[line.toInt.toNat]? = none := List.getElem?_eq_none (by omega)
  rw [offset, if_neg (by omega), hnone]
  rfl

/-- Line and column of a boundary lead to its offset, whatever stands behind it. -/
theorem offset_of_coordinates {before after : List Char} (htext : text.toList = before ++ after)
    {line column : Int64} (hline : line.toInt = before.count '\n') (hcolumn : column.toInt = columnOf before) :
    (ofText text).offset text line column = Bytes.size before := by
  obtain ⟨b, chars, rest, hl, hb⟩ := exists_isLine_of_append before after
  rw [← htext, ← Int.toNat_natCast (before.count '\n'), ← hline] at hl
  rw [offset_of_isLine (by omega) _ hl, hcolumn, Int.toNat_natCast, ← hb]

theorem offset_coordinates {before after : List Char} (htext : text.toList = before ++ after)
    (hsize : Bytes.size text.toList < UInt32.size) :
    (ofText text).offset text (Int64.ofNat (before.count '\n')) (Int64.ofNat (columnOf before)) =
      Bytes.size before := by
  have hword : UInt32.size = 4294967296 := rfl
  have hlength := Bytes.length_le_size text.toList
  have hbefore : before.length ≤ text.toList.length := by simp [htext]
  have hcount : before.count '\n' ≤ before.length := List.count_le_length
  have hcolumn := columnOf_le before
  exact offset_of_coordinates htext (Int64.toInt_ofNat_of_lt (by omega)) (Int64.toInt_ofNat_of_lt (by omega))

/-- Where a line and a column lead, as the text before: to the start of the text before its first line, to its
end behind the last, and within a line to the column nearest to the one asked for. -/
structure Denotes (cs : List Char) (line column : Int) (before : List Char) : Prop where
  boundary : before <+: cs
  above : line < 0 → before = []
  below : (cs.count '\n' : Int) < line → before = cs
  within : 0 ≤ line → line ≤ cs.count '\n' → (before.count '\n' : Int) = line ∧
    ∃ chars, (cs.splitOn '\n')[line.toNat]? = some chars ∧
      (columnOf before : Int) = min (max column 0) chars.length

/-- Lines and columns in order, columns before the first being taken for it, lead to boundaries in order. -/
theorem Denotes.mono {cs b b' : List Char} {line line' column column' : Int} (h : Denotes cs line column b)
    (h' : Denotes cs line' column' b') (hle : line < line' ∨ line = line' ∧ max column 0 ≤ max column' 0) :
    b <+: b' := by
  by_cases hneg : line < 0
  · rw [h.above hneg]
    exact List.nil_prefix
  by_cases hpast : (cs.count '\n' : Int) < line'
  · rw [h'.below hpast]
    exact h.boundary
  obtain ⟨hcount, chars, hchars, hcolumn⟩ := h.within (by omega) (by omega)
  obtain ⟨hcount', chars', hchars', hcolumn'⟩ := h'.within (by omega) (by omega)
  apply prefix_of_coordinates h.boundary h'.boundary
  rcases hle with hlt | ⟨rfl, hle⟩
  · exact .inl (by omega)
  · obtain rfl : chars = chars' := Option.some.inj (hchars.symm.trans hchars')
    exact .inr ⟨by omega, by omega⟩

theorem Denotes.unique {cs b b' : List Char} {line column : Int} (h : Denotes cs line column b)
    (h' : Denotes cs line column b') : b = b' := by
  have hforth : b <+: b' := h.mono h' (.inr ⟨rfl, Int.le_refl _⟩)
  have hback : b' <+: b := h'.mono h (.inr ⟨rfl, Int.le_refl _⟩)
  exact hforth.eq_of_length_le hback.length_le

theorem exists_denotes (text : String) (line column : Int64) : ∃ before,
    Denotes text.toList line.toInt column.toInt before ∧
      (ofText text).offset text line column = Bytes.size before := by
  by_cases hneg : line.toInt < 0
  · exact ⟨[], ⟨List.nil_prefix, fun _ => rfl, by omega, by omega⟩, offset_of_neg hneg column⟩
  by_cases hpast : (text.toList.count '\n' : Int) < line.toInt
  · exact ⟨text.toList, ⟨List.prefix_refl _, by omega, fun _ => rfl, by omega⟩, offset_past_end hpast column⟩
  have hnumber : line.toInt.toNat ≤ text.toList.count '\n' := by omega
  obtain ⟨before, chars, after, h⟩ := exists_isLine text.toList hnumber
  refine ⟨before ++ chars.take column.toInt.toNat, ⟨?_, by omega, by omega, fun _ _ => ⟨?_, chars,
    h.getElem?_splitOn, ?_⟩⟩, offset_of_isLine (by omega) column h⟩
  · refine ⟨chars.drop column.toInt.toNat ++ after, ?_⟩
    rw [← List.append_assoc, List.append_assoc before, List.take_append_drop, h.text_eq]
  · rw [h.count_take]
    omega
  · rw [h.columnOf_take]
    omega

/-! ## Offsets as words of 32 bits -/

theorem bounds_of_mem_startsFrom {n s : Nat} {cs : List Char} (h : s ∈ startsFrom n cs) :
    0 < s ∧ s ≤ n + Bytes.size cs := by
  induction cs generalizing n with
  | nil => exact absurd h List.not_mem_nil
  | cons c cs ih =>
    have hpos := c.utf8Size_pos
    have hrest : s = n + c.utf8Size ∨ s ∈ startsFrom (n + c.utf8Size) cs := by
      by_cases hc : c = '\n'
      · simpa [startsFrom, hc] using h
      · exact .inr (by simpa [startsFrom, hc] using h)
    rw [Bytes.size]
    rcases hrest with rfl | hmem
    · omega
    · have hbounds := ih hmem
      omega

theorem offset_le_size (text : String) (line column : Int64) :
    (ofText text).offset text line column ≤ Bytes.size text.toList := by
  obtain ⟨before, hbefore, hoffset⟩ := exists_denotes text line column
  rw [hoffset]
  exact Bytes.size_le_of_prefix hbefore.boundary

/-- The numbers that a table has and leads to are words of 32 bits, and the end of a line is one less than the start of
the next. -/
structure InWords (t : LineTable) (text : String) : Prop where
  length : t.length < UInt32.size
  starts : ∀ s ∈ t.starts, s < UInt32.size
  ends : ∀ s ∈ t.starts.tail, 0 < s
  offsets : ∀ line column : Int64, t.offset text line column < UInt32.size

theorem inWords_ofText (text : String) (hsize : Bytes.size text.toList < UInt32.size) : (ofText text).InWords text where
  length := hsize
  starts s hs := by
    rcases List.mem_cons.1 hs with rfl | hmem
    · exact Nat.zero_lt_of_lt hsize
    · have hbounds := bounds_of_mem_startsFrom hmem
      omega
  ends s hs := (bounds_of_mem_startsFrom hs).1
  offsets line column := Nat.lt_of_le_of_lt (offset_le_size text line column) hsize

/-- Line and column of a boundary lead to its offset, any line and column to the offset of the one boundary that
has them, moved into the text, and the table has a line more than the text has line feeds. -/
theorem offset_exact (text : String) (hsize : Bytes.size text.toList < UInt32.size) :
    (∀ before, before <+: text.toList →
      (ofText text).offset text (Int64.ofNat (before.count '\n')) (Int64.ofNat (columnOf before)) =
        Bytes.size before) ∧
    (∀ line column : Int64, ∃ before, Denotes text.toList line.toInt column.toInt before ∧
      (∀ other, Denotes text.toList line.toInt column.toInt other → other = before) ∧
      (ofText text).offset text line column = Bytes.size before) ∧
    (ofText text).lineCount = text.toList.count '\n' + 1 := by
  refine ⟨?_, fun line column => ?_, lineCount_ofText text⟩
  · rintro before ⟨after, htext⟩
    exact offset_coordinates htext.symm hsize
  · obtain ⟨before, hbefore, hoffset⟩ := exists_denotes text line column
    exact ⟨before, hbefore, fun other hother => hother.unique hbefore, hoffset⟩

/-- Behind the first character of the second line, where characters of two bytes stand on both lines. -/
theorem offset_exact_second_line :
    Bytes.size "aé\nλx\n".toList < UInt32.size ∧
      (ofText "aé\nλx\n").offset "aé\nλx\n" (Int64.ofNat 1) (Int64.ofNat 1) = 6 := by
  have hsize : Bytes.size "aé\nλx\n".toList < UInt32.size := by decide
  exact ⟨hsize, (offset_exact "aé\nλx\n" hsize).1 "aé\nλ".toList ⟨"x\n".toList, by decide⟩⟩

end LineTable
end SymbolGraph
