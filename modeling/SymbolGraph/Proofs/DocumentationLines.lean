import Mathlib.Data.List.Forall2
import SymbolGraph.Proofs.MarkupText

/-!
# Lines of documentation

The markup of a text tells which lines there are, how far each one is indented and what stands in it, and no more than
that. Text cannot pass for an indentation or for a line break, since ampersands and angle brackets are written as
entities.
-/
namespace SymbolGraph
open Text

namespace Text.Lines
variable {line line' : List Char}

/-- Lines that differ at most in the kinds of blanks they are indented by. -/
def Alike (line line' : List Char) : Prop := indentation line = indentation line' ∧ body line = body line'

instance (line line' : List Char) : Decidable (Alike line line') := inferInstanceAs (Decidable (_ ∧ _))

theorem feed_not_mem_of_mem_split {cs : List Char} (h : line ∈ split cs) : '\n' ∉ line := by
  fun_induction split cs generalizing line with
  | case1 => simp at h
  | case2 rest ih =>
    rcases List.mem_cons.1 h with rfl | hmem
    · simp
    · exact ih hmem
  | case3 rest ih =>
    rcases List.mem_cons.1 h with rfl | hmem
    · simp
    · exact ih hmem
  | case4 c rest hfeed _ ih =>
    have hc : '\n' ≠ c := fun heq => hfeed heq.symm
    cases hrest : split rest with
    | nil =>
      obtain rfl : line = [c] := by simpa [hrest, consChar] using h
      simp [hc]
    | cons first lines =>
      rw [hrest, consChar] at h
      rw [hrest] at ih
      rcases List.mem_cons.1 h with rfl | hmem
      · simp [hc, ih (List.mem_cons_self ..)]
      · exact ih (List.mem_cons_of_mem _ hmem)

end Text.Lines

/-! ## Places of a pattern -/

/-- The number of places at which a pattern begins in a text. -/
def countOccurrences (pattern : List Char) : List Char → Nat
  | [] => 0
  | c :: rest => (if pattern <+: c :: rest then 1 else 0) + countOccurrences pattern rest

theorem countOccurrences_append {x : Char} {cs : List Char} (h : x ∉ cs) (pattern rest : List Char) :
    countOccurrences (x :: pattern) (cs ++ rest) = countOccurrences (x :: pattern) rest := by
  induction cs with
  | nil => rfl
  | cons c cs ih =>
    obtain ⟨hc, hcs⟩ : x ≠ c ∧ x ∉ cs := by simpa using h
    have hnot : ¬x :: pattern <+: c :: (cs ++ rest) := by simp [List.cons_prefix_cons, hc]
    rw [List.cons_append, countOccurrences, if_neg hnot, ih hcs, Nat.zero_add]

namespace Markup

theorem toList_render_break : lineBreak.render.toList = '<' :: "br>".toList := by decide

theorem countOccurrences_break (rest : List Char) :
    countOccurrences lineBreak.render.toList (lineBreak.render.toList ++ rest) =
      1 + countOccurrences lineBreak.render.toList rest := by
  have htail : '<' ∉ "br>".toList := by decide
  have hhere : '<' :: "br>".toList <+: '<' :: ("br>".toList ++ rest) := List.prefix_append _ rest
  rw [toList_render_break, List.cons_append, countOccurrences, if_pos hhere, countOccurrences_append htail]

/-! ## One line -/

theorem toList_render_docLine (line : List Char) : (docLine line).render.toList =
    (blanks (Lines.indentation line)).toList ++ (Lines.body line).flatMap Escape.textChar := by
  change (blanks _ ++ Escape.text _).toList = _
  rw [String.toList_append, Escape.text, String.toList_ofList, String.toList_ofList]

theorem isEscaped_docLine (line : List Char) : IsEscaped (docLine line).render.toList := by
  rw [toList_render_docLine]
  exact (isEscaped_blanks _).append (isEscaped_flatMap Escape.isEscaped_textChar _)

/-- The indentation is read back as blanks, and nothing of the body is. -/
theorem isSpan_blanks (line : List Char) :
    IsSpan Blank.isBlank (List.replicate (Lines.indentation line) Entity.blank.char) (Lines.body line) := by
  refine ⟨fun c hc => ?_, (isSpan_takeWhile Blank.isBlank line).stops⟩
  rw [List.eq_of_mem_replicate hc]
  decide

theorem toList_plain_docLine (line : List Char) : (docLine line).plain.toList =
    List.replicate (Lines.indentation line) Entity.blank.char ++ Lines.body line := by
  change (String.ofList _ ++ String.ofList _).toList = _
  rw [String.toList_append, String.toList_ofList, String.toList_ofList]

theorem render_docLine_eq_iff {line line' : List Char} :
    (docLine line).render = (docLine line').render ↔ Lines.Alike line line' := by
  constructor
  · intro h
    have hplain : (docLine line).plain = (docLine line').plain := by
      rw [← visibleText_render, h, visibleText_render]
    have htext := congrArg String.toList hplain
    rw [toList_plain_docLine, toList_plain_docLine] at htext
    obtain ⟨hindent, hbody⟩ := (isSpan_blanks line).unique (isSpan_blanks line') htext
    exact ⟨by simpa using congrArg List.length hindent, hbody⟩
  · rintro ⟨hindent, hbody⟩
    rw [docLine, docLine, hindent, hbody]

theorem feed_not_mem_textChar {c : Char} (h : c ≠ '\n') : '\n' ∉ Escape.textChar c := by
  rcases Escape.textChar_cases c with ⟨e, -, he⟩ | ⟨hc, -⟩
  · rw [he]
    cases e <;> decide
  · simp [hc, h.symm]

theorem feed_not_mem_blanks (n : Nat) : '\n' ∉ (blanks n).toList := by
  induction n with
  | zero => simp [blanks]
  | succ n ih => simp [blanks, blankText, ih]

theorem feed_not_mem_docLine {line : List Char} (h : '\n' ∉ line) : '\n' ∉ (docLine line).render.toList := by
  rw [toList_render_docLine, List.mem_append, not_or]
  refine ⟨feed_not_mem_blanks _, fun hmem => ?_⟩
  obtain ⟨c, hc, hfeed⟩ := List.mem_flatMap.1 hmem
  have hline : c ∈ line := (List.dropWhile_suffix _).subset hc
  exact feed_not_mem_textChar (fun heq => h (heq ▸ hline)) hfeed

/-! ## All lines -/

def nextLine (line : List Char) : List Char := lineBreak.render.toList ++ (docLine line).render.toList

theorem sep_append_join (sep : Markup) {ms : List Markup} (h : ms ≠ []) :
    sep.render.toList ++ (join sep ms).render.toList = ms.flatMap fun m => sep.render.toList ++ m.render.toList := by
  induction ms with
  | nil => exact absurd rfl h
  | cons m ms ih =>
    cases ms with
    | nil => simp [join]
    | cons m' ms =>
      have hjoin : (join sep (m :: m' :: ms)).render = m.render ++ sep.render ++ (join sep (m' :: ms)).render := rfl
      rw [hjoin, List.flatMap_cons, ← ih (by simp)]
      simp only [String.toList_append, List.append_assoc]

theorem break_append_ofDocs {s : String} (h : Lines.split s.toList ≠ []) :
    lineBreak.render.toList ++ (ofDocs s).render.toList = (Lines.split s.toList).flatMap nextLine := by
  rw [ofDocs, sep_append_join _ (by simpa using h), List.flatMap_map]
  rfl

theorem isSpan_docLine (line : List Char) (lines : List (List Char)) :
    IsSpan (· ≠ '<') (docLine line).render.toList (lines.flatMap nextLine) := by
  refine ⟨fun c hc => decide_eq_true fun heq => (isEscaped_docLine line).1 (heq ▸ hc), ?_⟩
  cases lines with
  | nil => rfl
  | cons line' lines =>
    rw [List.flatMap_cons, nextLine, toList_render_break]
    rfl

theorem flatMap_nextLine_eq_iff {lines lines' : List (List Char)} :
    lines.flatMap nextLine = lines'.flatMap nextLine ↔ List.Forall₂ Lines.Alike lines lines' := by
  induction lines generalizing lines' with
  | nil =>
    cases lines' with
    | nil => simp
    | cons line' lines' => simp [nextLine]
  | cons line lines ih =>
    cases lines' with
    | nil => simp [nextLine]
    | cons line' lines' =>
      simp only [List.flatMap_cons, nextLine, List.append_assoc, List.append_cancel_left_eq, List.forall₂_cons,
        ← ih, ← render_docLine_eq_iff]
      constructor
      -- the first `<` ends the line on both sides
      · intro h
        obtain ⟨hline, hlines⟩ := (isSpan_docLine line lines).unique (isSpan_docLine line' lines') h
        exact ⟨String.toList_inj.1 hline, hlines⟩
      · rintro ⟨hline, hlines⟩
        rw [hline]
        exact congrArg _ hlines

theorem countOccurrences_flatMap_nextLine (lines : List (List Char)) :
    countOccurrences lineBreak.render.toList (lines.flatMap nextLine) = lines.length := by
  induction lines with
  | nil => rfl
  | cons line lines ih =>
    have hline : countOccurrences lineBreak.render.toList ((docLine line).render.toList ++ lines.flatMap nextLine) =
        countOccurrences lineBreak.render.toList (lines.flatMap nextLine) := by
      rw [toList_render_break]
      exact countOccurrences_append (isEscaped_docLine line).1 _ _
    rw [List.flatMap_cons, nextLine, List.append_assoc, countOccurrences_break, hline, ih, List.length_cons, Nat.add_comm]

theorem feed_not_mem_ofDocs (s : String) : '\n' ∉ (ofDocs s).render.toList := by
  by_cases h : Lines.split s.toList = []
  · simp [ofDocs, h, join]
  · intro hmem
    have hflat : '\n' ∈ (Lines.split s.toList).flatMap nextLine := by
      rw [← break_append_ofDocs h]
      exact List.mem_append_right _ hmem
    obtain ⟨line, hline, hfeed⟩ := List.mem_flatMap.1 hflat
    rcases List.mem_append.1 hfeed with hbreak | hdoc
    · exact absurd hbreak (by decide)
    · exact feed_not_mem_docLine (Lines.feed_not_mem_of_mem_split hline) hdoc

/-- Texts with at least one line are written alike just if their lines have the same indentations and bodies. What is
written has no line feed, and one line break less than the text has lines. -/
theorem ofDocs_keeps_lines :
    (∀ s s' : String, Lines.split s.toList ≠ [] → Lines.split s'.toList ≠ [] →
      ((ofDocs s).render = (ofDocs s').render ↔
        List.Forall₂ Lines.Alike (Lines.split s.toList) (Lines.split s'.toList))) ∧
    ∀ s : String, '\n' ∉ (ofDocs s).render.toList ∧ (Lines.split s.toList ≠ [] →
      countOccurrences "<br>".toList (ofDocs s).render.toList + 1 = (Lines.split s.toList).length) := by
  constructor
  · intro s s' h h'
    rw [← flatMap_nextLine_eq_iff, ← break_append_ofDocs h, ← break_append_ofDocs h', List.append_cancel_left_eq,
      String.toList_inj]
  · intro s
    refine ⟨feed_not_mem_ofDocs s, fun h => ?_⟩
    have hcount := countOccurrences_flatMap_nextLine (Lines.split s.toList)
    rw [← break_append_ofDocs h, countOccurrences_break, Nat.add_comm] at hcount
    exact hcount

/-- Blanks of different kinds and line ends of different kinds are written alike, and a tag or an entity in the text is
neither a line break nor an indentation. -/
theorem ofDocs_keeps_lines_tags :
    let s := "a<br>\r\n\t&nbsp;b"
    let s' := "a<br>\n &nbsp;b\n"
    (Lines.split s.toList ≠ [] ∧ Lines.split s'.toList ≠ []) ∧ (ofDocs s).render = (ofDocs s').render ∧
      countOccurrences "<br>".toList (ofDocs s).render.toList = 1 := by
  intro s s'
  have h : Lines.split s.toList = ["a<br>".toList, "\t&nbsp;b".toList] := by decide +zetaReduce
  have h' : Lines.split s'.toList = ["a<br>".toList, " &nbsp;b".toList] := by decide +zetaReduce
  have hne : Lines.split s.toList ≠ [] := by simp [h]
  have hne' : Lines.split s'.toList ≠ [] := by simp [h']
  obtain ⟨heq, hcount⟩ := ofDocs_keeps_lines
  refine ⟨⟨hne, hne'⟩, (heq s s' hne hne').2 ?_, ?_⟩
  · rw [h, h']
    exact .cons (by decide) (.cons (by decide) .nil)
  · have hone := (hcount s).2 hne
    rw [h] at hone
    simpa using hone

end Markup
end SymbolGraph
