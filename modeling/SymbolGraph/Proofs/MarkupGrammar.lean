import SymbolGraph.Render.Hover
import SymbolGraph.Render.PackageListing

/-!
# The grammar of hover markup

What is written for a declaration or a package is generated by a grammar of nested tags: whatever text they bring in
arrives between the tags, or in the address of a link, with its special characters written as entities. The text is
put together piece by piece, so the grammar is shown for the tree of which it is the rendering.
-/
namespace SymbolGraph

/-- The characters that are written by a name. -/
inductive Entity where
  | ampersand
  | less
  | greater
  | blank
  | doubleQuote
  | singleQuote
  deriving DecidableEq, Repr

namespace Entity

def text : Entity → String
  | ampersand => "&amp;"
  | less => "&lt;"
  | greater => "&gt;"
  | blank => "&nbsp;"
  | doubleQuote => "&quot;"
  | singleQuote => "&#x27;"

def char : Entity → Char
  | ampersand => '&'
  | less => '<'
  | greater => '>'
  | blank => '\u00a0'
  | doubleQuote => '"'
  | singleQuote => '\''

theorem text_eq_cons (e : Entity) : ∃ tail, e.text.toList = '&' :: tail ∧ '&' ∉ tail := by
  cases e <;> exact ⟨_, rfl, by decide⟩

end Entity

namespace Escape

/-- A character is written by its entity, or as it stands if it is not special in running text. -/
theorem textChar_cases (c : Char) :
    (∃ e : Entity, e.char = c ∧ textChar c = e.text.toList) ∨
      (textChar c = [c] ∧ c ≠ '&' ∧ c ≠ '<' ∧ c ≠ '>') := by
  by_cases hamp : c = '&'
  · exact .inl ⟨.ampersand, hamp.symm, by simp [textChar, hamp, Entity.text]⟩
  by_cases hless : c = '<'
  · exact .inl ⟨.less, hless.symm, by simp [textChar, hless, Entity.text]⟩
  by_cases hgreater : c = '>'
  · exact .inl ⟨.greater, hgreater.symm, by simp [textChar, hgreater, Entity.text]⟩
  exact .inr ⟨by simp [textChar, hamp, hless, hgreater], hamp, hless, hgreater⟩

/-- In an attribute the quotes are special too. -/
theorem quotedChar_cases (c : Char) :
    (∃ e : Entity, e.char = c ∧ quotedChar c = e.text.toList) ∨
      (quotedChar c = [c] ∧ (c ≠ '&' ∧ c ≠ '<' ∧ c ≠ '>') ∧ c ≠ '"' ∧ c ≠ '\'') := by
  by_cases hdouble : c = '"'
  · exact .inl ⟨.doubleQuote, hdouble.symm, by simp [quotedChar, hdouble, Entity.text]⟩
  by_cases hsingle : c = '\''
  · exact .inl ⟨.singleQuote, hsingle.symm, by simp [quotedChar, hsingle, Entity.text]⟩
  have hquoted : quotedChar c = textChar c := by simp [quotedChar, hdouble, hsingle]
  rw [hquoted]
  rcases textChar_cases c with he | ⟨hc, hplain⟩
  · exact .inl he
  · exact .inr ⟨hc, hplain, hdouble, hsingle⟩

end Escape

/-! ## Escaped text -/

/-- No angle bracket, and an entity at every ampersand. -/
def IsEscaped (cs : List Char) : Prop :=
  '<' ∉ cs ∧ '>' ∉ cs ∧ ∀ rest, '&' :: rest <:+ cs → ∃ e : Entity, e.text.toList <+: '&' :: rest

/-- Escaped text without quotes, as it may stand in a quoted attribute. -/
def IsQuotable (cs : List Char) : Prop := IsEscaped cs ∧ '"' ∉ cs ∧ '\'' ∉ cs

theorem isEscaped_nil : IsEscaped [] := by
  refine ⟨by simp, by simp, fun rest h => ?_⟩
  exact absurd (List.suffix_nil.1 h) (by simp)

theorem isEscaped_singleton {c : Char} (h : c ≠ '&' ∧ c ≠ '<' ∧ c ≠ '>') : IsEscaped [c] := by
  obtain ⟨hamp, hless, hgreater⟩ := h
  refine ⟨by simp [hless.symm], by simp [hgreater.symm], fun rest hrest => ?_⟩
  have hmem : '&' ∈ [c] := hrest.subset (by simp)
  exact absurd (List.mem_singleton.1 hmem).symm hamp

theorem Entity.isEscaped_text (e : Entity) : IsEscaped e.text.toList := by
  refine ⟨by cases e <;> decide, by cases e <;> decide, fun rest h => ⟨e, ?_⟩⟩
  obtain ⟨tail, htext, htail⟩ := e.text_eq_cons
  rw [htext] at h ⊢
  rcases List.suffix_cons_iff.1 h with heq | hsuffix
  · exact heq ▸ List.prefix_refl _
  · exact absurd (hsuffix.subset (by simp)) htail

theorem IsEscaped.append {l r : List Char} (hl : IsEscaped l) (hr : IsEscaped r) : IsEscaped (l ++ r) := by
  obtain ⟨hl₁, hl₂, hl₃⟩ := hl
  obtain ⟨hr₁, hr₂, hr₃⟩ := hr
  refine ⟨by simp [hl₁, hr₁], by simp [hl₂, hr₂], fun rest h => ?_⟩
  obtain ⟨before, h⟩ := h
  -- the ampersand stands in `l`, with its whole entity, or in `r`
  rcases List.append_eq_append_iff.1 h with ⟨tail, hl, hrest⟩ | ⟨head, -, hr⟩
  · cases tail with
    | nil => exact hr₃ rest ⟨[], hrest⟩
    | cons c tail =>
      obtain ⟨rfl, rfl⟩ := List.cons.inj hrest
      obtain ⟨e, he⟩ := hl₃ tail ⟨before, hl.symm⟩
      exact ⟨e, he.trans (List.prefix_append _ r)⟩
  · exact hr₃ rest ⟨head, hr.symm⟩

theorem isEscaped_flatMap {f : Char → List Char} (hf : ∀ c, IsEscaped (f c)) (cs : List Char) :
    IsEscaped (cs.flatMap f) := by
  induction cs with
  | nil => exact isEscaped_nil
  | cons c cs ih => exact (hf c).append ih

theorem Escape.isEscaped_textChar (c : Char) : IsEscaped (textChar c) := by
  rcases textChar_cases c with ⟨e, -, he⟩ | ⟨hc, hplain⟩
  · exact he ▸ e.isEscaped_text
  · exact hc ▸ isEscaped_singleton hplain

theorem Escape.isQuotable_quotedChar (c : Char) : IsQuotable (quotedChar c) := by
  rcases quotedChar_cases c with ⟨e, -, he⟩ | ⟨hc, hplain, hdouble, hsingle⟩
  · rw [he]
    exact ⟨e.isEscaped_text, by cases e <;> decide, by cases e <;> decide⟩
  · rw [hc]
    exact ⟨isEscaped_singleton hplain, by simp [hdouble.symm], by simp [hsingle.symm]⟩

theorem Escape.isEscaped_text (s : String) : IsEscaped (Escape.text s).toList := by
  rw [text, String.toList_ofList]
  exact isEscaped_flatMap isEscaped_textChar _

theorem Escape.isQuotable_quoted (s : String) : IsQuotable (quoted s).toList := by
  have hno {q : Char} (hq : ∀ c, q ∉ quotedChar c) : q ∉ s.toList.flatMap quotedChar := by
    intro hmem
    obtain ⟨c, -, hc⟩ := List.mem_flatMap.1 hmem
    exact hq c hc
  rw [quoted, String.toList_ofList]
  exact ⟨isEscaped_flatMap (fun c => (isQuotable_quotedChar c).1) _,
    hno fun c => (isQuotable_quotedChar c).2.1, hno fun c => (isQuotable_quotedChar c).2.2⟩

theorem Markup.isEscaped_blanks (n : Nat) : IsEscaped (blanks n).toList := by
  induction n with
  | zero => exact isEscaped_nil
  | succ n ih =>
    rw [blanks, String.toList_append]
    exact Entity.blank.isEscaped_text.append ih

/-! ## Nested tags -/

/-- Escaped text and line breaks, and paragraphs, spans of the fixed classes and links around them. -/
inductive Fragment : String → Prop where
  | text {s : String} (h : IsEscaped s.toList) : Fragment s
  | lineBreak : Fragment "<br>"
  | append {l r : String} (hl : Fragment l) (hr : Fragment r) : Fragment (l ++ r)
  | paragraph {body : String} (h : Fragment body) : Fragment ("<p>" ++ body ++ "</p>")
  | span (cls : SpanClass) {body : String} (h : Fragment body) :
      Fragment ("<span class=\"" ++ cls.name ++ "\">" ++ body ++ "</span>")
  | anchor {target body : String} (ht : IsQuotable target.toList) (h : Fragment body) :
      Fragment ("<a href=\"" ++ target ++ "\">" ++ body ++ "</a>")

theorem Markup.render_fragment (m : Markup) : Fragment m.render := by
  induction m with
  | empty => exact .text isEscaped_nil
  | text s => exact .text (Escape.isEscaped_text s)
  | indent width => exact .text (isEscaped_blanks width)
  | lineBreak => exact .lineBreak
  | append l r hl hr => exact .append hl hr
  | element e body ih =>
    cases e with
    | paragraph => exact .paragraph ih
    | span cls => exact .span cls ih
    | anchor target => exact .anchor (Escape.isQuotable_quoted target) ih

theorem SymbolTable.fragment_hoverLineText (t : SymbolTable) (d : Declaration) : Fragment (t.hoverLineText d) := by
  rw [← t.render_hoverLine]
  exact Markup.render_fragment _

theorem PackageListing.fragment_hoverText (p : PackageListing) : Fragment p.hoverText := by
  rw [← p.render_hoverCard]
  exact Markup.render_fragment _

/-- What is written for a declaration, in one line and as a card, and for a package is a fragment. A card is
missing only if its indentation is too wide to be written. -/
theorem hover_markup_wellFormed (t : SymbolTable) (o : HoverOptions) (d : Declaration) (p : PackageListing) :
    Fragment (t.hoverLineText d) ∧
    (6 * o.commentIndent < Nat.pow 2 63 ∧ (∃ card, t.hoverText? o d = some card ∧ Fragment card) ∨
      Nat.pow 2 63 ≤ 6 * o.commentIndent ∧ t.hoverText? o d = none) ∧
    Fragment p.hoverText := by
  refine ⟨t.fragment_hoverLineText d, ?_, p.fragment_hoverText⟩
  have hblank : Markup.blankText.utf8ByteSize = 6 := by decide
  rw [t.hoverText?_eq, HoverOptions.indentText?, hblank]
  by_cases hindent : 6 * o.commentIndent < Nat.pow 2 63
  · rw [if_pos hindent, Option.map_some]
    exact .inl ⟨hindent, _, rfl, Markup.render_fragment _⟩
  · rw [if_neg hindent, Option.map_none]
    exact .inr ⟨Nat.le_of_not_lt hindent, rfl⟩

end SymbolGraph
