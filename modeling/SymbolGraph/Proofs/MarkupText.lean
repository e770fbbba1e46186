import SymbolGraph.Proofs.MarkupGrammar
import SymbolGraph.Proofs.TypeTokens

/-!
# What markup says

The text of rendered markup, with the tags taken out and the entities read back, is the text of the tree. For
the line on a declaration this is its plain rendering, for a highlighted type expression the expression.
-/
namespace SymbolGraph

/-! ## Reading markup -/

/-- The text outside of tags; a tag goes up to the next `>`. -/
def withoutTags : List Char → List Char
  | [] => []
  | c :: rest => if c = '<' then withoutTags (rest.dropWhile (· ≠ '>')).tail else c :: withoutTags rest
termination_by cs => cs.length
decreasing_by
  · have hs := (List.dropWhile_suffix (· ≠ '>') (l := rest)).length_le
    simp only [List.length_tail, List.length_cons]
    omega
  · simp

/-- The text with each entity replaced by its character, read once from left to right. -/
def decode : List Char → List Char
  | '&' :: 'a' :: 'm' :: 'p' :: ';' :: rest => '&' :: decode rest
  | '&' :: 'l' :: 't' :: ';' :: rest => '<' :: decode rest
  | '&' :: 'g' :: 't' :: ';' :: rest => '>' :: decode rest
  | '&' :: 'n' :: 'b' :: 's' :: 'p' :: ';' :: rest => '\u00a0' :: decode rest
  | '&' :: 'q' :: 'u' :: 'o' :: 't' :: ';' :: rest => '"' :: decode rest
  | '&' :: '#' :: 'x' :: '2' :: '7' :: ';' :: rest => '\'' :: decode rest
  | c :: rest => c :: decode rest
  | [] => []

/-- What a reader of rendered markup sees, line breaks apart. -/
def visibleText (s : String) : String := String.ofList (decode (withoutTags s.toList))

theorem withoutTags_cons {c : Char} (h : c ≠ '<') (rest : List Char) :
    withoutTags (c :: rest) = c :: withoutTags rest := by
  rw [withoutTags, if_neg h]

theorem withoutTags_append {cs : List Char} (h : '<' ∉ cs) (rest : List Char) :
    withoutTags (cs ++ rest) = cs ++ withoutTags rest := by
  induction cs with
  | nil => rfl
  | cons c cs ih =>
    obtain ⟨hc, hcs⟩ : '<' ≠ c ∧ '<' ∉ cs := by simpa using h
    rw [List.cons_append, withoutTags_cons hc.symm, ih hcs, List.cons_append]

/-- A tag: angle brackets around text without a closing one. -/
def IsTag (cs : List Char) : Prop := ∃ inner, '>' ∉ inner ∧ cs = '<' :: inner ++ ['>']

theorem IsTag.withoutTags_append {tag : List Char} (h : IsTag tag) (rest : List Char) :
    withoutTags (tag ++ rest) = withoutTags rest := by
  obtain ⟨inner, hinner, rfl⟩ := h
  have hspan : IsSpan (· ≠ '>') inner ('>' :: rest) :=
    ⟨fun c hc => decide_eq_true fun heq => hinner (heq ▸ hc), rfl⟩
  have htext : '<' :: inner ++ ['>'] ++ rest = '<' :: (inner ++ '>' :: rest) := by simp
  rw [htext, withoutTags, if_pos rfl, hspan.dropWhile_eq, List.tail_cons]

theorem decode_cons {c : Char} (h : c ≠ '&') (rest : List Char) : decode (c :: rest) = c :: decode rest := by
  conv => lhs; unfold decode
  split <;> simp_all

theorem Entity.decode_text (e : Entity) (rest : List Char) :
    decode (e.text.toList ++ rest) = e.char :: decode rest := by
  cases e <;> simp [text, char, decode]

theorem Escape.decode_textChars (cs rest : List Char) :
    decode (cs.flatMap textChar ++ rest) = cs ++ decode rest := by
  induction cs with
  | nil => rfl
  | cons c cs ih =>
    rw [List.flatMap_cons, List.append_assoc]
    rcases textChar_cases c with ⟨e, hchar, htext⟩ | ⟨hc, hamp, -⟩
    · rw [htext, e.decode_text, ih, hchar, List.cons_append]
    · rw [hc, List.singleton_append, decode_cons hamp, ih, List.cons_append]

/-! ## The text of a tree -/

namespace Markup

def plain : Markup → String
  | empty => ""
  | text s => s
  | indent width => String.ofList (List.replicate width Entity.blank.char)
  | lineBreak => ""
  | append l r => l.plain ++ r.plain
  | element _ body => body.plain

theorem decode_blanks (n : Nat) (rest : List Char) :
    decode ((blanks n).toList ++ rest) = List.replicate n Entity.blank.char ++ decode rest := by
  induction n with
  | zero => rfl
  | succ n ih =>
    rw [blanks, String.toList_append, List.append_assoc]
    exact (Entity.blank.decode_text _).trans (by rw [ih, List.replicate_succ, List.cons_append])

theorem isTag_openTag (e : Element) : IsTag e.openTag.toList := by
  cases e with
  | paragraph => exact ⟨"p".toList, by decide, by simp [Element.openTag]⟩
  | span cls =>
    refine ⟨"span class=\"".toList ++ cls.name.toList ++ ['"'], ?_, by simp [Element.openTag]⟩
    cases cls <;> decide
  | anchor target =>
    refine ⟨"a href=\"".toList ++ (Escape.quoted target).toList ++ ['"'], ?_, by simp [Element.openTag]⟩
    have hquoted := (Escape.isQuotable_quoted target).1.2.1
    simp [hquoted]

theorem isTag_closeTag (e : Element) : IsTag e.closeTag.toList := by
  cases e with
  | paragraph => exact ⟨"/p".toList, by decide, by simp [Element.closeTag]⟩
  | span cls => exact ⟨"/span".toList, by decide, by simp [Element.closeTag]⟩
  | anchor target => exact ⟨"/a".toList, by decide, by simp [Element.closeTag]⟩

/-- The tree is read back from the front of a text, whatever follows it. -/
theorem decode_withoutTags_render (m : Markup) (rest : List Char) :
    decode (withoutTags (m.render.toList ++ rest)) = m.plain.toList ++ decode (withoutTags rest) := by
  induction m generalizing rest with
  | empty => rfl
  | text s =>
    rw [render, withoutTags_append (Escape.isEscaped_text s).1, Escape.text, String.toList_ofList,
      Escape.decode_textChars, plain]
  | indent width =>
    rw [render, withoutTags_append (isEscaped_blanks width).1, decode_blanks, plain, String.toList_ofList]
  | lineBreak =>
    have htag : IsTag "<br>".toList := ⟨['b', 'r'], by decide, rfl⟩
    rw [render, htag.withoutTags_append]
    rfl
  | append l r hl hr =>
    rw [render, String.toList_append, List.append_assoc, hl, hr, plain, String.toList_append, List.append_assoc]
  | element e body ih =>
    rw [render, String.toList_append, String.toList_append, List.append_assoc, List.append_assoc,
      (isTag_openTag e).withoutTags_append, ih, (isTag_closeTag e).withoutTags_append, plain]

theorem visibleText_render (m : Markup) : visibleText m.render = m.plain := by
  have hread := decode_withoutTags_render m []
  have hnil : decode (withoutTags []) = [] := by simp [withoutTags, decode]
  rw [List.append_nil, hnil, List.append_nil] at hread
  rw [visibleText, hread, String.ofList_toList]

theorem plain_join (sep : Markup) (ms : List Markup) :
    (join sep ms).plain = sep.plain.intercalate (ms.map plain) :=
  map_join rfl (fun _ _ => rfl) sep ms

theorem toList_plain_concat (ms : List Markup) : (concat ms).plain.toList = ms.flatMap (·.plain.toList) := by
  induction ms with
  | nil => rfl
  | cons m ms ih =>
    have hconcat : (concat (m :: ms)).plain = m.plain ++ (concat ms).plain := rfl
    rw [hconcat, String.toList_append, ih, List.flatMap_cons]

end Markup

/-! ## Type expressions -/

namespace TypeToken

theorem plain_markup (token : TypeToken) : token.markup.plain = token.text := by
  cases token <;> rfl

end TypeToken

theorem Markup.plain_ofType (expr : String) : (ofType expr).plain = expr := by
  rw [← String.toList_inj, ofType, toList_plain_concat, List.flatMap_map]
  simp only [TypeToken.plain_markup]
  exact (TypeToken.isTokenization_scan expr.toList).text_eq

/-! ## Declarations -/

namespace Declaration

/-- A type without its textual definition; other declarations have none. -/
def withoutDefinition (d : Declaration) : Declaration :=
  match d.kind with
  | .typeLike flavour shape => { d with kind := .typeLike flavour { shape with definition := none } }
  | _ => d

/-- The name starts as an identifier does. -/
def HasIdentifierName (d : Declaration) : Prop := d.name.toList.head?.any Text.Identifier.isIdentifierChar = true

instance (d : Declaration) : Decidable d.HasIdentifierName := inferInstanceAs (Decidable (_ = true))

end Declaration

namespace SymbolTable
open Markup

theorem plain_linked (t : SymbolTable) (d : Declaration) (body : Markup) :
    (t.linked d body).plain = body.plain := by
  unfold linked
  split <;> rfl

theorem plain_hoverLine_function (t : SymbolTable) {d : Declaration} {signature : Option String}
    (h : d.kind = .function signature) :
    (t.hoverLine d).plain = d.name ++ " :: " ++ Declaration.signatureText signature := by
  have hspan : (span .function (text d.name)).plain = d.name := rfl
  simp only [hoverLine, h, plain_join, List.map_cons, List.map_nil, plain_linked, hspan, plain_ofType]
  simp [← String.toList_inj, plain, span]

theorem plain_hoverLine_typeLike (t : SymbolTable) {d : Declaration} {flavour : TypeFlavour}
    {shape : TypeShape} (h : d.kind = .typeLike flavour shape) :
    (t.hoverLine d).plain = d.typeHead flavour shape := by
  have htype (s : Option String) : ((s.map ofType).toList.map plain) = s.toList := by
    cases s <;> simp [plain_ofType]
  have hname : (span .typeName (text d.name)).plain = d.name := rfl
  have hkeyword : (span .keyword (text flavour.keyword)).plain = flavour.keyword := rfl
  simp only [hoverLine, h, plain_join, List.map_cons, List.map_append, List.cons_append, plain_linked, hname,
    hkeyword, htype, Declaration.typeHead]
  rfl

/-- The line on a declaration says what its plain line says without a textual definition, but leaves out the
parentheses around an operator; a highlighted type expression says the expression. -/
theorem hover_markup_says_plain_text (t : SymbolTable) (d : Declaration) :
    ((∀ signature, d.kind = .function signature → d.HasIdentifierName) →
      visibleText (t.hoverLine d).render = d.withoutDefinition.oneLine) ∧
    (∀ signature, d.kind = .function signature → ¬d.HasIdentifierName →
      visibleText (t.hoverLine d).render = d.name ++ " :: " ++ signature.getD "?") ∧
    ∀ expr, visibleText (Markup.ofType expr).render = expr := by
  have hsignature (s : Option String) : Declaration.signatureText s = s.getD "?" := by cases s <;> rfl
  refine ⟨fun hname => ?_, fun signature hkind _ => ?_, fun expr => ?_⟩
  · rw [visibleText_render]
    cases hkind : d.kind with
    | other =>
      simp only [hoverLine, hkind, plain_linked, Declaration.oneLine, Declaration.withoutDefinition]
      rfl
    | function signature =>
      have hident : d.name.toList.head?.any Text.Identifier.isIdentifierChar = true := hname signature hkind
      rw [t.plain_hoverLine_function hkind]
      simp only [Declaration.withoutDefinition, hkind, Declaration.oneLine, wrapOperator, hident, if_true]
    | typeLike flavour shape =>
      rw [t.plain_hoverLine_typeLike hkind]
      simp only [Declaration.withoutDefinition, hkind, Declaration.oneLine, Option.getD_none]
      rfl
  · rw [visibleText_render, t.plain_hoverLine_function hkind, hsignature]
  · rw [visibleText_render, plain_ofType]

/-- Brackets, ampersands and what looks like an entity or a tag are shown as they are. -/
theorem hover_markup_says_plain_text_operator :
    let op : Declaration := { name := "<&>", kind := .function (some "f a -> &lt;b>") }
    let box : Declaration :=
      { name := "Box", kind := .typeLike .datatype ⟨["Eq a", "<p>"], ["a"], some "data Box a = B"⟩ }
    (¬op.HasIdentifierName ∧ visibleText (empty.hoverLine op).render = "<&> :: f a -> &lt;b>") ∧
      visibleText (empty.hoverLine box).render = "data (Eq a, <p>) => Box a" := by
  intro op box
  have hop : ¬op.HasIdentifierName := by decide +zetaReduce
  have hline := (hover_markup_says_plain_text empty op).2.1 _ rfl hop
  have hbox := (hover_markup_says_plain_text empty box).1 fun signature h => nomatch h
  exact ⟨⟨hop, hline.trans (by decide)⟩, hbox.trans (by decide)⟩

end SymbolTable
end SymbolGraph
