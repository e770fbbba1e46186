import SymbolGraph.Text.CharacterClass

/-!
# Escaped text and markup

Markup is written as text: pieces are escaped one by one, and tags are put around what is already written. A tree is
nested and escaped whatever it is made of, so what is written is compared with the rendering of a tree.
-/
namespace SymbolGraph

/-! ## Lines of a text -/

namespace Text.Lines

/-- Puts `c` in front of the first line. -/
def consChar (c : Char) : List (List Char) → List (List Char)
  | [] => [[c]]
  | line :: rest => (c :: line) :: rest

/-- Lines end at a line feed, which may follow a carriage return; a text that ends with a line feed has
no empty last line. -/
def split : List Char → List (List Char)
  | [] => []
  | '\n' :: rest => [] :: split rest
  | '\r' :: '\n' :: rest => [] :: split rest
  | c :: rest => consChar c (split rest)

def indentation (line : List Char) : Nat := (line.takeWhile Blank.isBlank).length

def body (line : List Char) : List Char := line.dropWhile Blank.isBlank

end Text.Lines

/-! ## Escaping -/

namespace Escape

def textChar (c : Char) : List Char :=
  if c = '&' then "&amp;".toList
  else if c = '<' then "&lt;".toList
  else if c = '>' then "&gt;".toList
  else [c]

def quotedChar (c : Char) : List Char :=
  if c = '"' then "&quot;".toList
  else if c = '\'' then "&#x27;".toList
  else textChar c

def text (s : String) : String := String.ofList (s.toList.flatMap textChar)

def quoted (s : String) : String := String.ofList (s.toList.flatMap quotedChar)

end Escape

/-! ## Markup as a tree -/

/-- The fixed classes of highlighted text. -/
inductive SpanClass where
  | keyword
  | function
  | typeName
  | typeVariable
  | operator
  | comment
  | docs
  deriving DecidableEq, Repr

def SpanClass.name : SpanClass → String
  | keyword => "keyword"
  | function => "function"
  | typeName => "type"
  | typeVariable => "tyvar"
  | operator => "operator"
  | comment => "comment"
  | docs => "docs"

inductive Element where
  | paragraph
  | span (cls : SpanClass)
  | anchor (target : String)
  deriving DecidableEq, Repr

namespace Element

def openTag : Element → String
  | paragraph => "<p>"
  | span cls => "<span class=\"" ++ cls.name ++ "\">"
  | anchor target => "<a href=\"" ++ Escape.quoted target ++ "\">"

def closeTag : Element → String
  | paragraph => "</p>"
  | span _ => "</span>"
  | anchor _ => "</a>"

end Element

/-- Running text, indentation of a number of blanks, line breaks, and elements around them. -/
inductive Markup where
  | empty
  | text (s : String)
  | indent (width : Nat)
  | lineBreak
  | append (l r : Markup)
  | element (e : Element) (body : Markup)
  deriving DecidableEq, Repr

namespace Markup

instance : Append Markup := ⟨append⟩

/-- A blank that is kept. -/
def blankText : String := "&nbsp;"

def blanks : Nat → String
  | 0 => ""
  | n + 1 => blankText ++ blanks n

def render : Markup → String
  | empty => ""
  | text s => Escape.text s
  | indent width => blanks width
  | lineBreak => "<br>"
  | append l r => l.render ++ r.render
  | element e body => e.openTag ++ body.render ++ e.closeTag

def paragraph (body : Markup) : Markup := element .paragraph body

def span (cls : SpanClass) (body : Markup) : Markup := element (.span cls) body

def anchor (target : String) (body : Markup) : Markup := element (.anchor target) body

def join (sep : Markup) : List Markup → Markup
  | [] => empty
  | [m] => m
  | m :: ms => m ++ sep ++ join sep ms

def concat (ms : List Markup) : Markup := ms.foldr append empty

/-- One line of documentation, with its indentation kept. -/
def docLine (line : List Char) : Markup :=
  indent (Text.Lines.indentation line) ++ text (String.ofList (Text.Lines.body line))

def ofDocs (s : String) : Markup := join lineBreak ((Text.Lines.split s.toList).map docLine)

def docsParagraph : Option String → Markup
  | some docs => paragraph (span .docs (ofDocs docs))
  | none => empty

end Markup

/-! ## Markup as text -/

namespace Html

/-- A link around what is already written. -/
def link (target body : String) : String := "<a href=\"" ++ Escape.quoted target ++ "\">" ++ body ++ "</a>"

def span (cls body : String) : String := "<span class=\"" ++ cls ++ "\">" ++ body ++ "</span>"

theorem paragraph_span (cls body : String) :
    "<p>" ++ span cls body ++ "</p>" = "<p><span class=\"" ++ cls ++ "\">" ++ body ++ "</span></p>" := by
  have hopen : "<p>" ++ "<span class=\"" = "<p><span class=\"" := rfl
  have hclose : "</span>" ++ "</p>" = "</span></p>" := rfl
  have hspan : span cls body = "<span class=\"" ++ cls ++ "\">" ++ body ++ "</span>" := rfl
  rw [hspan, ← hopen, ← hclose]
  simp only [String.append_assoc]

/-- Documentation in lines, with a blank that is kept for each blank at the start of a line. -/
def ofDocs (s : String) : String :=
  let line (cs : List Char) : String :=
    Markup.blanks (Text.Lines.indentation cs) ++ Escape.text (String.ofList (Text.Lines.body cs))
  "<br>".intercalate ((Text.Lines.split s.toList).map line)

end Html

namespace Markup

@[simp] theorem render_empty : empty.render = "" := rfl

@[simp] theorem render_text (s : String) : (text s).render = Escape.text s := rfl

@[simp] theorem render_indent (width : Nat) : (indent width).render = blanks width := rfl

@[simp] theorem render_lineBreak : lineBreak.render = "<br>" := rfl

@[simp] theorem render_append (l r : Markup) : (l ++ r).render = l.render ++ r.render := rfl

@[simp] theorem render_paragraph (body : Markup) : (paragraph body).render = "<p>" ++ body.render ++ "</p>" := rfl

@[simp] theorem render_span (cls : SpanClass) (body : Markup) :
    (span cls body).render = Html.span cls.name body.render := rfl

@[simp] theorem render_anchor (target : String) (body : Markup) :
    (anchor target body).render = Html.link target body.render := rfl

/-- What is read off a tree piece by piece is read off joined pieces with that of `sep` between them. -/
theorem map_join {f : Markup → String} (hempty : f empty = "") (happend : ∀ l r, f (l ++ r) = f l ++ f r)
    (sep : Markup) (ms : List Markup) : f (join sep ms) = (f sep).intercalate (ms.map f) := by
  induction ms with
  | nil => simpa [join] using hempty
  | cons m ms ih =>
    cases ms with
    | nil => simp [join]
    | cons m' ms =>
      have hjoin : join sep (m :: m' :: ms) = m ++ sep ++ join sep (m' :: ms) := rfl
      rw [hjoin, happend, happend, ih]
      simp only [List.map_cons, String.intercalate_cons_cons]

theorem render_join (sep : Markup) (ms : List Markup) :
    (join sep ms).render = sep.render.intercalate (ms.map render) :=
  map_join rfl (fun _ _ => rfl) sep ms

@[simp] theorem render_ofDocs (s : String) : (ofDocs s).render = Html.ofDocs s := by
  rw [ofDocs, render_join, List.map_map]
  rfl

theorem render_docsParagraph (docs : Option String) : (docsParagraph docs).render =
    match docs with
    | some docs => "<p>" ++ Html.span "docs" (Html.ofDocs docs) ++ "</p>"
    | none => "" := by
  cases docs with
  | none => rfl
  | some docs =>
    rw [docsParagraph, render_paragraph, render_span, render_ofDocs]
    rfl

end Markup
end SymbolGraph
