import SymbolGraph.Render.Markup
import SymbolGraph.Text.Word

/-! # Highlighting type expressions -/
namespace SymbolGraph
open Text

inductive TokenClass where
  | typeName
  | typeVariable
  | operator
  deriving DecidableEq, Repr

namespace TokenClass

def spanClass : TokenClass → SpanClass
  | typeName => .typeName
  | typeVariable => .typeVariable
  | operator => .operator

def cssName : TokenClass → String
  | typeName => "type"
  | typeVariable => "tyvar"
  | operator => "operator"

theorem name_spanClass (cls : TokenClass) : cls.spanClass.name = cls.cssName := by
  cases cls <;> rfl

end TokenClass

inductive TypeToken where
  | plain (text : String)
  | classified (cls : TokenClass) (text : String)
  deriving DecidableEq, Repr

namespace TypeToken

def text : TypeToken → String
  | plain s => s
  | classified _ s => s

def isCapital (c : Char) : Bool := 'A' ≤ c && c ≤ 'Z'

def isSmall (c : Char) : Bool := 'a' ≤ c && c ≤ 'z'

/-- The word at the start of a text and what follows it. A word is an unaccented letter and the word
characters behind it, and names a type if the letter is a capital. -/
def word? : List Char → Option (TypeToken × List Char)
  | [] => none
  | c :: rest =>
    let word := String.ofList (c :: rest.takeWhile Word.isWord)
    if isCapital c then some (classified .typeName word, rest.dropWhile Word.isWord)
    else if isSmall c then some (classified .typeVariable word, rest.dropWhile Word.isWord)
    else none

/-- The operator or word at the start of a text and what follows it. -/
def first? : List Char → Option (TypeToken × List Char)
  | '-' :: '>' :: rest => some (classified .operator "->", rest)
  | '=' :: '>' :: rest => some (classified .operator "=>", rest)
  | ':' :: ':' :: rest => some (classified .operator "::", rest)
  | cs => word? cs

theorem word?_length {cs : List Char} {p : TypeToken × List Char} (h : word? cs = some p) :
    p.2.length < cs.length := by
  cases cs with
  | nil => simp [word?] at h
  | cons c rest =>
    have hs := (List.dropWhile_suffix Word.isWord (l := rest)).length_le
    simp only [word?] at h
    split at h
    · cases h; simp only [List.length_cons]; omega
    · split at h
      · cases h; simp only [List.length_cons]; omega
      · simp at h

theorem first?_length {cs : List Char} {p : TypeToken × List Char} (h : first? cs = some p) :
    p.2.length < cs.length := by
  unfold first? at h
  split at h
  iterate 3 cases h; simp only [List.length_cons]; omega
  exact word?_length h

def consPlain (c : Char) : List TypeToken → List TypeToken
  | plain s :: rest => plain (String.ofList (c :: s.toList)) :: rest
  | tokens => plain (String.ofList [c]) :: tokens

/-- The tokens of a text, leftmost first; what is no word or operator is plain. -/
def scan : List Char → List TypeToken
  | [] => []
  | c :: rest =>
    match _h : first? (c :: rest) with
    | some p => p.1 :: scan p.2
    | none => consPlain c (scan rest)
termination_by cs => cs.length
decreasing_by
  · exact first?_length _h
  · simp

def ofType (expr : String) : List TypeToken := scan expr.toList

def markup : TypeToken → Markup
  | plain s => .text s
  | classified cls s => .span cls.spanClass (.text s)

def html : TypeToken → String
  | plain s => Escape.text s
  | classified cls s => "<span class=\"" ++ cls.cssName ++ "\">" ++ Escape.text s ++ "</span>"

theorem render_markup (token : TypeToken) : token.markup.render = token.html := by
  cases token with
  | plain s => rfl
  | classified cls s =>
    rw [markup, Markup.render_span, cls.name_spanClass]
    rfl

end TypeToken

def Markup.ofType (expr : String) : Markup := concat ((TypeToken.ofType expr).map TypeToken.markup)

/-- The highlighted expression as text, token behind token. -/
def Html.ofType (expr : String) : String :=
  (TypeToken.ofType expr).foldl (fun out token => out ++ token.html) ""

theorem TypeToken.foldl_html (tokens : List TypeToken) (out : String) :
    tokens.foldl (fun out token => out ++ token.html) out =
      out ++ (Markup.concat (tokens.map markup)).render := by
  induction tokens generalizing out with
  | nil => simp [Markup.concat]
  | cons token tokens ih =>
    rw [List.foldl_cons, ih, String.append_assoc, ← token.render_markup]
    rfl

@[simp] theorem Markup.render_ofType (expr : String) : (ofType expr).render = Html.ofType expr := by
  rw [Html.ofType, TypeToken.foldl_html, String.empty_append]
  rfl

end SymbolGraph
