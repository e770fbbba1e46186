import SymbolGraph.Proofs.Spans
import SymbolGraph.Render.TypeToken

/-!
# Tokens of type expressions

A type expression is cut into words, operators and the plain text between them in one way only: the tokens are the
whole text, a word is as long as it can be, and no word or operator begins inside of plain text.
-/
namespace SymbolGraph.TypeToken
open Text

def operators : List String := ["->", "=>", "::"]

/-- A word or an operator of a class in front of the rest of a text. A word has all the word characters behind its
letter. -/
inductive Stands : TokenClass → List Char → List Char → Prop where
  | typeName {c : Char} {tail rest : List Char} (hc : isCapital c = true) (htail : IsSpan Word.isWord tail rest) :
      Stands .typeName (c :: tail) rest
  | typeVariable {c : Char} {tail rest : List Char} (hc : isSmall c = true) (htail : IsSpan Word.isWord tail rest) :
      Stands .typeVariable (c :: tail) rest
  | operator {s : String} {rest : List Char} (hs : s ∈ operators) : Stands .operator s.toList rest

def Begins (cs : List Char) : Prop := ∃ cls word rest, cs = word ++ rest ∧ Stands cls word rest

def joined (tokens : List TypeToken) : List Char := tokens.flatMap (·.text.toList)

/-- No word or operator begins in `run`, be it one that goes on into the rest of the text. -/
def IsPlainRun (run rest : List Char) : Prop :=
  ∀ before c after, run = before ++ c :: after → ¬Begins (c :: after ++ rest)

/-- What a token has to be in front of the rest of the text. -/
def Fits : TypeToken → List Char → Prop
  | classified cls s, rest => Stands cls s.toList rest
  | plain s, rest => IsPlainRun s.toList rest

/-- The tokens make up the text, none is empty, no plain one follows another, and each is what it has to be where it
stands. -/
structure IsTokenization (cs : List Char) (tokens : List TypeToken) : Prop where
  text_eq : joined tokens = cs
  nonempty : ∀ token ∈ tokens, token.text ≠ ""
  apart : ∀ before s s' after, tokens ≠ before ++ plain s :: plain s' :: after
  fits : ∀ before token after, tokens = before ++ token :: after → token.Fits (joined after)

variable {cs rest : List Char} {token : TypeToken} {tokens : List TypeToken}

/-! ## The first word or operator -/

theorem Stands.ne_nil {cls : TokenClass} {word : List Char} (h : Stands cls word rest) : word ≠ [] := by
  cases h with
  | typeName => simp
  | typeVariable => simp
  | operator hs =>
    simp only [operators, List.mem_cons, List.not_mem_nil, or_false] at hs
    rcases hs with rfl | rfl | rfl <;> decide

theorem stands_of_word? (h : word? cs = some (token, rest)) :
    ∃ cls word, token = classified cls (String.ofList word) ∧ cs = word ++ rest ∧ Stands cls word rest := by
  cases cs with
  | nil => simp [word?] at h
  | cons c cs =>
    have htext : c :: cs = c :: cs.takeWhile Word.isWord ++ cs.dropWhile Word.isWord := by
      rw [List.cons_append, List.takeWhile_append_dropWhile]
    simp only [word?] at h
    split at h
    · rename_i hc
      cases h
      exact ⟨_, _, rfl, htext, .typeName hc (isSpan_takeWhile _ cs)⟩
    · split at h
      · rename_i hc
        cases h
        exact ⟨_, _, rfl, htext, .typeVariable hc (isSpan_takeWhile _ cs)⟩
      · cases h

theorem stands_of_first? (h : first? cs = some (token, rest)) :
    ∃ cls word, token = classified cls (String.ofList word) ∧ cs = word ++ rest ∧ Stands cls word rest := by
  unfold first? at h
  split at h
  · cases h
    exact ⟨_, "->".toList, rfl, rfl, .operator (by decide)⟩
  · cases h
    exact ⟨_, "=>".toList, rfl, rfl, .operator (by decide)⟩
  · cases h
    exact ⟨_, "::".toList, rfl, rfl, .operator (by decide)⟩
  · exact stands_of_word? h

theorem first?_of_letter {c : Char} (h : isCapital c = true ∨ isSmall c = true) (cs : List Char) :
    first? (c :: cs) = word? (c :: cs) := by
  unfold first?
  split
  iterate 3
    rename_i heq
    obtain ⟨rfl, -⟩ := List.cons.inj heq
    exact absurd h (by decide)
  rfl

theorem not_isCapital_of_isSmall {c : Char} (h : isSmall c = true) : isCapital c = false := by
  simp only [isSmall, Bool.and_eq_true, decide_eq_true_eq] at h
  have hle : ¬c ≤ 'Z' := fun hle => absurd (Char.le_trans h.1 hle) (by decide)
  simp [isCapital, hle]

theorem first?_of_stands {cls : TokenClass} {word : List Char} (h : Stands cls word rest) :
    first? (word ++ rest) = some (classified cls (String.ofList word), rest) := by
  cases h with
  | typeName hc htail => simp [first?_of_letter (.inl hc), word?, hc, htail.takeWhile_eq, htail.dropWhile_eq]
  | typeVariable hc htail =>
    simp [first?_of_letter (.inr hc), word?, hc, not_isCapital_of_isSmall hc, htail.takeWhile_eq, htail.dropWhile_eq]
  | operator hs =>
    simp only [operators, List.mem_cons, List.not_mem_nil, or_false] at hs
    rcases hs with rfl | rfl | rfl <;> rfl

theorem first?_eq_none_iff : first? cs = none ↔ ¬Begins cs := by
  constructor
  · rintro h ⟨cls, word, rest, rfl, hstands⟩
    rw [first?_of_stands hstands] at h
    cases h
  · intro h
    cases hfirst : first? cs with
    | none => rfl
    | some p =>
      obtain ⟨cls, word, -, htext, hstands⟩ := stands_of_first? hfirst
      exact absurd ⟨cls, word, p.2, htext, hstands⟩ h

/-! ## The scanner -/

theorem scan_of_first?_some {p : TypeToken × List Char} (h : first? cs = some p) : scan cs = p.1 :: scan p.2 := by
  cases cs with
  | nil => cases h
  | cons c cs =>
    rw [scan]
    split
    · rename_i p' hp
      rw [Option.some.inj (hp.symm.trans h)]
    · rename_i hnone
      cases hnone.symm.trans h

theorem scan_of_first?_none {c : Char} (h : first? (c :: cs) = none) : scan (c :: cs) = consPlain c (scan cs) := by
  rw [scan]
  split
  · rename_i p hp
    cases hp.symm.trans h
  · rfl

/-- A plain character is put in front of the plain text that follows it, or is a token of its own. -/
theorem consPlain_cases (c : Char) (tokens : List TypeToken) :
    (∃ s tail, tokens = plain s :: tail ∧ consPlain c tokens = plain (String.ofList (c :: s.toList)) :: tail) ∨
      ((∀ s tail, tokens ≠ plain s :: tail) ∧ consPlain c tokens = plain (String.ofList [c]) :: tokens) := by
  unfold consPlain
  split
  · exact .inl ⟨_, _, rfl, rfl⟩
  · rename_i hplain
    exact .inr ⟨hplain, rfl⟩

theorem foldr_consPlain {run : List Char} (hrun : run ≠ []) (h : ∀ s tail, tokens ≠ plain s :: tail) :
    run.foldr consPlain tokens = plain (String.ofList run) :: tokens := by
  induction run with
  | nil => exact absurd rfl hrun
  | cons c run ih =>
    rw [List.foldr_cons]
    by_cases hlast : run = []
    · subst hlast
      rcases consPlain_cases c tokens with ⟨s, tail, heq, -⟩ | ⟨-, heq⟩
      · exact absurd heq (h s tail)
      · exact heq
    · rw [ih hlast, consPlain, String.toList_ofList]

theorem isPlainRun_nil (rest : List Char) : IsPlainRun [] rest := by
  intro before c after h
  simp at h

theorem isPlainRun_cons_iff {c : Char} {run : List Char} :
    IsPlainRun (c :: run) rest ↔ ¬Begins (c :: (run ++ rest)) ∧ IsPlainRun run rest := by
  constructor
  · intro h
    exact ⟨h [] c run rfl, fun before x after heq => h (c :: before) x after (by rw [heq, List.cons_append])⟩
  · rintro ⟨hc, hrun⟩ before x after heq
    rcases List.cons_eq_append_iff.1 heq with ⟨-, hhead⟩ | ⟨before', -, htail⟩
    · obtain ⟨rfl, rfl⟩ := List.cons.inj hhead
      exact hc
    · exact hrun before' x after htail

/-- Where no word or operator begins, the scanner takes one character after the other. -/
theorem scan_append {run : List Char} (h : IsPlainRun run rest) :
    scan (run ++ rest) = run.foldr consPlain (scan rest) := by
  induction run with
  | nil => rfl
  | cons c run ih =>
    obtain ⟨hc, hrun⟩ := isPlainRun_cons_iff.1 h
    rw [List.cons_append, scan_of_first?_none (first?_eq_none_iff.2 hc), ih hrun, List.foldr_cons]

namespace IsTokenization

theorem nil : IsTokenization [] [] := ⟨rfl, by simp, by simp, by simp⟩

theorem cons (h : IsTokenization cs tokens) (hne : token.text ≠ "") (hfits : token.Fits cs)
    (hapart : ∀ s s' tail, token = plain s → tokens ≠ plain s' :: tail) :
    IsTokenization (token.text.toList ++ cs) (token :: tokens) where
  text_eq := by rw [joined, List.flatMap_cons, ← joined, h.text_eq]
  nonempty := List.forall_mem_cons.2 ⟨hne, h.nonempty⟩
  apart := by
    intro before s s' after heq
    rcases List.cons_eq_append_iff.1 heq with ⟨-, hhead⟩ | ⟨before', -, htail⟩
    · obtain ⟨rfl, rfl⟩ := List.cons.inj hhead
      exact hapart s s' after rfl rfl
    · exact h.apart before' s s' after htail
  fits := by
    intro before t after heq
    rcases List.cons_eq_append_iff.1 heq with ⟨-, hhead⟩ | ⟨before', -, htail⟩
    · obtain ⟨rfl, rfl⟩ := List.cons.inj hhead
      rw [h.text_eq]
      exact hfits
    · exact h.fits before' t after htail

theorem tail (h : IsTokenization cs (token :: tokens)) : IsTokenization (joined tokens) tokens where
  text_eq := rfl
  nonempty := (List.forall_mem_cons.1 h.nonempty).2
  apart := fun before s s' after heq => h.apart (token :: before) s s' after (by rw [heq, List.cons_append])
  fits := fun before t after heq => h.fits (token :: before) t after (by rw [heq, List.cons_append])

theorem ne_plain_cons {s : String} (h : IsTokenization cs (plain s :: tokens)) (s' : String) (rest : List TypeToken) :
    tokens ≠ plain s' :: rest := by
  intro heq
  exact h.apart [] s s' rest (by rw [heq, List.nil_append])

theorem cs_eq (h : IsTokenization cs (token :: tokens)) : cs = token.text.toList ++ joined tokens :=
  h.text_eq.symm

theorem consPlain (h : IsTokenization cs tokens) {c : Char} (hc : ¬Begins (c :: cs)) :
    IsTokenization (c :: cs) (consPlain c tokens) := by
  rcases consPlain_cases c tokens with ⟨s, tail, rfl, heq⟩ | ⟨hplain, heq⟩
  · have hfits : (plain (String.ofList (c :: s.toList))).Fits (joined tail) := by
      rw [Fits, String.toList_ofList, isPlainRun_cons_iff]
      rw [h.cs_eq] at hc
      exact ⟨hc, h.fits [] _ _ rfl⟩
    have hnew := h.tail.cons (by simp [text]) hfits fun _ s' rest _ => h.ne_plain_cons s' rest
    rw [heq, h.cs_eq]
    simpa [text] using hnew
  · have hfits : (plain (String.ofList [c])).Fits cs := by
      rw [Fits, String.toList_ofList, isPlainRun_cons_iff]
      exact ⟨hc, isPlainRun_nil cs⟩
    have hnew := h.cons (by simp [text]) hfits fun _ s' rest _ => hplain s' rest
    rw [heq]
    simpa [text] using hnew

/-- There is no other way to cut a text than the scanner's. -/
theorem scan_eq (h : IsTokenization cs tokens) : scan cs = tokens := by
  induction tokens generalizing cs with
  | nil =>
    obtain rfl : [] = cs := h.text_eq
    rw [scan]
  | cons token tokens ih =>
    have hrest := ih h.tail
    have hfits := h.fits [] _ _ rfl
    rw [h.cs_eq]
    -- a word or an operator is what the scanner finds first, and plain text is all it takes up to the next of them
    cases token with
    | classified cls s =>
      rw [text, scan_of_first?_some (first?_of_stands hfits), hrest, String.ofList_toList]
    | plain s =>
      have hne : s.toList ≠ [] := by simpa [text] using h.nonempty (plain s) (by simp)
      rw [text, scan_append hfits, hrest, foldr_consPlain hne h.ne_plain_cons, String.ofList_toList]

end IsTokenization

theorem isTokenization_scan (cs : List Char) : IsTokenization cs (scan cs) := by
  fun_induction scan cs with
  | case1 => exact .nil
  | case2 c rest p hfirst ih =>
    obtain ⟨cls, word, htoken, htext, hstands⟩ := stands_of_first? hfirst
    have hfits : p.1.Fits p.2 := by simpa [htoken, Fits] using hstands
    have hnew := ih.cons (by simpa [htoken, text] using hstands.ne_nil) hfits (by simp [htoken])
    rw [htext]
    simpa [htoken, text] using hnew
  | case3 c rest hfirst ih => exact ih.consPlain (first?_eq_none_iff.1 hfirst)

/-- The tokens of a type expression are the one list of tokens that makes up the text, without empty tokens and
neighbouring plain ones, whose words and operators are of their class and as long as can be, and in whose plain
text no word or operator begins. -/
theorem isTokenization_iff_eq_ofType (expr : String) (tokens : List TypeToken) :
    IsTokenization expr.toList tokens ↔ tokens = ofType expr := by
  constructor
  · intro h
    exact h.scan_eq.symm
  · rintro rfl
    exact isTokenization_scan expr.toList

example : ofType "é:::->a1" = [plain "é", classified .operator "::", plain ":", classified .operator "->",
    classified .typeVariable "a1"] := by cbv

end SymbolGraph.TypeToken
