/-!
# Characters of a class at the start of a text

What is taken from a text as long as the characters are of a class is told by two facts: its characters are of the
class, and the next one is not.
-/
namespace SymbolGraph

/-- The characters of a class at the start of a text, as far as they go, and the rest of the text. -/
structure IsSpan (p : Char → Bool) (span rest : List Char) : Prop where
  chars : ∀ c ∈ span, p c = true
  stops : rest.head?.any p = false

variable {p : Char → Bool} {span rest : List Char}

theorem isSpan_takeWhile (p : Char → Bool) (cs : List Char) : IsSpan p (cs.takeWhile p) (cs.dropWhile p) := by
  refine ⟨fun c hc => List.all_eq_true.1 List.all_takeWhile c hc, ?_⟩
  have hstop := List.head?_dropWhile_not p cs
  cases hhead : (cs.dropWhile p).head? with
  | none => rfl
  | some c => simpa [hhead] using hstop

namespace IsSpan

theorem takeWhile_eq (h : IsSpan p span rest) : (span ++ rest).takeWhile p = span := by
  rw [List.takeWhile_append_of_pos h.chars]
  cases rest with
  | nil => rw [List.takeWhile_nil, List.append_nil]
  | cons c rest =>
    have hc : ¬p c = true := by simpa using h.stops
    rw [List.takeWhile_cons_of_neg hc, List.append_nil]

theorem dropWhile_eq (h : IsSpan p span rest) : (span ++ rest).dropWhile p = rest := by
  rw [List.dropWhile_append_of_pos h.chars]
  cases rest with
  | nil => rfl
  | cons c rest =>
    have hc : ¬p c = true := by simpa using h.stops
    rw [List.dropWhile_cons_of_neg hc]

theorem unique {span' rest' : List Char} (h : IsSpan p span rest) (h' : IsSpan p span' rest')
    (heq : span ++ rest = span' ++ rest') : span = span' ∧ rest = rest' := by
  constructor
  · rw [← h.takeWhile_eq, heq, h'.takeWhile_eq]
  · rw [← h.dropWhile_eq, heq, h'.dropWhile_eq]

end IsSpan
end SymbolGraph
