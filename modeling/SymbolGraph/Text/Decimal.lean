/-! # Decimal text of integers -/
namespace SymbolGraph.Text.Decimal

def digitChar (d : Nat) : Char := Char.ofNat (48 + d)

/-- Decimal digits, most significant first and without leading zeros. -/
def digits (n : Nat) : List Char :=
  if n < 10 then [digitChar n] else digits (n / 10) ++ [digitChar (n % 10)]

/-- The decimal text of an integer, with a leading minus sign below zero. -/
def ofInt : Int → List Char
  | .ofNat n => digits n
  | .negSucc n => '-' :: digits (n + 1)

def isDigit (c : Char) : Bool := '0' ≤ c && c ≤ '9'

def digitValue (c : Char) : Nat := c.toNat - 48

def value (ds : List Char) : Nat := ds.foldl (fun n c => 10 * n + digitValue c) 0

theorem digitValue_digitChar {d : Nat} (h : d < 10) : digitValue (digitChar d) = d := by
  have : ∀ d < 10, digitValue (digitChar d) = d := by decide
  exact this d h

theorem value_append (ds : List Char) (c : Char) : value (ds ++ [c]) = 10 * value ds + digitValue c := by
  simp [value]

theorem value_digits (n : Nat) : value (digits n) = n := by
  fun_induction digits n with
  | case1 n h => simp [value, digitValue_digitChar h]
  | case2 n h ih =>
    rw [value_append, ih, digitValue_digitChar (Nat.mod_lt n (by decide))]
    omega

theorem isDigit_digitChar {d : Nat} (h : d < 10) : isDigit (digitChar d) = true := by
  have : ∀ d < 10, isDigit (digitChar d) = true := by decide
  exact this d h

theorem digits_ne_nil (n : Nat) : digits n ≠ [] := by
  rw [digits]
  split <;> simp

theorem isDigit_of_mem_digits {n : Nat} {c : Char} (h : c ∈ digits n) : isDigit c = true := by
  fun_induction digits n with
  | case1 n hn => rw [List.mem_singleton.1 h, isDigit_digitChar hn]
  | case2 n hn ih =>
    rcases List.mem_append.1 h with h | h
    · exact ih h
    · rw [List.mem_singleton.1 h, isDigit_digitChar (Nat.mod_lt n (by decide))]

/-- Only zero begins with a zero. -/
theorem eq_zero_of_head?_digits {n : Nat} (h : (digits n).head? = some '0') : n = 0 := by
  fun_induction digits n with
  | case1 n hn =>
    have : ∀ d < 10, digitChar d = '0' → d = 0 := by decide
    exact this n hn (by simpa using h)
  | case2 n hn ih =>
    obtain ⟨c, ds, hds⟩ := List.exists_cons_of_ne_nil (digits_ne_nil (n / 10))
    have hzero : n / 10 = 0 := ih (by simpa [hds] using h)
    omega

theorem digits_inj {m n : Nat} : digits m = digits n ↔ m = n := by
  refine ⟨fun h => ?_, congrArg digits⟩
  rw [← value_digits m, h, value_digits]

theorem digits_ne_signed (n : Nat) (cs : List Char) : digits n ≠ '-' :: cs := by
  intro h
  have hsign : '-' ∈ digits n := h ▸ List.mem_cons_self
  exact absurd (isDigit_of_mem_digits hsign) (by decide)

theorem mem_ofInt {n : Int} {c : Char} (h : c ∈ ofInt n) : c = '-' ∨ isDigit c = true := by
  cases n with
  | ofNat n => exact .inr (isDigit_of_mem_digits h)
  | negSucc n => exact (List.mem_cons.1 h).imp_right isDigit_of_mem_digits

/-- Integers are told apart by their texts: only negative ones have the sign. -/
theorem ofInt_inj {m n : Int} : ofInt m = ofInt n ↔ m = n := by
  refine ⟨fun h => ?_, congrArg ofInt⟩
  cases m with
  | ofNat m =>
    cases n with
    | ofNat n => rw [digits_inj.1 h]
    | negSucc n => exact absurd h (digits_ne_signed m _)
  | negSucc m =>
    cases n with
    | ofNat n => exact absurd h.symm (digits_ne_signed n _)
    | negSucc n =>
      have hdigits : digits (m + 1) = digits (n + 1) := (List.cons.inj h).2
      rw [Nat.succ.inj (digits_inj.1 hdigits)]

def natText (n : Nat) : String := String.ofList (digits n)

def intText (n : Int) : String := String.ofList (ofInt n)

end SymbolGraph.Text.Decimal
