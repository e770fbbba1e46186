import SymbolGraph.Json.Value

/-! # Tokens of JSON text -/
namespace SymbolGraph
open Text

inductive JsonToken where
  | openObject
  | closeObject
  | openArray
  | closeArray
  | comma
  | colon
  | null
  | bool (b : Bool)
  | number (n : JsonNumber)
  | string (s : Option String)
  deriving DecidableEq, Repr

namespace JsonToken

def isSpace (c : Char) : Bool := c == ' ' || c == '\t' || c == '\n' || c == '\r'

def hexDigit? (c : Char) : Option Nat :=
  if '0' ≤ c && c ≤ '9' then some (c.toNat - 48)
  else if 'a' ≤ c && c ≤ 'f' then some (c.toNat - 87)
  else if 'A' ≤ c && c ≤ 'F' then some (c.toNat - 55)
  else none

def hexUnit? (a b c d : Char) : Option Nat := do
  return (← hexDigit? a) * 4096 + (← hexDigit? b) * 256 + (← hexDigit? c) * 16 + (← hexDigit? d)

def shortEscape? (c : Char) : Option Nat :=
  if c == '"' || c == '\\' || c == '/' then some c.toNat
  else if c == 'b' then some 8
  else if c == 't' then some 9
  else if c == 'n' then some 10
  else if c == 'f' then some 12
  else if c == 'r' then some 13
  else none

def consUnit (n : Nat) (p : List Nat × List Char) : List Nat × List Char := (n :: p.1, p.2)

/-- The code points and escaped units up to the closing quote, and what follows it. -/
def units? : List Char → Option (List Nat × List Char)
  | [] => none
  | '"' :: rest => some ([], rest)
  | '\\' :: 'u' :: a :: b :: c :: d :: rest => do
    let n ← hexUnit? a b c d
    return consUnit n (← units? rest)
  | '\\' :: e :: rest => do
    let n ← shortEscape? e
    return consUnit n (← units? rest)
  | c :: rest => if c.toNat < 32 then none else (units? rest).map (consUnit c.toNat)

def isHighSurrogate (n : Nat) : Bool := 0xD800 ≤ n && n < 0xDC00

def isLowSurrogate (n : Nat) : Bool := 0xDC00 ≤ n && n < 0xE000

/-- Joins surrogate pairs; half a pair denotes no text. -/
def ofUnits? : List Nat → Option (List Char)
  | [] => some []
  | u :: v :: rest =>
    if isHighSurrogate u then
      if isLowSurrogate v then
        (ofUnits? rest).map (Char.ofNat (0x10000 + (u - 0xD800) * 0x400 + (v - 0xDC00)) :: ·)
      else none
    else if isLowSurrogate u then none
    else (ofUnits? (v :: rest)).map (Char.ofNat u :: ·)
  | [u] => if isHighSurrogate u || isLowSurrogate u then none else some [Char.ofNat u]

/-- The longest run of digits, which is not empty, and what follows it. -/
def digits? (cs : List Char) : Option (List Char × List Char) :=
  match cs.takeWhile Decimal.isDigit with
  | [] => none
  | ds => some (ds, cs.dropWhile Decimal.isDigit)

/-- The digits of a whole number: a zero alone, or digits that do not begin with one. -/
def whole? : List Char → Option (List Char × List Char)
  | '0' :: rest => some (['0'], rest)
  | cs => digits? cs

def fraction? : List Char → Option (List Char × List Char)
  | '.' :: rest => digits? rest
  | cs => some ([], cs)

/-- The sign and digits of an exponent, which end the number. -/
def exponent? : List Char → Option (Bool × List Char)
  | '-' :: ds => if ds.isEmpty || !ds.all Decimal.isDigit then none else some (true, ds)
  | '+' :: ds => if ds.isEmpty || !ds.all Decimal.isDigit then none else some (false, ds)
  | ds => if ds.isEmpty || !ds.all Decimal.isDigit then none else some (false, ds)

/-- Reads a whole text as a number without sign. -/
def magnitude? (negative : Bool) (cs : List Char) : Option JsonNumber :=
  (whole? cs).bind fun w => (fraction? w.2).bind fun f =>
    match f.2 with
    | [] => some ⟨negative, w.1, f.1, none⟩
    | e :: rest =>
      if e == 'e' || e == 'E' then (exponent? rest).map fun x => ⟨negative, w.1, f.1, some x⟩ else none

def number? : List Char → Option JsonNumber
  | '-' :: rest => magnitude? true rest
  | cs => magnitude? false cs

def isNumberChar (c : Char) : Bool :=
  Decimal.isDigit c || c == '-' || c == '+' || c == '.' || c == 'e' || c == 'E'

/-- The token at the start of a text that does not start with a space, and what follows it. -/
def next? : List Char → Option (JsonToken × List Char)
  | '{' :: rest => some (openObject, rest)
  | '}' :: rest => some (closeObject, rest)
  | '[' :: rest => some (openArray, rest)
  | ']' :: rest => some (closeArray, rest)
  | ',' :: rest => some (comma, rest)
  | ':' :: rest => some (colon, rest)
  | '"' :: rest => (units? rest).map fun p => (string ((ofUnits? p.1).map String.ofList), p.2)
  | 'n' :: 'u' :: 'l' :: 'l' :: rest => some (null, rest)
  | 't' :: 'r' :: 'u' :: 'e' :: rest => some (bool true, rest)
  | 'f' :: 'a' :: 'l' :: 's' :: 'e' :: rest => some (bool false, rest)
  | cs => (number? (cs.takeWhile isNumberChar)).map fun n => (number n, cs.dropWhile isNumberChar)

theorem units?_length {cs : List Char} {p : List Nat × List Char} (h : units? cs = some p) :
    p.2.length < cs.length := by
  fun_induction units? cs generalizing p with
  | case1 => simp at h
  | case2 => simp_all; subst h; simp
  | case3 a b c d rest ih =>
    cases hn : hexUnit? a b c d <;> cases hu : units? rest <;> simp_all [consUnit]
    subst h
    simp only
    omega
  | case4 e rest _ ih =>
    cases hn : shortEscape? e <;> cases hu : units? rest <;> simp_all [consUnit]
    subst h
    simp only
    omega
  | case5 => simp at h
  | case6 c rest _ _ _ ih =>
    cases hu : units? rest <;> simp_all [consUnit]
    subst h
    simp only
    omega

theorem number?_nil : number? [] = none := rfl

theorem next?_length {cs : List Char} {p : JsonToken × List Char} (h : next? cs = some p) :
    p.2.length < cs.length := by
  unfold next? at h
  split at h
  iterate 6 cases h; simp
  · obtain ⟨q, hq, rfl⟩ := Option.map_eq_some_iff.1 h
    have := units?_length hq
    simp only [List.length_cons]
    omega
  iterate 3 cases h; simp only [List.length_cons]; omega
  · obtain ⟨n, hn, rfl⟩ := Option.map_eq_some_iff.1 h
    have hl := congrArg List.length (List.takeWhile_append_dropWhile (p := isNumberChar) (l := cs))
    rw [List.length_append] at hl
    cases ht : cs.takeWhile isNumberChar with
    | nil => simp [ht, number?_nil] at hn
    | cons c rest =>
      rw [ht, List.length_cons] at hl
      simp only
      omega

def scan? : List Char → Option (List JsonToken)
  | [] => some []
  | c :: rest =>
    if isSpace c then scan? rest
    else
      match _h : next? (c :: rest) with
      | some p => (scan? p.2).map (p.1 :: ·)
      | none => none
termination_by cs => cs.length
decreasing_by
  · simp
  · exact next?_length _h

end JsonToken
end SymbolGraph
