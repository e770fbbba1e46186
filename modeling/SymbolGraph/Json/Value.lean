import SymbolGraph.Text.Decimal

/-! # JSON values as they were written, and records among them -/
namespace SymbolGraph
open Text

/-! ## Whole numbers in double precision -/

namespace DoublePrecision

/-- The nearest number that is a power of two times one of at most 53 binary digits. A half goes to the even
neighbour. -/
def nearest (n : Nat) : Nat :=
  let unit := Nat.pow 2 (n.log2 + 1 - 53)
  let below := n / unit
  let twice := 2 * (n % unit)
  if twice < unit ∨ twice = unit ∧ below % 2 = 0 then below * unit else (below + 1) * unit

/-- Numbers from here on round to no finite one. -/
def limit : Nat := Nat.pow 2 1024 - Nat.pow 2 970

def maxTenPower : Nat := 308

/-- A product is finite if that of its rounded factors is below the limit. -/
def isFiniteProduct (m n : Nat) : Bool := nearest m * nearest n < limit

end DoublePrecision

/-! ## Numbers -/

/-- A number as written: sign, digits, digits behind the point, and sign and digits of the exponent. -/
structure JsonNumber where
  negative : Bool
  whole : List Char
  fraction : List Char := []
  exponent : Option (Bool × List Char) := none
  deriving DecidableEq, Repr

namespace JsonNumber

def ofInt (n : Int) : JsonNumber := ⟨decide (n < 0), Decimal.digits n.natAbs, [], none⟩

/-- The value of a number written without point and exponent; a negative zero is no integer. -/
def toInt? (n : JsonNumber) : Option Int :=
  match n.fraction, n.exponent, n.negative with
  | [], none, false => some (Decimal.value n.whole)
  | [], none, true => if Decimal.value n.whole = 0 then none else some (-(Decimal.value n.whole : Int))
  | _, _, _ => none

def exponentValue (n : JsonNumber) : Int :=
  match n.exponent with
  | none => 0
  | some (false, ds) => (Decimal.value ds : Int)
  | some (true, ds) => -(Decimal.value ds : Int)

/-- Appends digits to a number while it stays below `2 ^ 64`, and returns those that are left. -/
def absorb (m : Nat) : List Char → Nat × List Char
  | [] => (m, [])
  | d :: ds =>
    if 10 * m + Decimal.digitValue d < Nat.pow 2 64 then absorb (10 * m + Decimal.digitValue d) ds
    else (m, d :: ds)

/-- The magnitude as a significand of 64 bits and a power of ten. Digits before the point that do not fit only
count, those behind it are dropped. -/
def scientific (n : JsonNumber) : Nat × Int :=
  let w := absorb 0 n.whole
  let f := absorb w.1 n.fraction
  (f.1, n.exponentValue + w.2.length + f.2.length - n.fraction.length)

/-- The significand times the power of ten is finite in double precision. -/
def isFinite (n : JsonNumber) : Bool :=
  let (m, k) := n.scientific
  if m = 0 ∨ k < 0 then true
  else if k > DoublePrecision.maxTenPower then false
  else DoublePrecision.isFiniteProduct m (Nat.pow 10 k.toNat)

end JsonNumber

/-! ## Values -/

/-- Fields keep their order and may repeat. A text is missing if it has half of a surrogate pair. -/
inductive JsonValue where
  | null
  | bool (b : Bool)
  | number (n : JsonNumber)
  | string (s : Option String)
  | array (items : List JsonValue)
  | object (fields : List (Option String × JsonValue))
  deriving Repr

namespace JsonValue

/-- Texts are complete, numbers finite, and arrays and objects nested no deeper than `depth`. -/
def isStorable : Nat → JsonValue → Bool
  | _, null | _, bool _ => true
  | _, number n => n.isFinite
  | _, string s => s.isSome
  | 0, array _ | 0, object _ => false
  | depth + 1, array items => items.all (isStorable depth)
  | depth + 1, object fields => fields.all fun f => f.1.isSome && isStorable depth f.2

def string? : JsonValue → Option String
  | string s => s
  | _ => none

def bool? : JsonValue → Option Bool
  | bool b => some b
  | _ => none

def int64? : JsonValue → Option Int64
  | number n =>
    n.toInt?.bind fun i =>
      if Int64.minValue.toInt ≤ i ∧ i ≤ Int64.maxValue.toInt then some (Int64.ofInt i) else none
  | _ => none

def list? {α : Type} (f : JsonValue → Option α) : JsonValue → Option (List α)
  | array items => items.mapM f
  | _ => none

/-- The single field of an object. -/
def variant? : JsonValue → Option (String × JsonValue)
  | object [(some name, v)] => some (name, v)
  | _ => none

def ofInt64 (n : Int64) : JsonValue := number (.ofInt n.toInt)

def ofString (s : String) : JsonValue := string (some s)

def ofOption {α : Type} (f : α → JsonValue) : Option α → JsonValue
  | some a => f a
  | none => null

def ofList {α : Type} (f : α → JsonValue) (xs : List α) : JsonValue := array (xs.map f)

def ofFields (fields : List (String × JsonValue)) : JsonValue :=
  object (fields.map fun f => (some f.1, f.2))

/-! ## Records with named fields -/

def occurrences (name : String) (fields : List (Option String × JsonValue)) : Nat :=
  fields.countP fun f => f.1 == some name

def field? (name : String) (fields : List (Option String × JsonValue)) : Option JsonValue :=
  (fields.find? fun f => f.1 == some name).map Prod.snd

/-- Every key is a text, and none of the named ones occurs twice. -/
def keysFit (names : List String) (fields : List (Option String × JsonValue)) : Bool :=
  fields.all (·.1.isSome) && names.all fun name => occurrences name fields ≤ 1

/-- The values of the named fields: of an object, in which other keys are ignored, or of an array in their
order that has at least `least` items. -/
def record? (names : List String) (least : Nat) : JsonValue → Option (List (Option JsonValue))
  | object fields => if keysFit names fields then some (names.map (field? · fields)) else none
  | array items =>
    if least ≤ items.length ∧ items.length ≤ names.length then
      some (items.map some ++ List.replicate (names.length - items.length) none)
    else none
  | _ => none

variable {α : Type} (f : JsonValue → Option α)

def required? (v : Option JsonValue) : Option α := v.bind f

/-- A field that may be missing or null. -/
def optional? : Option JsonValue → Option (Option α)
  | none | some null => some none
  | some v => (f v).map some

/-- A field that may be missing, but not null. -/
def defaulted? (fallback : α) : Option JsonValue → Option α
  | none => some fallback
  | some v => f v

end JsonValue
end SymbolGraph
