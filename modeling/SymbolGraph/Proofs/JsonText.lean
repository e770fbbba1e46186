import Mathlib.Data.List.TakeWhile
import SymbolGraph.Json.Reader
import SymbolGraph.Json.Writer
import SymbolGraph.Proofs.Spans

/-!
# Reading what was written

A value whose texts are complete and whose numbers are integers is read back from its text. The text is first
shown to be scanned to the tokens of the value, in front of any rest that does not go on with a number, and the
tokens then to lead the machine from where a value may begin to where the value is put.
-/
namespace SymbolGraph
open Text

/-! ## Texts -/

namespace JsonValue
open JsonToken

/-- A character is written as a backslash and a letter, as a unit of four hexadecimal digits or as it is. -/
theorem escapeChar_cases (c : Char) :
    (∃ e, escapeChar c = ['\\', e] ∧ shortEscape? e = some c.toNat ∧ e ≠ 'u') ∨
      (c.toNat < 32 ∧
        escapeChar c = ['\\', 'u', '0', '0', hexChar (c.toNat / 16), hexChar (c.toNat % 16)]) ∨
      (escapeChar c = [c] ∧ c ≠ '"' ∧ c ≠ '\\' ∧ ¬c.toNat < 32) := by
  unfold escapeChar
  split
  · next h =>
    subst h
    exact .inl ⟨'"', rfl, rfl, by decide⟩
  split
  · next h =>
    subst h
    exact .inl ⟨'\\', rfl, rfl, by decide⟩
  iterate 5
    split
    · next h => exact .inl ⟨_, rfl, by rw [h]; rfl, by decide⟩
  split
  · next h => exact .inr (.inl ⟨h, rfl⟩)
  · next hquote hslash _ _ _ _ _ h => exact .inr (.inr ⟨rfl, hquote, hslash, h⟩)

end JsonValue

namespace JsonToken
open JsonValue

theorem hexUnit?_hexChar : ∀ n < 32, hexUnit? '0' '0' (hexChar (n / 16)) (hexChar (n % 16)) = some n := by
  decide

theorem units?_short {e : Char} {n : Nat} (he : shortEscape? e = some n) (hu : e ≠ 'u') (rest : List Char) :
    units? ('\\' :: e :: rest) = (units? rest).map (consUnit n) := by
  rw [units?]
  · rw [he]
    cases units? rest <;> rfl
  · intro a b c d rest' h
    simp_all

theorem units?_cons {c : Char} (hquote : c ≠ '"') (hslash : c ≠ '\\') (hcontrol : ¬c.toNat < 32)
    (rest : List Char) : units? (c :: rest) = (units? rest).map (consUnit c.toNat) := by
  rw [units?, if_neg hcontrol]
  all_goals simp_all

theorem units?_escapeChar (c : Char) (rest : List Char) :
    units? (escapeChar c ++ rest) = (units? rest).map (consUnit c.toNat) := by
  obtain ⟨e, heq, he, hu⟩ | ⟨hcontrol, heq⟩ | ⟨heq, hquote, hslash, hcontrol⟩ := escapeChar_cases c
  · rw [heq]
    exact units?_short he hu rest
  · rw [heq]
    simp only [List.cons_append, List.nil_append]
    rw [units?, hexUnit?_hexChar c.toNat hcontrol]
    cases units? rest <;> rfl
  · rw [heq]
    exact units?_cons hquote hslash hcontrol rest

theorem units?_escaped (cs rest : List Char) :
    units? (cs.flatMap escapeChar ++ '"' :: rest) = some (cs.map Char.toNat, rest) := by
  induction cs with
  | nil => simp [units?]
  | cons c cs ih =>
    rw [List.flatMap_cons, List.append_assoc, units?_escapeChar, ih]
    rfl

/-- A character is no half of a surrogate pair. -/
theorem not_surrogate (c : Char) : isHighSurrogate c.toNat = false ∧ isLowSurrogate c.toNat = false := by
  have hvalid : c.toNat < 0xD800 ∨ 0xDFFF < c.toNat ∧ c.toNat < 0x110000 := c.valid
  simp only [isHighSurrogate, isLowSurrogate, Bool.and_eq_false_iff, decide_eq_false_iff_not]
  omega

theorem ofUnits?_map_toNat (cs : List Char) : ofUnits? (cs.map Char.toNat) = some cs := by
  induction cs with
  | nil => rfl
  | cons c cs ih =>
    obtain ⟨hhigh, hlow⟩ := not_surrogate c
    cases cs with
    | nil => simp [ofUnits?, hhigh, hlow]
    | cons d ds =>
      rw [List.map_cons] at ih
      simp [ofUnits?, hhigh, hlow, ih]

/-! ## Integers -/

theorem whole?_digits (n : Nat) : whole? (Decimal.digits n) = some (Decimal.digits n, []) := by
  by_cases hn : n = 0
  · subst hn
    rw [Decimal.digits]
    rfl
  · have hall : ∀ c ∈ Decimal.digits n, Decimal.isDigit c = true := fun c => Decimal.isDigit_of_mem_digits
    have htake := List.takeWhile_eq_self_iff.2 hall
    have hdrop := List.dropWhile_eq_nil_iff.2 hall
    obtain ⟨d, ds, hds⟩ := List.exists_cons_of_ne_nil (Decimal.digits_ne_nil n)
    have hd : d ≠ '0' := fun h => hn (Decimal.eq_zero_of_head?_digits (by simp [hds, h]))
    rw [hds] at htake hdrop
    rw [hds, whole?]
    · simp [digits?, htake, hdrop]
    · simpa using hd

theorem magnitude?_digits (negative : Bool) (n : Nat) :
    magnitude? negative (Decimal.digits n) = some ⟨negative, Decimal.digits n, [], none⟩ := by
  simp [magnitude?, whole?_digits, fraction?]

theorem numberText_cases (i : Int) :
    i < 0 ∧ numberText (.ofInt i) = '-' :: Decimal.digits i.natAbs ∨
      ¬i < 0 ∧ numberText (.ofInt i) = Decimal.digits i.natAbs := by
  by_cases hi : i < 0
  · exact .inl ⟨hi, by simp [numberText, JsonNumber.ofInt, hi]⟩
  · exact .inr ⟨hi, by simp [numberText, JsonNumber.ofInt, hi]⟩

theorem number?_numberText (i : Int) : number? (numberText (.ofInt i)) = some (.ofInt i) := by
  obtain ⟨hi, htext⟩ | ⟨hi, htext⟩ := numberText_cases i
  · rw [htext, number?, magnitude?_digits]
    simp [JsonNumber.ofInt, hi]
  · obtain ⟨d, ds, hds⟩ := List.exists_cons_of_ne_nil (Decimal.digits_ne_nil i.natAbs)
    have hdigit : Decimal.isDigit d = true := Decimal.isDigit_of_mem_digits (n := i.natAbs) (by simp [hds])
    have hd : d ≠ '-' := fun h => absurd (h ▸ hdigit) (by decide)
    rw [htext, hds, number?, ← hds, magnitude?_digits]
    · simp [JsonNumber.ofInt, hi]
    · simpa using hd

theorem numberText_ne_nil (i : Int) : numberText (.ofInt i) ≠ [] := by
  obtain ⟨-, htext⟩ | ⟨-, htext⟩ := numberText_cases i
  · simp [htext]
  · simpa [htext] using Decimal.digits_ne_nil i.natAbs

theorem isNumberChar_of_mem_numberText {i : Int} {c : Char} (h : c ∈ numberText (.ofInt i)) :
    isNumberChar c = true := by
  have hc : c = '-' ∨ c ∈ Decimal.digits i.natAbs := by
    obtain ⟨-, htext⟩ | ⟨-, htext⟩ := numberText_cases i
    · simpa [htext] using h
    · exact .inr (htext ▸ h)
  rcases hc with rfl | hc
  · decide
  · simp [isNumberChar, Decimal.isDigit_of_mem_digits hc]

/-! ## Scanning -/

/-- The text does not go on with a number. -/
def Stops (rest : List Char) : Prop := ∀ c ∈ rest.head?, isNumberChar c = false

theorem stops_cons {c : Char} (h : isNumberChar c = false) (rest : List Char) : Stops (c :: rest) := by
  simpa [Stops] using h

/-- The text is scanned to the tokens in front of every rest that does not go on with a number. -/
def Scans (cs : List Char) (ts : List JsonToken) : Prop :=
  ∀ rest, Stops rest → scan? (cs ++ rest) = (scan? rest).map (ts ++ ·)

theorem scan?_of_next? {c : Char} {cs rest : List Char} {t : JsonToken} (hc : isSpace c = false)
    (h : next? (c :: cs) = some (t, rest)) : scan? (c :: cs) = (scan? rest).map (t :: ·) := by
  rw [scan?, if_neg (by simp [hc])]
  split
  · next p hp =>
    obtain rfl := Option.some.inj (h.symm.trans hp)
    rfl
  · next hnone => simp [h] at hnone

namespace Scans
variable {cs cs' : List Char} {ts ts' : List JsonToken}

theorem nil : Scans [] [] := by
  intro rest _
  simp

theorem token {c : Char} {t : JsonToken} (hc : isSpace c = false)
    (h : ∀ rest, Stops rest → next? (c :: (cs ++ rest)) = some (t, rest)) : Scans (c :: cs) [t] := by
  intro rest hrest
  exact scan?_of_next? hc (h rest hrest)

theorem append (h : Scans cs ts) (h' : Scans cs' ts') (hstops : ∀ rest, Stops rest → Stops (cs' ++ rest)) :
    Scans (cs ++ cs') (ts ++ ts') := by
  intro rest hrest
  rw [List.append_assoc, h _ (hstops rest hrest), h' rest hrest, Option.map_map]
  simp [Function.comp_def]

/-- A sign that is a token of its own may stand anywhere. -/
theorem cons {c : Char} {t : JsonToken} (hc : isSpace c = false) (h : ∀ rest, next? (c :: rest) = some (t, rest))
    (hcs : Scans cs ts) : Scans (c :: cs) (t :: ts) := by
  intro rest hrest
  rw [List.cons_append, scan?_of_next? hc (h _), hcs rest hrest, Option.map_map]
  rfl

end Scans

theorem scans_quote (s : String) : Scans (quote s) [.string (some s)] := by
  rw [quote, List.cons_append]
  refine .token (by decide) fun rest _ => ?_
  rw [List.append_assoc, List.singleton_append, next?, units?_escaped]
  simp [ofUnits?_map_toNat]

theorem next?_number {c : Char} (hc : isNumberChar c = true) (cs : List Char) :
    next? (c :: cs) = (number? ((c :: cs).takeWhile isNumberChar)).map fun n =>
      (number n, (c :: cs).dropWhile isNumberChar) := by
  rw [next?.eq_def]
  split
  iterate 10 next h => exact absurd ((List.cons.inj h).1 ▸ hc) (by decide)
  · rfl

theorem scans_number (i : Int) : Scans (numberText (.ofInt i)) [.number (.ofInt i)] := by
  have hall : ∀ c ∈ numberText (.ofInt i), isNumberChar c = true := fun c => isNumberChar_of_mem_numberText
  have hnumber := number?_numberText i
  obtain ⟨c, cs, hcs⟩ := List.exists_cons_of_ne_nil (numberText_ne_nil i)
  rw [hcs] at hall hnumber ⊢
  have hc : isNumberChar c = true := hall c (by simp)
  refine .token ?space fun rest hrest => ?next
  case space =>
    simp only [isSpace, Bool.or_eq_false_iff, beq_eq_false_iff_ne]
    refine ⟨⟨⟨?_, ?_⟩, ?_⟩, ?_⟩
    all_goals
      rintro rfl
      exact absurd hc (by decide)
  case next =>
    have hspan : IsSpan isNumberChar (c :: cs) rest := by
      refine ⟨hall, ?_⟩
      cases rest with
      | nil => rfl
      | cons d rest => exact hrest d rfl
    rw [next?_number hc, ← List.cons_append, hspan.takeWhile_eq, hspan.dropWhile_eq, hnumber]
    rfl

end JsonToken

/-! ## Tokens of values -/

namespace JsonValue
open JsonToken

/-- The parts of a list one behind the other, with `mark` between them. -/
def separated {α β : Type} (mark : β) (f : α → List β) : List α → List β
  | [] => []
  | [a] => f a
  | a :: rest => f a ++ mark :: separated mark f rest

/-- The rules for the empty list, for one part and for a further one fix all parts. -/
theorem eq_separated {α β : Type} {mark : β} {f : α → List β} {g : List α → List β} (hnil : g [] = [])
    (hone : ∀ a, g [a] = f a) (hmore : ∀ a b rest, g (a :: b :: rest) = f a ++ mark :: g (b :: rest))
    (items : List α) : g items = separated mark f items := by
  induction items with
  | nil => exact hnil
  | cons a rest ih =>
    cases rest with
    | nil => exact hone a
    | cons b rest =>
      rw [hmore, ih]
      rfl

theorem separated_eq_cons {α β : Type} {f : α → List β} {a : α} {b : β} {bs : List β} (mark : β)
    (h : f a = b :: bs) (rest : List α) : ∃ bs', separated mark f (a :: rest) = b :: bs' := by
  cases rest with
  | nil => exact ⟨bs, h⟩
  | cons c rest => exact ⟨bs ++ mark :: separated mark f (c :: rest), by simp [separated, h]⟩

mutual

def tokens : JsonValue → List JsonToken
  | null => [.null]
  | bool b => [.bool b]
  | number n => [.number n]
  | string s => [.string s]
  | array items => .openArray :: itemTokens items ++ [.closeArray]
  | object fields => .openObject :: fieldTokens fields ++ [.closeObject]

def itemTokens : List JsonValue → List JsonToken
  | [] => []
  | [v] => tokens v
  | v :: rest => tokens v ++ .comma :: itemTokens rest

def fieldTokens : List (Option String × JsonValue) → List JsonToken
  | [] => []
  | [(key, v)] => .string key :: .colon :: tokens v
  | (key, v) :: rest => .string key :: .colon :: tokens v ++ .comma :: fieldTokens rest

end

def memberChars (f : Option String × JsonValue) : List Char := quote (f.1.getD "") ++ ':' :: chars f.2

def memberTokens (f : Option String × JsonValue) : List JsonToken := .string f.1 :: .colon :: tokens f.2

theorem itemChars_eq (items : List JsonValue) : itemChars items = separated ',' chars items :=
  eq_separated rfl (fun _ => rfl) (fun _ _ _ => rfl) items

theorem fieldChars_eq (fields : List (Option String × JsonValue)) :
    fieldChars fields = separated ',' memberChars fields :=
  eq_separated rfl (fun _ => rfl) (fun f g rest => by simp [fieldChars]) fields

theorem itemTokens_eq (items : List JsonValue) : itemTokens items = separated .comma tokens items :=
  eq_separated rfl (fun _ => rfl) (fun _ _ _ => rfl) items

theorem fieldTokens_eq (fields : List (Option String × JsonValue)) :
    fieldTokens fields = separated .comma memberTokens fields :=
  eq_separated rfl (fun _ => rfl) (fun _ _ _ => rfl) fields

/-- Parts that are scanned one by one are scanned with commas between them. -/
theorem scans_separated {α : Type} {f : α → List Char} {g : α → List JsonToken} {items : List α}
    (h : ∀ a ∈ items, Scans (f a) (g a)) : Scans (separated ',' f items) (separated .comma g items) := by
  induction items with
  | nil => exact .nil
  | cons a rest ih =>
    cases rest with
    | nil => exact h a (by simp)
    | cons b rest =>
      have htail : Scans (',' :: separated ',' f (b :: rest)) (.comma :: separated .comma g (b :: rest)) :=
        .cons (by decide) (fun _ => rfl) (ih fun c hc => h c (by simp [hc]))
      exact (h a (by simp)).append htail fun rest' _ => stops_cons (by decide) _

theorem scans_member {key : String} {v : JsonValue} (h : Scans v.chars v.tokens) :
    Scans (memberChars (some key, v)) (memberTokens (some key, v)) := by
  have htail : Scans (':' :: v.chars) (.colon :: v.tokens) := .cons (by decide) (fun _ => rfl) h
  exact (scans_quote key).append htail fun rest _ => stops_cons (by decide) _

theorem scans_array {items : List JsonValue} (h : ∀ v ∈ items, Scans v.chars v.tokens) :
    Scans (array items).chars (array items).tokens := by
  have hend : Scans [']'] [.closeArray] := .cons (by decide) (fun _ => rfl) .nil
  have hitems := (scans_separated h).append hend fun rest _ => stops_cons (by decide) rest
  rw [← itemChars_eq, ← itemTokens_eq] at hitems
  exact .cons (by decide) (fun _ => rfl) hitems

theorem scans_object {fields : List (String × JsonValue)} (h : ∀ f ∈ fields, Scans f.2.chars f.2.tokens) :
    Scans (ofFields fields).chars (ofFields fields).tokens := by
  have hend : Scans ['}'] [.closeObject] := .cons (by decide) (fun _ => rfl) .nil
  have hmembers : ∀ f ∈ fields.map fun f => (some f.1, f.2), Scans (memberChars f) (memberTokens f) := by
    intro f hf
    obtain ⟨g, hg, rfl⟩ := List.mem_map.1 hf
    exact scans_member (h g hg)
  have hfields := (scans_separated hmembers).append hend fun rest _ => stops_cons (by decide) rest
  rw [← fieldChars_eq, ← fieldTokens_eq] at hfields
  exact .cons (by decide) (fun _ => rfl) hfields

/-! ## From tokens to the value -/

/-- The tokens bring a machine that waits for a value to where the value is put. -/
def Puts (v : JsonValue) : Prop := ∀ s, v.tokens.foldlM JsonState.step ⟨s, .value⟩ = JsonState.put v s

/-- Elements that are gathered one by one are gathered with commas between them, up to the closing token. -/
theorem foldlM_separated {α : Type} (g : α → List JsonToken) (frame : List α → JsonFrame) (phase : JsonPhase)
    (closing : JsonToken) (whole : List α → JsonValue)
    (hcomma : ∀ acc s, JsonState.step ⟨frame acc :: s, .commaOrEnd⟩ .comma = some ⟨frame acc :: s, phase⟩)
    (hclose : ∀ acc s, JsonState.step ⟨frame acc :: s, .commaOrEnd⟩ closing = JsonState.put (whole acc.reverse) s)
    {a : α} {rest : List α} (h : ∀ b ∈ a :: rest, ∀ acc s, (g b).foldlM JsonState.step ⟨frame acc :: s, phase⟩ =
      some ⟨frame (b :: acc) :: s, .commaOrEnd⟩) (acc : List α) (s : List JsonFrame) :
    (separated .comma g (a :: rest) ++ [closing]).foldlM JsonState.step ⟨frame acc :: s, phase⟩ =
      JsonState.put (whole (acc.reverse ++ a :: rest)) s := by
  induction rest generalizing a acc with
  | nil =>
    rw [separated, List.foldlM_append, h a (by simp)]
    simp [hclose]
  | cons b rest ih =>
    have hrest := ih (a := b) (fun c hc => h c (by simp [hc])) (a :: acc)
    rw [separated, List.append_assoc, List.foldlM_append, h a (by simp)]
    · simpa [hcomma] using hrest
    · simp

theorem puts_token {v : JsonValue} {t : JsonToken} (hv : v.tokens = [t])
    (h : ∀ s, JsonState.beginValue s t = JsonState.put v s) : Puts v := by
  intro s
  rw [hv, List.foldlM_cons, JsonState.step, h]
  simp

theorem exists_tokens_eq_cons (v : JsonValue) : ∃ t ts, v.tokens = t :: ts ∧ t ≠ .closeArray := by
  cases v <;> simp [tokens]

theorem puts_array {items : List JsonValue} (h : ∀ v ∈ items, Puts v) : Puts (array items) := by
  intro s
  have hopen : JsonState.step ⟨s, .value⟩ .openArray = some ⟨.array [] :: s, .itemOrEnd⟩ := rfl
  rw [tokens, itemTokens_eq, List.cons_append, List.foldlM_cons, hopen, Option.bind_eq_bind, Option.bind_some]
  cases items with
  | nil => simp [separated, JsonState.step, JsonState.close]
  | cons v rest =>
    have hitems := foldlM_separated tokens .array .value .closeArray .array
      (fun _ _ => rfl) (fun _ _ => rfl) (fun w hw acc s => h w hw (.array acc :: s)) [] s
    -- the first item may begin where the array might also have ended
    obtain ⟨t, ts, hv, ht⟩ := exists_tokens_eq_cons v
    obtain ⟨us, hus⟩ := separated_eq_cons .comma hv rest
    have hfirst : JsonState.step ⟨.array [] :: s, .itemOrEnd⟩ t = JsonState.step ⟨.array [] :: s, .value⟩ t := by
      simp [JsonState.step, ht]
    rw [hus, List.cons_append, List.foldlM_cons] at hitems
    rw [hus, List.cons_append, List.foldlM_cons, hfirst]
    exact hitems

theorem foldlM_memberTokens {f : Option String × JsonValue} (h : Puts f.2)
    (acc : List (Option String × JsonValue)) (s : List JsonFrame) :
    (memberTokens f).foldlM JsonState.step ⟨.object acc :: s, .key⟩ = some ⟨.object (f :: acc) :: s, .commaOrEnd⟩ :=
  h (.member acc f.1 :: s)

theorem puts_object {fields : List (Option String × JsonValue)} (h : ∀ f ∈ fields, Puts f.2) :
    Puts (object fields) := by
  intro s
  have hopen : JsonState.step ⟨s, .value⟩ .openObject = some ⟨.object [] :: s, .keyOrEnd⟩ := rfl
  rw [tokens, fieldTokens_eq, List.cons_append, List.foldlM_cons, hopen, Option.bind_eq_bind, Option.bind_some]
  cases fields with
  | nil => simp [separated, JsonState.step, JsonState.close]
  | cons f rest =>
    have hfields := foldlM_separated memberTokens .object .key .closeObject .object
      (fun _ _ => rfl) (fun _ _ => rfl)
      (fun g hg => foldlM_memberTokens (h g hg)) [] s
    obtain ⟨us, hus⟩ := separated_eq_cons (f := memberTokens) .comma rfl rest
    rw [hus, List.cons_append, List.foldlM_cons] at hfields
    rw [hus, List.cons_append, List.foldlM_cons]
    exact hfields

/-- Texts are complete and numbers are integers. -/
inductive IsPlain : JsonValue → Prop where
  | null : IsPlain null
  | bool (b : Bool) : IsPlain (bool b)
  | number (i : Int) : IsPlain (number (.ofInt i))
  | string (s : String) : IsPlain (ofString s)
  | array {items : List JsonValue} (h : ∀ v ∈ items, IsPlain v) : IsPlain (array items)
  | object {fields : List (String × JsonValue)} (h : ∀ f ∈ fields, IsPlain f.2) : IsPlain (ofFields fields)

theorem IsPlain.scans {v : JsonValue} (h : v.IsPlain) : Scans v.chars v.tokens := by
  induction h with
  | null => exact .token (by decide) fun _ _ => rfl
  | bool b => cases b <;> exact .token (by decide) fun _ _ => rfl
  | number i => exact scans_number i
  | string s => exact scans_quote s
  | array _ ih => exact scans_array ih
  | object _ ih => exact scans_object ih

theorem IsPlain.puts {v : JsonValue} (h : v.IsPlain) : Puts v := by
  induction h with
  | null => exact puts_token rfl fun _ => rfl
  | bool b => exact puts_token rfl fun _ => rfl
  | number i => exact puts_token rfl fun _ => rfl
  | string s => exact puts_token rfl fun _ => rfl
  | array _ ih => exact puts_array ih
  | object _ ih =>
    refine puts_object fun f hf => ?_
    obtain ⟨g, hg, rfl⟩ := List.mem_map.1 hf
    exact ih g hg

/-- A plain value is read back from its text. -/
theorem IsPlain.ofText?_text {v : JsonValue} (h : v.IsPlain) : ofText? v.text = some v := by
  have hscan := h.scans [] (by simp [Stops])
  rw [List.append_nil, scan?, Option.map_some, List.append_nil] at hscan
  rw [ofText?, text, String.toList_ofList, hscan, Option.bind_some, JsonState.start, h.puts]
  rfl

end JsonValue
end SymbolGraph
