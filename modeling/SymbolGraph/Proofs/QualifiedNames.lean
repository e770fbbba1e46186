import SymbolGraph.Proofs.Spans
import SymbolGraph.QualifiedName

/-!
# Reading qualified names back

A name behind capitalised segments and dots is cut there again: off comes one segment after the other, and
the name is left, since it has no segment of its own. Every text that is cut is of this form.
-/
namespace SymbolGraph.QualifiedName
open Text

/-- Identifier characters, the first of them a capital. -/
def IsSegment (ident upper : Char → Bool) (cs : List Char) : Prop :=
  cs.head?.any upper = true ∧ cs.all ident = true

instance (ident upper : Char → Bool) (cs : List Char) : Decidable (IsSegment ident upper cs) :=
  inferInstanceAs (Decidable (_ ∧ _))

variable {ident upper : Char → Bool} {segment rest : List Char}

theorem segment?_append (hdot : ident '.' = false) (hs : IsSegment ident upper segment) (hr : rest ≠ []) :
    segment? ident upper (segment ++ '.' :: rest) = some (segment, rest) := by
  obtain ⟨c, rest, rfl⟩ := List.exists_cons_of_ne_nil hr
  have hspan : IsSpan ident segment ('.' :: c :: rest) := ⟨List.all_eq_true.1 hs.2, hdot⟩
  simp only [segment?, hspan.takeWhile_eq, hspan.dropWhile_eq, hs.1, if_true]

theorem splitWith_of_segment?_some {cs : List Char} {p : List Char × List Char}
    (h : segment? ident upper cs = some p) :
    splitWith ident upper cs = (p.1 :: (splitWith ident upper p.2).1, (splitWith ident upper p.2).2) := by
  rw [splitWith]
  split
  · rename_i p' hp
    obtain rfl : p' = p := Option.some.inj (hp.symm.trans h)
    rfl
  · rename_i hnone
    exact absurd (hnone.symm.trans h) (by simp)

theorem splitWith_of_segment?_none {cs : List Char} (h : segment? ident upper cs = none) :
    splitWith ident upper cs = ([], cs) := by
  rw [splitWith]
  split
  · rename_i p hp
    exact absurd (hp.symm.trans h) (by simp)
  · rfl

theorem splitWith_append (hdot : ident '.' = false) (hs : IsSegment ident upper segment) (hr : rest ≠ []) :
    splitWith ident upper (segment ++ '.' :: rest) =
      (segment :: (splitWith ident upper rest).1, (splitWith ident upper rest).2) :=
  splitWith_of_segment?_some (segment?_append hdot hs hr)

/-- All segments come off, and splitting goes on behind the last dot. -/
theorem splitWith_intercalate (hdot : ident '.' = false) {segments : List (List Char)} (hne : segments ≠ [])
    (hs : ∀ segment ∈ segments, IsSegment ident upper segment) (hr : rest ≠ []) :
    splitWith ident upper (['.'].intercalate segments ++ '.' :: rest) =
      (segments ++ (splitWith ident upper rest).1, (splitWith ident upper rest).2) := by
  induction segments with
  | nil => exact absurd rfl hne
  | cons segment segments ih =>
    have hfirst := hs segment (by simp)
    by_cases hlast : segments = []
    · subst hlast
      rw [List.intercalate_singleton, splitWith_append hdot hfirst hr]
      rfl
    · have htext : ['.'].intercalate (segment :: segments) ++ '.' :: rest =
          segment ++ '.' :: (['.'].intercalate segments ++ '.' :: rest) := by
        simp [List.intercalate_cons_of_ne_nil hlast]
      rw [htext, splitWith_append hdot hfirst (by simp), ih hlast fun s hmem => hs s (by simp [hmem])]
      rfl

theorem splitWith_of_no_segment {cs : List Char} (h : (splitWith ident upper cs).1 = []) :
    (splitWith ident upper cs).2 = cs := by
  rw [splitWith] at h ⊢
  split at h
  · cases h
  · rfl

theorem qualifier?_eq_none_iff {q : QualifiedName} : q.qualifier? = none ↔ q.segments = [] := by
  unfold qualifier?
  split <;> simp_all

theorem qualifier?_of_ne_nil {q : QualifiedName} (h : q.segments ≠ []) :
    q.qualifier? = some (".".intercalate q.segments) := by
  unfold qualifier?
  split
  · contradiction
  · rfl

theorem name_ofTextWith {s : String} (h : (ofTextWith ident upper s).qualifier? = none) :
    (ofTextWith ident upper s).name = s := by
  have hnil : (ofTextWith ident upper s).segments = [] := qualifier?_eq_none_iff.1 h
  have hrest := splitWith_of_no_segment (List.map_eq_nil_iff.1 hnil)
  simp only [ofTextWith, hrest, String.ofList_toList]

theorem name_of_qualifier?_none {s : String} (h : (ofText s).qualifier? = none) : (ofText s).name = s :=
  name_ofTextWith h

/-- Segments joined by dots, a dot and an unqualified name are read as they were put together. -/
theorem ofTextWith_intercalate (hdot : ident '.' = false) {segments : List String} (hne : segments ≠ [])
    (hs : ∀ segment ∈ segments, IsSegment ident upper segment.toList) {n : String} (hn : n ≠ "")
    (hplain : (ofTextWith ident upper n).qualifier? = none) :
    ofTextWith ident upper (".".intercalate segments ++ "." ++ n) = ⟨segments, n⟩ := by
  have hname : (splitWith ident upper n.toList).1 = [] :=
    List.map_eq_nil_iff.1 (qualifier?_eq_none_iff.1 hplain)
  have htext : (".".intercalate segments ++ "." ++ n).toList =
      ['.'].intercalate (segments.map String.toList) ++ '.' :: n.toList := by
    simp
  have hs' : ∀ cs ∈ segments.map String.toList, IsSegment ident upper cs := by simpa using hs
  have hrest : n.toList ≠ [] := by simpa using hn
  have hsplit := splitWith_intercalate hdot (by simpa using hne) hs' hrest
  rw [hname, List.append_nil, splitWith_of_no_segment hname, ← htext] at hsplit
  simp only [ofTextWith, hsplit, List.map_map, Function.comp_def, String.ofList_toList, List.map_id']

/-- Capitalised segments joined by dots, as the name of a module is. -/
def IsModuleName (s : String) : Prop :=
  ∃ segments : List String, segments ≠ [] ∧
    (∀ segment ∈ segments, IsSegment Identifier.isIdentifierChar Uppercase.isUppercase segment.toList) ∧
    s = ".".intercalate segments

theorem ofText_qualified {q n : String} (hq : IsModuleName q) (hne : n ≠ "")
    (hplain : (ofText n).qualifier? = none) :
    (ofText (q ++ "." ++ n)).qualifier? = some q ∧ (ofText (q ++ "." ++ n)).name = n := by
  obtain ⟨segments, hsegments, hs, rfl⟩ := hq
  have hof : ofText (".".intercalate segments ++ "." ++ n) = ⟨segments, n⟩ :=
    ofTextWith_intercalate (by decide) hsegments hs hne hplain
  rw [hof]
  exact ⟨qualifier?_of_ne_nil hsegments, rfl⟩

/-! ## The grammar -/

theorem segment?_eq_some {cs : List Char} (h : segment? ident upper cs = some (segment, rest)) :
    IsSegment ident upper segment ∧ rest ≠ [] ∧ cs = segment ++ '.' :: rest := by
  unfold segment? at h
  split at h
  · rename_i c tail hdrop
    split at h
    · rename_i hupper
      obtain ⟨rfl, rfl⟩ := Prod.mk.inj (Option.some.inj h)
      refine ⟨⟨hupper, List.all_takeWhile⟩, by simp, ?_⟩
      rw [← hdrop, List.takeWhile_append_dropWhile]
    · cases h
  · cases h

/-- What comes off a text are segments, what is left has none, and joined they are the text. -/
structure IsSplit (ident upper : Char → Bool) (cs : List Char) (p : List (List Char) × List Char) : Prop where
  segments : ∀ segment ∈ p.1, IsSegment ident upper segment
  plain : (splitWith ident upper p.2).1 = []
  joined : p.1 ≠ [] → p.2 ≠ [] ∧ cs = ['.'].intercalate p.1 ++ '.' :: p.2

theorem isSplit_splitWith (cs : List Char) : IsSplit ident upper cs (splitWith ident upper cs) := by
  fun_induction splitWith ident upper cs with
  | case1 cs p h ih =>
    obtain ⟨hsegment, hne, htext⟩ := segment?_eq_some h
    refine ⟨List.forall_mem_cons.2 ⟨hsegment, ih.segments⟩, ih.plain, fun _ => ?_⟩
    -- The last segment has no dot behind it but the one before the name.
    by_cases hlast : (splitWith ident upper p.2).1 = []
    · have hrest : (splitWith ident upper p.2).2 = p.2 := splitWith_of_no_segment hlast
      rw [hlast, hrest, List.intercalate_singleton]
      exact ⟨hne, htext⟩
    · obtain ⟨hrest, hjoined⟩ := ih.joined hlast
      refine ⟨hrest, ?_⟩
      rw [List.intercalate_cons_of_ne_nil hlast]
      calc cs = p.1 ++ '.' :: p.2 := htext
        _ = p.1 ++ '.' :: (['.'].intercalate (splitWith ident upper p.2).1 ++
              '.' :: (splitWith ident upper p.2).2) := by rw [← hjoined]
        _ = _ := by simp
  | case2 cs h => exact ⟨by simp, by rw [splitWith_of_segment?_none h], by simp⟩

def parts (q : QualifiedName) : Option String × String := (q.qualifier?, q.name)

theorem parts_ofTextWith_of_none {s : String} (h : (ofTextWith ident upper s).qualifier? = none) :
    (ofTextWith ident upper s).parts = (none, s) := by
  rw [parts, h, name_ofTextWith h]

theorem exists_segments {s q r : String} (h : (ofTextWith ident upper s).parts = (some q, r)) :
    ∃ segments : List String, segments ≠ [] ∧ (∀ segment ∈ segments, IsSegment ident upper segment.toList) ∧
      q = ".".intercalate segments ∧ r ≠ "" ∧ s = q ++ "." ++ r ∧ (ofTextWith ident upper r).parts = (none, r) := by
  obtain ⟨hq, rfl⟩ := Prod.mk.inj h
  have hne : (ofTextWith ident upper s).segments ≠ [] := fun hnil =>
    absurd (hq.symm.trans (qualifier?_eq_none_iff.2 hnil)) (by simp)
  obtain rfl := Option.some.inj (hq.symm.trans (qualifier?_of_ne_nil hne))
  have hsplit : IsSplit ident upper s.toList (splitWith ident upper s.toList) := isSplit_splitWith s.toList
  obtain ⟨hrest, htext⟩ := hsplit.joined fun hnil => hne (List.map_eq_nil_iff.2 hnil)
  refine ⟨_, hne, ?_, rfl, ?_, ?_, parts_ofTextWith_of_none (qualifier?_eq_none_iff.2 ?_)⟩
  · intro segment hmem
    obtain ⟨cs, hcs, rfl⟩ := List.mem_map.1 hmem
    rw [String.toList_ofList]
    exact hsplit.segments cs hcs
  · simpa [ofTextWith] using hrest
  · rw [← String.toList_inj, htext]
    simp [ofTextWith, Function.comp_def]
  · simp [ofTextWith, hsplit.plain]

/-- A text is split just as the grammar says: it is a qualifier, of one or more segments with dots between them, a dot
and a name that has no qualifier, and it has no qualifier if it is not of this form. -/
theorem parts_ofTextWith_iff (hdot : ident '.' = false) (s : String) :
    ((ofTextWith ident upper s).parts = (none, s) ∨ ∃ q r, (ofTextWith ident upper s).parts = (some q, r)) ∧
    ∀ q r, (ofTextWith ident upper s).parts = (some q, r) ↔
      ∃ segments : List String, segments ≠ [] ∧ (∀ segment ∈ segments, IsSegment ident upper segment.toList) ∧
        q = ".".intercalate segments ∧ r ≠ "" ∧ s = q ++ "." ++ r ∧ (ofTextWith ident upper r).parts = (none, r) := by
  constructor
  · cases h : (ofTextWith ident upper s).qualifier? with
    | none => exact .inl (parts_ofTextWith_of_none h)
    | some q => exact .inr ⟨q, _, by rw [parts, h]⟩
  · refine fun q r => ⟨exists_segments, ?_⟩
    rintro ⟨segments, hne, hs, rfl, hr, rfl, hplain⟩
    rw [ofTextWith_intercalate hdot hne hs hr (congrArg Prod.fst hplain), parts, qualifier?_of_ne_nil hne]

/-- A dot behind two segments may be an operator. -/
theorem parts_ofTextWith_iff_operator :
    Identifier.isIdentifierChar '.' = false ∧ (ofText ".").parts = (none, ".") ∧
      (ofText "Data.Map..").parts = (some "Data.Map", ".") := by
  have hdot : Identifier.isIdentifierChar '.' = false := by decide
  have hplain : (ofText ".").parts = (none, ".") := by decide +kernel
  refine ⟨hdot, hplain, ((parts_ofTextWith_iff hdot "Data.Map..").2 "Data.Map" ".").2 ?_⟩
  exact ⟨["Data", "Map"], by decide, by decide, by decide +kernel, by decide, by decide, hplain⟩

end SymbolGraph.QualifiedName
