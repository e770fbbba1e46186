import Mathlib.Data.List.TakeWhile
import SymbolGraph.Package
import SymbolGraph.Proofs.Spans

/-!
# Reading and writing package ids

An id is cut at the last hyphen that name characters precede and a version character follows. There is no hyphen
in a version, so the cut is found again in a written id, and an id that cannot be cut has no beginning that can.
A name with a digit behind a hyphen is cut there too, and what follows the digits is not kept.
-/
namespace SymbolGraph.Package
open Text

theorem isNameChar_hyphen : isNameChar '-' = true := by decide

theorem not_isVersionChar_hyphen : isVersionChar '-' = false := by decide

/-- Characters of a name and of a version, at least one of each. -/
structure IsVersioned (name version : List Char) : Prop where
  name_ne_nil : name ≠ []
  name_chars : ∀ c ∈ name, isNameChar c = true
  version_ne_nil : version ≠ []
  version_chars : ∀ c ∈ version, isVersionChar c = true

variable {cs name version : List Char}

/-! ## Cuts -/

theorem versionCut?_of_no_hyphen (h : '-' ∉ cs) : versionCut? cs = none := by
  induction cs with
  | nil => rfl
  | cons c rest ih =>
    rw [List.mem_cons, not_or] at h
    simp [versionCut?, ih h.2, Ne.symm h.1]

theorem versionCut?_append (hname : ∀ c ∈ name, isNameChar c = true) (hne : version ≠ [])
    (hversion : ∀ c ∈ version, isVersionChar c = true) :
    versionCut? (name ++ '-' :: version) = some (name, version) := by
  induction name with
  | nil =>
    have hnone : versionCut? version = none := by
      apply versionCut?_of_no_hyphen
      intro hmem
      exact absurd (hversion _ hmem) (by simp [not_isVersionChar_hyphen])
    have hhead : version.head?.any isVersionChar = true := by
      obtain ⟨c, rest, rfl⟩ := List.exists_cons_of_ne_nil hne
      exact hversion c (by simp)
    have htake : version.takeWhile isVersionChar = version := List.takeWhile_eq_self_iff.2 hversion
    simp [versionCut?, isNameChar_hyphen, hnone, hhead, htake]
  | cons c name ih =>
    have hrest := ih fun x hx => hname x (by simp [hx])
    simp [versionCut?, hname c (by simp), hrest]

/-- All the version characters at the beginning of a text, at least one, where the text has no cut of its own. -/
structure IsLastRun (version rest : List Char) : Prop where
  ne_nil : version ≠ []
  chars : ∀ c ∈ version, isVersionChar c = true
  stops : rest.head?.any isVersionChar = false
  uncut : versionCut? (version ++ rest) = none

theorem isLastRun_takeWhile (hhead : cs.head?.any isVersionChar = true) (hcut : versionCut? cs = none) :
    IsLastRun (cs.takeWhile isVersionChar) (cs.dropWhile isVersionChar) := by
  obtain ⟨c, hc, hversion⟩ := (Option.any_eq_true _ _).1 hhead
  obtain ⟨tail, rfl⟩ := List.head?_eq_some_iff.1 hc
  constructor
  case ne_nil => simp [hversion]
  case chars => exact fun x hx => List.mem_takeWhile_imp hx
  case stops => exact (isSpan_takeWhile isVersionChar (c :: tail)).stops
  case uncut => rwa [List.takeWhile_append_dropWhile]

/-- A cut gives what stands before and behind a hyphen of the id, the last that has a version behind it. -/
theorem versionCut?_eq_some (h : versionCut? cs = some (name, version)) :
    (∀ c ∈ name, isNameChar c = true) ∧ ∃ rest, cs = name ++ '-' :: (version ++ rest) ∧ IsLastRun version rest := by
  induction cs generalizing name with
  | nil => cases h
  | cons c cs ih =>
    rw [versionCut?] at h
    split at h
    case isFalse => cases h
    case isTrue hc =>
      split at h
      · rename_i name' version' hrest
        obtain ⟨rfl, rfl⟩ := Prod.mk.inj (Option.some.inj h)
        obtain ⟨hname, rest, rfl, hrun⟩ := ih hrest
        refine ⟨?_, rest, rfl, hrun⟩
        intro x hx
        rcases List.mem_cons.1 hx with rfl | hx
        · exact hc
        · exact hname x hx
      · rename_i hnone
        split at h
        case isFalse => cases h
        case isTrue hcut =>
          obtain ⟨rfl, rfl⟩ := Prod.mk.inj (Option.some.inj h)
          obtain ⟨rfl, hhead⟩ : c = '-' ∧ cs.head?.any isVersionChar = true := by simpa using hcut
          refine ⟨by simp, cs.dropWhile isVersionChar, ?_, isLastRun_takeWhile hhead hnone⟩
          rw [List.takeWhile_append_dropWhile, List.nil_append]

theorem versionCut?_ne_none {c : Char} (hname : ∀ x ∈ name, isNameChar x = true) (hc : isVersionChar c = true)
    (rest : List Char) : versionCut? (name ++ '-' :: c :: rest) ≠ none := by
  induction name with
  | nil =>
    rw [List.nil_append, versionCut?, if_pos isNameChar_hyphen]
    split
    · simp
    · simp [hc]
  | cons x name ih =>
    have hrest := ih fun y hy => hname y (by simp [hy])
    obtain ⟨p, hp⟩ := Option.ne_none_iff_exists'.1 hrest
    simp [versionCut?, hname x (by simp), hp]

theorem versionCut?_beginning_eq_none {beginning : List Char} (h : versionCut? cs = none) (hb : beginning <+: cs) :
    versionCut? beginning = none := by
  cases hcut : versionCut? beginning with
  | none => rfl
  | some p =>
    obtain ⟨name, version⟩ := p
    obtain ⟨hname, rest, rfl, hrun⟩ := versionCut?_eq_some hcut
    obtain ⟨c, tail, rfl⟩ := List.exists_cons_of_ne_nil hrun.ne_nil
    obtain ⟨behind, rfl⟩ := hb
    have hsome := versionCut?_ne_none hname (hrun.chars c (by simp)) (tail ++ rest ++ behind)
    exact absurd (by simpa using h) hsome

/-! ## Names and versions -/

theorem versioned?_append (h : IsVersioned name version) :
    versioned? (name ++ '-' :: version) = some (name, version) := by
  obtain ⟨c, rest, rfl⟩ := List.exists_cons_of_ne_nil h.name_ne_nil
  have hrest : ∀ x ∈ rest, isNameChar x = true := fun x hx => h.name_chars x (by simp [hx])
  have hcut := versionCut?_append hrest h.version_ne_nil h.version_chars
  simp [versioned?, h.name_chars c (by simp), hcut]

theorem versioned?_eq_some (h : versioned? cs = some (name, version)) :
    IsVersioned name version ∧ ∃ rest, cs = name ++ '-' :: (version ++ rest) ∧ IsLastRun version rest := by
  cases cs with
  | nil => cases h
  | cons c cs =>
    rw [versioned?] at h
    split at h
    case isFalse => cases h
    case isTrue hc =>
      obtain ⟨⟨front, behind⟩, hp, heq⟩ := Option.map_eq_some_iff.1 h
      obtain ⟨rfl, rfl⟩ := Prod.mk.inj heq
      obtain ⟨hname, rest, rfl, hrun⟩ := versionCut?_eq_some hp
      refine ⟨⟨by simp, ?_, hrun.ne_nil, hrun.chars⟩, rest, rfl, hrun⟩
      intro x hx
      rcases List.mem_cons.1 hx with rfl | hx
      · exact hc
      · exact hname x hx

theorem versioned?_beginning_eq_none {beginning : List Char} (h : versioned? cs = none) (hb : beginning <+: cs) :
    versioned? beginning = none := by
  cases beginning with
  | nil => rfl
  | cons c front =>
    obtain ⟨rest, rfl⟩ := hb
    rw [List.cons_append, versioned?] at h
    rw [versioned?]
    split
    case isFalse => rfl
    case isTrue hc =>
      rw [if_pos hc, Option.map_eq_none_iff] at h
      rw [versionCut?_beginning_eq_none h (List.prefix_append front rest), Option.map_none]

/-! ## Packages -/

theorem toList_id_of_version (name version : String) :
    (Package.id ⟨name, some version⟩).toList = name.toList ++ '-' :: version.toList := by
  simp [Package.id]

theorem ofId?_of_versioned? {s : String} (h : versioned? s.toList = some (name, version)) :
    ofId? s = some ⟨String.ofList name, some (String.ofList version)⟩ := by
  simp [ofId?, h]

theorem ofId?_of_not_versioned {s : String} (h : versioned? s.toList = none) :
    ofId? s = if s.toList.takeWhile isNameChar = [] then none
      else some ⟨String.ofList (s.toList.takeWhile isNameChar), none⟩ := by
  rw [ofId?, h]
  cases s.toList.takeWhile isNameChar <;> simp

theorem takeWhile_ne_nil_of_versioned? (h : versioned? cs = some (name, version)) :
    cs.takeWhile isNameChar ≠ [] := by
  cases cs with
  | nil => cases h
  | cons c rest =>
    rw [versioned?] at h
    split at h
    · rename_i hc
      simp [hc]
    · cases h

theorem ofId?_eq_none_iff {s : String} :
    ofId? s = none ↔ s = "" ∨ ∃ c rest, s.toList = c :: rest ∧ isNameChar c = false := by
  have hread : ofId? s = none ↔ s.toList.takeWhile isNameChar = [] := by
    cases h : versioned? s.toList with
    | none => simp [ofId?_of_not_versioned h]
    | some p =>
      obtain ⟨name, version⟩ := p
      have hne := takeWhile_ne_nil_of_versioned? h
      simp [ofId?_of_versioned? h, hne]
  rw [hread, ← String.toList_eq_nil_iff]
  cases s.toList with
  | nil => simp
  | cons c rest => cases hc : isNameChar c <;> simp [hc]

theorem ofId?_written {name version : String} (h : IsVersioned name.toList version.toList) :
    ofId? (name ++ "-" ++ version) = some ⟨name, some version⟩ := by
  have hcut : versioned? (name ++ "-" ++ version).toList = some (name.toList, version.toList) := by
    rw [← versioned?_append h]
    simp
  simpa using ofId?_of_versioned? hcut

/-- What was read can be written: it begins the text, and reading it gives the same package. -/
theorem id_of_ofId? {s : String} {p : Package} (h : ofId? s = some p) :
    p.id.toList <+: s.toList ∧ ofId? p.id = some p := by
  cases hcut : versioned? s.toList with
  | some q =>
    obtain ⟨name, version⟩ := q
    obtain ⟨hversioned, rest, htext, -⟩ := versioned?_eq_some hcut
    rw [ofId?_of_versioned? hcut] at h
    obtain rfl := Option.some.inj h
    refine ⟨⟨rest, by simp [toList_id_of_version, htext]⟩, ?_⟩
    exact ofId?_written (by simpa using hversioned)
  | none =>
    rw [ofId?_of_not_versioned hcut] at h
    split at h
    · cases h
    · rename_i hne
      obtain rfl := Option.some.inj h
      have hbegin : s.toList.takeWhile isNameChar <+: s.toList := List.takeWhile_prefix _
      have hbare : versioned? (String.ofList (s.toList.takeWhile isNameChar)).toList = none := by
        rw [String.toList_ofList]
        exact versioned?_beginning_eq_none hcut hbegin
      refine ⟨by simpa [Package.id] using hbegin, ?_⟩
      rw [Package.id, ofId?_of_not_versioned hbare]
      simp [hne, List.takeWhile_idem]

/-- Package ids are read and written inversely: a text is refused just if it does not start with a name character,
what is read from a text is written as a beginning of it and read again from there, and every name with every
version is read as it was written. -/
theorem ofId?_id_inverse :
    (∀ s, ofId? s = none ↔ s = "" ∨ ∃ c rest, s.toList = c :: rest ∧ isNameChar c = false) ∧
    (∀ s p, ofId? s = some p → p.id.toList <+: s.toList ∧ ofId? p.id = some p) ∧
    (∀ name version : String, name ≠ "" → (∀ c ∈ name.toList, isNameChar c = true) → version ≠ "" →
      (∀ c ∈ version.toList, isVersionChar c = true) →
      ofId? (name ++ "-" ++ version) = some ⟨name, some version⟩) := by
  refine ⟨fun s => ofId?_eq_none_iff, fun s p => id_of_ofId?, ?_⟩
  intro name version hname hnameChars hversion hversionChars
  exact ofId?_written ⟨by simpa using hname, hnameChars, by simpa using hversion, hversionChars⟩

/-- Names may end like versions, and versions with dots; what stands behind them is not read. -/
theorem ofId?_id_inverse_hyphens :
    ofId? "a--1-2.0" = some ⟨"a--1", some "2.0"⟩ ∧ ofId? "a--1-2.0.é" = some ⟨"a--1", some "2.0."⟩ ∧
      ofId? (Package.id ⟨"a--1", some "2.0."⟩) = some ⟨"a--1", some "2.0."⟩ := by
  obtain ⟨-, hagain, hwritten⟩ := ofId?_id_inverse
  have hname : ∀ c ∈ "a--1".toList, isNameChar c = true := List.all_eq_true.1 (by decide)
  have hversion : ∀ c ∈ "2.0".toList, isVersionChar c = true := List.all_eq_true.1 (by decide)
  have hread : ofId? "a--1-2.0.é" = some ⟨"a--1", some "2.0."⟩ := by decide
  exact ⟨hwritten "a--1" "2.0" (by decide) hname (by decide) hversion, hread, (hagain _ _ hread).2⟩

/-! ## Bare names -/

structure IsName (cs : List Char) : Prop where
  ne_nil : cs ≠ []
  chars : ∀ c ∈ cs, isNameChar c = true

/-- Behind at least one character a hyphen stands before a decimal digit. -/
def StartsVersion (cs : List Char) : Prop :=
  ∃ name c rest, name ≠ [] ∧ Word.isDecimal c = true ∧ cs = name ++ '-' :: c :: rest

/-- Behind at least one character a hyphen stands before decimal digits that reach the end. -/
def EndsInVersion (cs : List Char) : Prop :=
  ∃ name version, name ≠ [] ∧ version ≠ [] ∧ (∀ c ∈ version, Word.isDecimal c = true) ∧
    cs = name ++ '-' :: version

/-- The last hyphen of `cs` before a decimal digit, with all the digits behind it as the version. -/
structure IsLastVersion (cs name version rest : List Char) : Prop where
  text_eq : cs = name ++ '-' :: (version ++ rest)
  name_ne_nil : name ≠ []
  version_ne_nil : version ≠ []
  digits : ∀ c ∈ version, Word.isDecimal c = true
  stops : ∀ c ∈ rest.head?, Word.isDecimal c = false
  last : ∀ front c back, rest = front ++ '-' :: c :: back → Word.isDecimal c = false

theorem isVersionChar_of_isDecimal {c : Char} (h : Word.isDecimal c = true) : isVersionChar c = true := by
  simp [isVersionChar, h]

theorem isDecimal_of_isVersionChar {c : Char} (hname : isNameChar c = true) (h : isVersionChar c = true) :
    Word.isDecimal c = true := by
  have hdot : c ≠ '.' := by
    rintro rfl
    exact absurd hname (by decide)
  simpa [isVersionChar, hdot] using h

namespace IsName
variable {s : String}

theorem versioned?_eq_none_iff (h : IsName cs) : versioned? cs = none ↔ ¬StartsVersion cs := by
  constructor
  · rintro hnone ⟨name, c, rest, hne, hc, rfl⟩
    obtain ⟨x, name, rfl⟩ := List.exists_cons_of_ne_nil hne
    have hname : ∀ y ∈ name, isNameChar y = true := fun y hy => h.chars y (by simp [hy])
    have hcut := versionCut?_ne_none hname (isVersionChar_of_isDecimal hc) rest
    rw [List.cons_append, versioned?, if_pos (h.chars x (by simp)), Option.map_eq_none_iff] at hnone
    exact hcut hnone
  · intro hstart
    cases hcut : versioned? cs with
    | none => rfl
    | some p =>
      obtain ⟨name, version⟩ := p
      obtain ⟨hversioned, rest, rfl, -⟩ := versioned?_eq_some hcut
      obtain ⟨c, digits, rfl⟩ := List.exists_cons_of_ne_nil hversioned.version_ne_nil
      have hc := isDecimal_of_isVersionChar (h.chars c (by simp)) (hversioned.version_chars c (by simp))
      exact absurd ⟨name, c, digits ++ rest, hversioned.name_ne_nil, hc, rfl⟩ hstart

theorem exists_isLastVersion (h : IsName cs) (hcut : versioned? cs = some (name, version)) :
    ∃ rest, IsLastVersion cs name version rest := by
  obtain ⟨hversioned, rest, rfl, hrun⟩ := versioned?_eq_some hcut
  refine ⟨rest, rfl, hversioned.name_ne_nil, hrun.ne_nil, ?_, ?_, ?_⟩
  · intro c hc
    exact isDecimal_of_isVersionChar (h.chars c (by simp [hc])) (hrun.chars c hc)
  · intro c hc
    have hstop := hrun.stops
    rw [Option.mem_def.1 hc, Option.any_some] at hstop
    exact Bool.eq_false_iff.2 fun hdecimal => by simp [isVersionChar_of_isDecimal hdecimal] at hstop
  · -- A version in the rest would be behind a later hyphen, and the cut would be there.
    rintro front c back rfl
    refine Bool.eq_false_iff.2 fun hdecimal => ?_
    have hfront : ∀ x ∈ version ++ front, isNameChar x = true := by
      intro x hx
      rcases List.mem_append.1 hx with hx | hx
      · exact h.chars x (by simp [hx])
      · exact h.chars x (by simp [hx])
    have hlater := versionCut?_ne_none hfront (isVersionChar_of_isDecimal hdecimal) back
    exact hlater (by simpa using hrun.uncut)

theorem ofId?_of_not_startsVersion (h : IsName s.toList) (hstart : ¬StartsVersion s.toList) :
    ofId? s = some ⟨s, none⟩ := by
  have htake : s.toList.takeWhile isNameChar = s.toList := List.takeWhile_eq_self_iff.2 h.chars
  rw [ofId?_of_not_versioned (h.versioned?_eq_none_iff.2 hstart), htake, if_neg h.ne_nil, String.ofList_toList]

theorem ofId?_of_startsVersion (h : IsName s.toList) (hstart : StartsVersion s.toList) :
    ∃ name version rest, IsLastVersion s.toList name version rest ∧
      ofId? s = some ⟨String.ofList name, some (String.ofList version)⟩ := by
  cases hcut : versioned? s.toList with
  | none => exact absurd hstart (h.versioned?_eq_none_iff.1 hcut)
  | some p =>
    obtain ⟨rest, hlast⟩ := h.exists_isLastVersion hcut
    exact ⟨p.1, p.2, rest, hlast, ofId?_of_versioned? hcut⟩

theorem not_startsVersion (h : IsName s.toList) {name : String} (hread : ofId? s = some ⟨name, none⟩) :
    ¬StartsVersion s.toList := by
  intro hstart
  obtain ⟨front, version, rest, -, hcut⟩ := h.ofId?_of_startsVersion hstart
  exact absurd (hread.symm.trans hcut) (by simp)

theorem ofId?_of_endsInVersion (h : IsName s.toList) (hends : EndsInVersion s.toList) :
    ∃ p, ofId? s = some p ∧ p.id = s := by
  obtain ⟨name, version, hname, hversion, hdigits, htext⟩ := hends
  have hs : s = String.ofList name ++ "-" ++ String.ofList version := by
    rw [← String.toList_inj, htext]
    simp
  have hversioned : IsVersioned name version := by
    refine ⟨hname, ?_, hversion, fun c hc => isVersionChar_of_isDecimal (hdigits c hc)⟩
    intro c hc
    exact h.chars c (by simp [htext, hc])
  refine ⟨⟨String.ofList name, some (String.ofList version)⟩, ?_, hs.symm⟩
  rw [hs]
  exact ofId?_written (by simpa using hversioned)

/-- A name is written as it was read unless a version starts in it and none ends it. -/
theorem id_eq_iff (h : IsName s.toList) {p : Package} (hp : ofId? s = some p) :
    p.id = s ↔ ¬StartsVersion s.toList ∨ EndsInVersion s.toList := by
  constructor
  · intro hid
    by_cases hstart : StartsVersion s.toList
    · obtain ⟨name, version, rest, hlast, hread⟩ := h.ofId?_of_startsVersion hstart
      obtain rfl := Option.some.inj (hp.symm.trans hread)
      have htext : s.toList = name ++ '-' :: version := by
        rw [← hid, toList_id_of_version, String.toList_ofList, String.toList_ofList]
      exact .inr ⟨name, version, hlast.name_ne_nil, hlast.version_ne_nil, hlast.digits, htext⟩
    · exact .inl hstart
  · rintro (hstart | hends)
    · obtain rfl := Option.some.inj (hp.symm.trans (h.ofId?_of_not_startsVersion hstart))
      rfl
    · obtain ⟨q, hq, hid⟩ := h.ofId?_of_endsInVersion hends
      obtain rfl := Option.some.inj (hp.symm.trans hq)
      exact hid

end IsName

theorem ofId?_cases {s : String} {p : Package} (h : ofId? s = some p) :
    (∃ name version : String, IsVersioned name.toList version.toList ∧ p = ⟨name, some version⟩) ∨
      ∃ name : String, IsName name.toList ∧ p = ⟨name, none⟩ := by
  cases hcut : versioned? s.toList with
  | some q =>
    obtain ⟨hversioned, -⟩ := versioned?_eq_some hcut
    rw [ofId?_of_versioned? hcut] at h
    exact .inl ⟨_, _, by simpa using hversioned, (Option.some.inj h).symm⟩
  | none =>
    rw [ofId?_of_not_versioned hcut] at h
    split at h
    · cases h
    · rename_i hne
      have hname : IsName (s.toList.takeWhile isNameChar) := ⟨hne, fun c hc => List.mem_takeWhile_imp hc⟩
      exact .inr ⟨_, by simpa using hname, (Option.some.inj h).symm⟩

/-- A text of name characters is read as a bare name just if no version starts in it, and then no other such text is
read as the same package. Otherwise it is cut at its last version, and what stands behind that is lost unless the
version ends the text. -/
theorem bare_name_kept_iff {s : String} (h : IsName s.toList) :
    (ofId? s = some ⟨s, none⟩ ↔ ¬StartsVersion s.toList) ∧
    (∀ p, ofId? s = some p → (p.id = s ↔ ¬StartsVersion s.toList ∨ EndsInVersion s.toList)) ∧
    (∀ t : String, IsName t.toList → ¬StartsVersion s.toList → ofId? t = ofId? s → t = s) ∧
    (StartsVersion s.toList → ∃ name version rest, IsLastVersion s.toList name version rest ∧
      ofId? s = some ⟨String.ofList name, some (String.ofList version)⟩) := by
  refine ⟨⟨h.not_startsVersion, h.ofId?_of_not_startsVersion⟩, fun p => h.id_eq_iff, ?_, h.ofId?_of_startsVersion⟩
  intro t ht hstart hread
  rw [h.ofId?_of_not_startsVersion hstart] at hread
  rw [ht.ofId?_of_not_startsVersion (ht.not_startsVersion hread)] at hread
  simpa using hread

/-- Hyphens and digits do not cut a name as long as no digit follows a hyphen. -/
theorem bare_name_kept_hyphens :
    IsName "text2-icu--x1-".toList ∧ ¬StartsVersion "text2-icu--x1-".toList ∧
      ofId? "text2-icu--x1-" = some ⟨"text2-icu--x1-", none⟩ := by
  have hname : IsName "text2-icu--x1-".toList := ⟨by decide, List.all_eq_true.1 (by decide)⟩
  have hstart : ¬StartsVersion "text2-icu--x1-".toList := hname.versioned?_eq_none_iff.1 (by decide)
  exact ⟨hname, hstart, (bare_name_kept_iff hname).1.2 hstart⟩

/-- Two names that do not end in a version lose what follows a digit behind a hyphen, and become one package. -/
theorem bare_names_cut_short :
    (IsName "vector-3d".toList ∧ ¬EndsInVersion "vector-3d".toList) ∧
    (IsName "vector-3x".toList ∧ ¬EndsInVersion "vector-3x".toList) ∧
      ofId? "vector-3d" = some ⟨"vector", some "3"⟩ ∧ ofId? "vector-3x" = some ⟨"vector", some "3"⟩ := by
  have hbare : ∀ s : String, IsName s.toList → ofId? s = some ⟨"vector", some "3"⟩ → s ≠ "vector-3" →
      ¬EndsInVersion s.toList := by
    intro s hs hread hne hends
    obtain ⟨p, hp, hid⟩ := hs.ofId?_of_endsInVersion hends
    obtain rfl := Option.some.inj (hp.symm.trans hread)
    exact hne hid.symm
  have hd : IsName "vector-3d".toList := ⟨by decide, List.all_eq_true.1 (by decide)⟩
  have hx : IsName "vector-3x".toList := ⟨by decide, List.all_eq_true.1 (by decide)⟩
  have hreadd : ofId? "vector-3d" = some ⟨"vector", some "3"⟩ := by decide
  have hreadx : ofId? "vector-3x" = some ⟨"vector", some "3"⟩ := by decide
  exact ⟨⟨hd, hbare _ hd hreadd (by decide)⟩, ⟨hx, hbare _ hx hreadx (by decide)⟩, hreadd, hreadx⟩

end SymbolGraph.Package
