import SymbolGraph.Proofs.Identity
import SymbolGraph.Proofs.PackageIds

/-!
# Keys of locations

A package that was read from its id has no colon in it, so the last colon of an installed location's key is the one
that was put there. Keys of different variants are told apart only by what stands in them: a file may be named like
any key, and brackets may come from a database and a package.
-/
namespace SymbolGraph
open Text

/-- Two texts that are equal up to what follows their last separators are equal in both parts. -/
theorem eq_of_append_cons_eq {α : Type} {x : α} {front front' back back' : List α} (hback : x ∉ back)
    (hback' : x ∉ back') (h : front ++ x :: back = front' ++ x :: back') : front = front' ∧ back = back' := by
  rcases List.append_eq_append_iff.1 h with ⟨middle, rfl, hmiddle⟩ | ⟨middle, rfl, hmiddle⟩
  · cases middle with
    | nil => simpa using hmiddle
    | cons y middle =>
      obtain ⟨-, rfl⟩ := List.cons.inj hmiddle
      exact absurd (by simp) hback
  · cases middle with
    | nil => simpa using hmiddle.symm
    | cons y middle =>
      obtain ⟨-, rfl⟩ := List.cons.inj hmiddle
      exact absurd (by simp) hback'

namespace Package
variable {s t : String} {p q : Package}

theorem mem_id_of_ofId? (h : ofId? s = some p) {c : Char} (hc : c ∈ p.id.toList) :
    isNameChar c = true ∨ isVersionChar c = true := by
  rcases ofId?_cases h with ⟨name, version, hversioned, rfl⟩ | ⟨name, hname, rfl⟩
  · rw [toList_id_of_version, List.mem_append, List.mem_cons] at hc
    rcases hc with hc | rfl | hc
    · exact .inl (hversioned.name_chars c hc)
    · exact .inl isNameChar_hyphen
    · exact .inr (hversioned.version_chars c hc)
  · exact .inl (hname.chars c hc)

theorem colon_not_mem_id (h : ofId? s = some p) : ':' ∉ p.id.toList := fun hmem =>
  absurd (mem_id_of_ofId? h hmem) (by decide)

theorem bracket_not_mem_id (h : ofId? s = some p) : ']' ∉ p.id.toList := fun hmem =>
  absurd (mem_id_of_ofId? h hmem) (by decide)

theorem eq_of_id_eq (hp : ofId? s = some p) (hq : ofId? t = some q) (h : p.id = q.id) : p = q := by
  have hagain := (id_of_ofId? hp).2
  rw [h, (id_of_ofId? hq).2] at hagain
  exact (Option.some.inj hagain).symm

end Package

@[simp] theorem PackageDatabase.text_ofText (s : String) : (ofText s).text = s := by
  unfold ofText
  split
  · rename_i h
    exact h.symm
  · split
    · rename_i h
      exact h.symm
    · rfl

namespace InstalledLocation
variable {l r : InstalledLocation}

theorem toList_key (l : InstalledLocation) :
    l.key.toList = l.database.text.toList ++ ':' :: l.package.id.toList := by
  simp [key]

theorem texts_of_key_eq (hl : ':' ∉ l.package.id.toList) (hr : ':' ∉ r.package.id.toList) (h : l.key = r.key) :
    l.database.text = r.database.text ∧ l.package.id = r.package.id := by
  have hchars : l.key.toList = r.key.toList := by rw [h]
  rw [toList_key, toList_key] at hchars
  obtain ⟨hdatabase, hid⟩ := eq_of_append_cons_eq hl hr hchars
  exact ⟨String.toList_inj.1 hdatabase, String.toList_inj.1 hid⟩

variable {s t a b : String} {p q : Package}

theorem key_eq_iff (hp : Package.ofId? a = some p) (hq : Package.ofId? b = some q) :
    key ⟨p, .ofText s⟩ = key ⟨q, .ofText t⟩ ↔ PackageDatabase.ofText s = .ofText t ∧ p = q := by
  constructor
  · intro h
    obtain ⟨hdatabase, hid⟩ := texts_of_key_eq (Package.colon_not_mem_id hp) (Package.colon_not_mem_id hq) h
    obtain rfl : s = t := by simpa using hdatabase
    exact ⟨rfl, Package.eq_of_id_eq hp hq hid⟩
  · rintro ⟨hdatabase, rfl⟩
    rw [hdatabase]

/-- Where databases and packages are read from their texts, equal keys are those of equal databases and packages, and
installed modules are the same just if names, databases and packages are. -/
theorem key_tells_apart (hp : Package.ofId? a = some p) (hq : Package.ofId? b = some q) :
    (key ⟨p, .ofText s⟩ = key ⟨q, .ofText t⟩ ↔ PackageDatabase.ofText s = .ofText t ∧ p = q) ∧
    ∀ m n : Module, m.location = some (.installed ⟨p, .ofText s⟩) → n.location = some (.installed ⟨q, .ofText t⟩) →
      (m.same n = true ↔ m.name = n.name ∧ PackageDatabase.ofText s = .ofText t ∧ p = q) := by
  refine ⟨key_eq_iff hp hq, ?_⟩
  intro m n hm hn
  have horigin : m.origin? = some (.installed (key ⟨p, .ofText s⟩)) := by simp [Module.origin?, hm]
  have horigin' : n.origin? = some (.installed (key ⟨q, .ofText t⟩)) := by simp [Module.origin?, hn]
  rw [Module.same_iff_origin, ← key_eq_iff hp hq, horigin, horigin']
  simp [eq_comm]

/-- In a sandbox whose path has a colon, a package that is read from two ids is one, and differs from the one without
a version. -/
theorem key_tells_apart_colon :
    let m : Module := { name := "A", location := some (.installed ⟨⟨"lens", some "4.1"⟩, .ofText "/sb:x"⟩) }
    let n : Module := { name := "A", location := some (.installed ⟨⟨"lens", none⟩, .ofText "/sb:x"⟩) }
    Package.ofId? "lens-4.1" = some ⟨"lens", some "4.1"⟩ ∧ Package.ofId? "lens-4.1+git" = some ⟨"lens", some "4.1"⟩ ∧
      Package.ofId? "lens" = some ⟨"lens", none⟩ ∧ m.same m = true ∧ m.same n = false := by
  intro m n
  have hread : Package.ofId? "lens-4.1" = some ⟨"lens", some "4.1"⟩ := by decide
  have hread' : Package.ofId? "lens-4.1+git" = some ⟨"lens", some "4.1"⟩ := by decide
  have hbare : Package.ofId? "lens" = some ⟨"lens", none⟩ := by decide
  refine ⟨hread, hread', hbare, ?_, Bool.eq_false_iff.2 fun hsame => ?_⟩
  · exact ((key_tells_apart hread hread').2 m m rfl rfl).2 ⟨rfl, rfl, rfl⟩
  · have hpackage := ((key_tells_apart hread hbare).2 m n rfl rfl).1 hsame
    exact absurd hpackage.2.2 (by decide)

end InstalledLocation

namespace Location
variable {l r : Location}

def SameVariant (l r : Location) : Prop :=
  l.isSource = r.isSource ∧ l.isInstalled = r.isInstalled ∧ l.isOther = r.isOther

instance (l r : Location) : Decidable (l.SameVariant r) := inferInstanceAs (Decidable (_ ∧ _ ∧ _))

/-- A file is named like the key of a location of another variant, or a database and a package have the brackets of a
look-up service around them. -/
def Imitates : Location → Location → Prop
  | source file, other service => file.filename = some ("[" ++ service.source.getD "" ++ "]")
  | source file, installed place => file.filename = some (place.database.text ++ ":" ++ place.package.id)
  | installed place, other service => ∃ front back, place.database.text = "[" ++ front ∧
      place.package.id = back ++ "]" ∧ service.source.getD "" = front ++ ":" ++ back
  | _, _ => False

/-- Word characters that are no digits, at least one. -/
structure IsExtension (cs : List Char) : Prop where
  ne_nil : cs ≠ []
  chars : ∀ c ∈ cs, Word.isWord c = true ∧ Word.isDecimal c = false

/-- A file with an extension, a package that was read from its id, or any look-up service. -/
def IsPlain : Location → Prop
  | source file => ∃ stem extension, file.filename = some (stem ++ "." ++ extension) ∧ IsExtension extension.toList
  | installed place => ∃ id, Package.ofId? id = some place.package
  | other _ => True

theorem getD_eq_iff {name : Option String} {s : String} (hs : s ≠ "") : name.getD "" = s ↔ name = some s := by
  cases name with
  | none => simpa using hs.symm
  | some name => simp

theorem joined_eq_bracketed_iff {database id service : List Char} :
    database ++ ':' :: id = '[' :: (service ++ [']']) ↔
      ∃ front back, database = '[' :: front ∧ id = back ++ [']'] ∧ service = front ++ ':' :: back := by
  constructor
  · intro h
    cases database with
    | nil => simp at h
    | cons c front =>
      rw [List.cons_append, List.cons.injEq] at h
      obtain ⟨rfl, htail⟩ := h
      rcases List.eq_nil_or_concat id with rfl | ⟨back, c, rfl⟩
      · have hlast := congrArg List.getLast? htail
        simp at hlast
      · have hsplit : (front ++ ':' :: back) ++ [c] = service ++ [']'] := by simpa using htail
        obtain ⟨hservice, hlast⟩ := List.append_inj' hsplit rfl
        obtain rfl : c = ']' := by simpa using hlast
        exact ⟨front, back, rfl, by simp, hservice.symm⟩
  · rintro ⟨front, back, rfl, rfl, rfl⟩
    simp

theorem source_key_eq_other_iff {file : SourceLocation} {service : OtherLocation} :
    (source file).key = (other service).key ↔ (source file).Imitates (other service) := by
  rw [key, key, Imitates]
  apply getD_eq_iff
  simp

theorem source_key_eq_installed_iff {file : SourceLocation} {place : InstalledLocation} :
    (source file).key = (installed place).key ↔ (source file).Imitates (installed place) := by
  rw [key, key, InstalledLocation.key, Imitates]
  apply getD_eq_iff
  simp

theorem installed_key_eq_other_iff {place : InstalledLocation} {service : OtherLocation} :
    (installed place).key = (other service).key ↔ (installed place).Imitates (other service) := by
  have hchars : (installed place).key = (other service).key ↔ place.database.text.toList ++ ':' ::
      place.package.id.toList = '[' :: ((service.source.getD "").toList ++ [']']) := by
    rw [← String.toList_inj, key, key, InstalledLocation.toList_key]
    simp
  rw [hchars, joined_eq_bracketed_iff]
  constructor
  · rintro ⟨front, back, hdatabase, hid, hservice⟩
    refine ⟨String.ofList front, String.ofList back, ?_, ?_, ?_⟩ <;> rw [← String.toList_inj]
    · simpa using hdatabase
    · simpa using hid
    · simpa using hservice
  · rintro ⟨front, back, hdatabase, hid, hservice⟩
    exact ⟨front.toList, back.toList, by simp [hdatabase], by simp [hid], by simp [hservice]⟩

/-- Keys of different variants are equal just if one of the locations imitates the other. -/
theorem key_eq_iff (hv : ¬l.SameVariant r) : l.key = r.key ↔ l.Imitates r ∨ r.Imitates l := by
  cases l with
  | source file =>
    cases r with
    | source file' => exact absurd ⟨rfl, rfl, rfl⟩ hv
    | installed place => simpa [Imitates] using source_key_eq_installed_iff
    | other service => simpa [Imitates] using source_key_eq_other_iff
  | installed place =>
    cases r with
    | source file => simpa [Imitates, eq_comm] using source_key_eq_installed_iff
    | installed place' => exact absurd ⟨rfl, rfl, rfl⟩ hv
    | other service => simpa [Imitates] using installed_key_eq_other_iff
  | other service =>
    cases r with
    | source file => simpa [Imitates, eq_comm] using source_key_eq_other_iff
    | installed place => simpa [Imitates, eq_comm] using installed_key_eq_other_iff
    | other service' => exact absurd ⟨rfl, rfl, rfl⟩ hv

theorem IsExtension.exists_last {extension : List Char} (h : IsExtension extension) :
    ∃ c, extension.getLast? = some c ∧ Word.isWord c = true ∧ Word.isDecimal c = false := by
  obtain ⟨c, hc⟩ := Option.isSome_iff_exists.1 (List.getLast?_isSome.2 h.ne_nil)
  exact ⟨c, hc, h.chars c (List.mem_of_getLast? hc)⟩

/-- The last character of an extension is in no version, and the dot before it in no name. -/
theorem IsExtension.ne_joined {stem extension database : List Char} {id : String} {p : Package}
    (hext : IsExtension extension) (hp : Package.ofId? id = some p) :
    stem ++ '.' :: extension ≠ database ++ ':' :: p.id.toList := by
  intro h
  rcases Package.ofId?_cases hp with ⟨name, version, hversioned, rfl⟩ | ⟨name, hname, rfl⟩
  · obtain ⟨c, hc, hword, hdecimal⟩ := hext.exists_last
    obtain ⟨d, hd⟩ := Option.isSome_iff_exists.1 (List.getLast?_isSome.2 hversioned.version_ne_nil)
    obtain rfl : c = d := by
      have hlast := congrArg List.getLast? h
      simpa [Package.toList_id_of_version, List.getLast?_append, List.getLast?_cons, hc, hd] using hlast
    obtain rfl : c = '.' := by
      simpa [Package.isVersionChar, hdecimal] using hversioned.version_chars c (List.mem_of_getLast? hd)
    exact absurd hword (by decide)
  · rcases List.append_eq_append_iff.1 h with ⟨middle, rfl, hmiddle⟩ | ⟨middle, rfl, hmiddle⟩
    · cases middle with
      | nil => simp at hmiddle
      | cons c middle =>
        obtain ⟨-, rfl⟩ := List.cons.inj hmiddle
        exact absurd (hext.chars ':' (by simp)).1 (by decide)
    · cases middle with
      | nil => simp at hmiddle
      | cons c middle =>
        obtain ⟨-, hid⟩ := List.cons.inj hmiddle
        have hdot : '.' ∈ name.toList := by
          rw [show name.toList = middle ++ '.' :: extension from hid]
          simp
        exact absurd (hname.chars '.' hdot) (by decide)

theorem IsExtension.ne_bracketed {stem extension service : List Char} (hext : IsExtension extension) :
    stem ++ '.' :: extension ≠ '[' :: (service ++ [']']) := by
  intro h
  obtain ⟨c, hc, hword, -⟩ := hext.exists_last
  obtain rfl : c = ']' := by
    have hlast := congrArg List.getLast? h
    simpa [List.getLast?_append, List.getLast?_cons, hc] using hlast
  exact absurd hword (by decide)

theorem IsPlain.not_imitates (hl : l.IsPlain) (hr : r.IsPlain) : ¬l.Imitates r := by
  intro h
  cases l with
  | source file =>
    obtain ⟨stem, extension, hname, hext⟩ := hl
    cases r with
    | source file' => exact h
    | installed place =>
      obtain ⟨id, hid⟩ := hr
      have hchars := congrArg String.toList (Option.some.inj (hname.symm.trans h))
      exact hext.ne_joined hid (by simpa using hchars)
    | other service =>
      have hchars := congrArg String.toList (Option.some.inj (hname.symm.trans h))
      exact hext.ne_bracketed (by simpa using hchars)
  | installed place =>
    cases r with
    | source file => exact h
    | installed place' => exact h
    | other service =>
      obtain ⟨id, hid⟩ := hl
      obtain ⟨front, back, -, hback, -⟩ := h
      exact Package.bracket_not_mem_id hid (by simp [hback])
  | other service =>
    cases r <;> exact h

/-- Keys of different variants are equal just if a file is named like the key of the other location, or a database and
a package have the brackets of a look-up service. Files with an extension and packages that were read have neither. -/
theorem key_collides_iff (hv : ¬l.SameVariant r) :
    (l.key = r.key ↔ l.Imitates r ∨ r.Imitates l) ∧ (l.IsPlain → r.IsPlain → l.key ≠ r.key) := by
  refine ⟨key_eq_iff hv, ?_⟩
  intro hl hr heq
  rcases (key_eq_iff hv).1 heq with h | h
  · exact hl.not_imitates hr h
  · exact hr.not_imitates hl h

/-- Three usual locations have three keys. -/
theorem key_collides_iff_usual :
    let file := source ⟨some "src/Main.hs", some "app"⟩
    let place := installed ⟨⟨"base", some "4.9"⟩, .user⟩
    let service := other ⟨some "hayoo"⟩
    (file.IsPlain ∧ place.IsPlain ∧ service.IsPlain) ∧
      file.key ≠ place.key ∧ file.key ≠ service.key ∧ place.key ≠ service.key := by
  intro file place service
  have hext : IsExtension "hs".toList := by
    refine ⟨by decide, fun c hc => ?_⟩
    obtain rfl | rfl : c = 'h' ∨ c = 's' := by simpa using hc
    · decide
    · decide
  have hfile : file.IsPlain := ⟨"src/Main", "hs", rfl, hext⟩
  have hplace : place.IsPlain := ⟨"base-4.9", by decide⟩
  have hservice : service.IsPlain := trivial
  refine ⟨⟨hfile, hplace, hservice⟩, ?_, ?_, ?_⟩
  · exact (key_collides_iff (by decide)).2 hfile hplace
  · exact (key_collides_iff (by decide)).2 hfile hservice
  · exact (key_collides_iff (by decide)).2 hplace hservice

/-- Each two variants share a key: a file in brackets that of a look-up service, a file with a colon in its name that
of a package, and a package in a database with a bracket that of a look-up service. -/
theorem keys_collide_across_variants :
    let file := source ⟨some "[hayoo]", none⟩
    let service := other ⟨some "hayoo"⟩
    let file' := source ⟨some "user-db:base-4.9", none⟩
    let place := installed ⟨⟨"base", some "4.9"⟩, .user⟩
    let place' := installed ⟨⟨"b]", none⟩, .sandbox "[a"⟩
    let service' := other ⟨some "a:b"⟩
    (∀ l ∈ [file, service, file', place, place', service'], l.isNull = false) ∧
      (¬file.SameVariant service ∧ file.key = service.key) ∧ (¬file'.SameVariant place ∧ file'.key = place.key) ∧
      (¬place'.SameVariant service' ∧ place'.key = service'.key) := by
  decide

end Location
end SymbolGraph
