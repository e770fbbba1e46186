import Mathlib.Data.List.Nodup
import SymbolGraph.Proofs.JsonText
import SymbolGraph.Report.Format

/-!
# Positions, locations and reports in JSON text

What is written of a position, package, package database, location or report is read back as it was. A type reads
back if its values are plain and are recovered from them; the fields of a record are recovered by their names.
-/
namespace SymbolGraph

namespace JsonValue
variable {α : Type} {write : α → JsonValue} {read? : JsonValue → Option α}

/-- Values are written plainly and recovered from what is written. -/
structure Recovers (write : α → JsonValue) (read? : JsonValue → Option α) : Prop where
  isPlain : ∀ a, (write a).IsPlain
  read?_write : ∀ a, read? (write a) = some a

/-- What a text says, read as a value of a type. -/
def decode? (read? : JsonValue → Option α) (text : String) : Option α := (ofText? text).bind read?

/-- The text of every value is read as that value, and a text that is accepted says the same when it is written
anew. -/
structure ReadsBack (textOf : α → String) (ofText? : String → Option α) : Prop where
  ofText?_textOf : ∀ a, ofText? (textOf a) = some a
  stable : ∀ text, ((ofText? text).map textOf).bind ofText? = ofText? text

theorem Recovers.readsBack (h : Recovers write read?) : ReadsBack (fun a => (write a).text) (decode? read?) := by
  have hdecode : ∀ a, decode? read? (write a).text = some a := by
    intro a
    rw [decode?, (h.isPlain a).ofText?_text, Option.bind_some, h.read?_write]
  refine ⟨hdecode, fun text => ?_⟩
  cases decode? read? text with
  | none => rfl
  | some a => exact hdecode a

/-! ## Fields -/

theorem toInt?_ofInt (i : Int) : (JsonNumber.ofInt i).toInt? = some i := by
  by_cases hi : i < 0
  · have hne : i.natAbs ≠ 0 := by omega
    have hneg : -(i.natAbs : Int) = i := by omega
    simp only [JsonNumber.ofInt, JsonNumber.toInt?, decide_eq_true hi, Text.Decimal.value_digits, if_neg hne, hneg]
  · have hnat : (i.natAbs : Int) = i := by omega
    simp only [JsonNumber.ofInt, JsonNumber.toInt?, decide_eq_false hi, Text.Decimal.value_digits, hnat]

namespace Recovers

theorem int64 : Recovers ofInt64 int64? where
  isPlain n := .number n.toInt
  read?_write n := by
    have hbounds : Int64.minValue.toInt ≤ n.toInt ∧ n.toInt ≤ Int64.maxValue.toInt :=
      ⟨n.minValue_le_toInt, n.toInt_le⟩
    rw [ofInt64, int64?, toInt?_ofInt, Option.bind_some, if_pos hbounds, Int64.ofInt_toInt]

theorem string : Recovers ofString string? where
  isPlain := .string
  read?_write _ := rfl

theorem bool : Recovers JsonValue.bool bool? where
  isPlain := .bool
  read?_write _ := rfl

theorem list (h : Recovers write read?) : Recovers (ofList write) (list? read?) where
  isPlain xs := by
    refine .array fun v hv => ?_
    obtain ⟨a, -, rfl⟩ := List.mem_map.1 hv
    exact h.isPlain a
  read?_write xs := by
    rw [ofList, list?]
    induction xs with
    | nil => rfl
    | cons a xs ih => simp [List.mapM_cons, h.read?_write, ih]

theorem isPlain_ofOption (h : Recovers write read?) (a : Option α) : (ofOption write a).IsPlain := by
  cases a with
  | none => exact .null
  | some a => exact h.isPlain a

/-- A value that null does not denote is told from a missing one. -/
theorem optional?_ofOption (h : Recovers write read?) (hnull : read? null = none) (a : Option α) :
    optional? read? (some (ofOption write a)) = some a := by
  cases a with
  | none => rfl
  | some a =>
    have hread := h.read?_write a
    have hne : write a ≠ null := by
      intro hwrite
      simp [hwrite, hnull] at hread
    rw [ofOption, optional?]
    · simp [hread]
    · simpa using hne

end Recovers

def entries (fields : List (String × JsonValue)) : List (Option String × JsonValue) :=
  fields.map fun f => (some f.1, f.2)

theorem ofFields_eq (fields : List (String × JsonValue)) : ofFields fields = object (entries fields) := rfl

theorem forall_mem_entries {P : Option String × JsonValue → Prop} {fields : List (String × JsonValue)} :
    (∀ f ∈ entries fields, P f) ↔ ∀ f ∈ fields, P (some f.1, f.2) := by
  rw [entries, List.forall_mem_map]

theorem entries_append (fields fields' : List (String × JsonValue)) :
    entries (fields ++ fields') = entries fields ++ entries fields' :=
  List.map_append

variable {fields : List (String × JsonValue)}

theorem occurrences_entries (h : (fields.map Prod.fst).Nodup) (name : String) :
    occurrences name (entries fields) ≤ 1 := by
  have hcount : occurrences name (entries fields) = (fields.map Prod.fst).count name := by
    simp [occurrences, entries, List.count, List.countP_map, Function.comp_def]
  exact hcount ▸ List.nodup_iff_count_le_one.1 h name

theorem keysFit_entries (names : List String) (h : (fields.map Prod.fst).Nodup) :
    keysFit names (entries fields) = true := by
  simp only [keysFit, Bool.and_eq_true, List.all_eq_true, decide_eq_true_eq]
  exact ⟨forall_mem_entries.2 fun _ _ => rfl, fun name _ => occurrences_entries h name⟩

theorem field?_entries {name : String} {v : JsonValue} (h : (fields.map Prod.fst).Nodup) (hf : (name, v) ∈ fields) :
    field? name (entries fields) = some v := by
  induction fields with
  | nil => simp at hf
  | cons f fields ih =>
    rw [List.map_cons, List.nodup_cons] at h
    rcases List.mem_cons.1 hf with rfl | hf
    · simp [field?, entries]
    · have hne : f.1 ≠ name := by
        rintro rfl
        exact h.1 (List.mem_map.2 ⟨_, hf, rfl⟩)
      simpa [field?, entries, hne] using ih h.2 hf

/-- Fields with distinct names are found by their names. -/
theorem record?_ofFields (least : Nat) (h : (fields.map Prod.fst).Nodup) :
    record? (fields.map Prod.fst) least (ofFields fields) = some (fields.map fun f => some f.2) := by
  rw [ofFields_eq, record?, if_pos (keysFit_entries _ h), List.map_map]
  refine congrArg some (List.map_congr_left fun f hf => ?_)
  exact field?_entries h hf

end JsonValue
open JsonValue

/-! ## Positions and locations -/

theorem Position.recovers : Recovers Position.toJson Position.ofJson? where
  isPlain p := .object (by simp [Recovers.int64.isPlain, Recovers.int64.isPlain_ofOption])
  read?_write p := by
    have hrecord : record? ["line", "column"] 2 p.toJson =
        some [some (ofInt64 p.line), some (ofOption ofInt64 p.column)] := record?_ofFields 2 (by simp)
    simp [Position.ofJson?, hrecord, required?, Recovers.int64.read?_write, Recovers.int64.optional?_ofOption rfl]

theorem Package.recovers : Recovers Package.toJson Package.ofJson? where
  isPlain p := .object (by simp [Recovers.string.isPlain, Recovers.string.isPlain_ofOption])
  read?_write p := by
    have hrecord : record? ["name", "version"] 2 p.toJson =
        some [some (ofString p.name), some (ofOption ofString p.version)] := record?_ofFields 2 (by simp)
    simp [Package.ofJson?, hrecord, required?, Recovers.string.read?_write, Recovers.string.optional?_ofOption rfl]

theorem PackageDatabase.recovers : Recovers PackageDatabase.toJson PackageDatabase.ofJson? where
  isPlain d := by
    cases d with
    | global => exact .string "Global"
    | user => exact .string "User"
    | sandbox path => exact .object (by simp [Recovers.string.isPlain])
  read?_write d := by cases d <;> rfl

theorem SourceLocation.recovers : Recovers SourceLocation.toJson SourceLocation.ofJson? where
  isPlain l := .object (by simp [Recovers.string.isPlain_ofOption])
  read?_write l := by
    have hrecord : record? ["filename", "project"] 2 l.toJson =
        some [some (ofOption ofString l.filename), some (ofOption ofString l.project)] := record?_ofFields 2 (by simp)
    simp [SourceLocation.ofJson?, hrecord, Recovers.string.optional?_ofOption rfl]

theorem InstalledLocation.recovers : Recovers InstalledLocation.toJson InstalledLocation.ofJson? where
  isPlain l := .object (by simp [Package.recovers.isPlain, PackageDatabase.recovers.isPlain])
  read?_write l := by
    have hrecord : record? ["package", "db"] 2 l.toJson = some [some l.package.toJson, some l.database.toJson] :=
      record?_ofFields 2 (by simp)
    simp [InstalledLocation.ofJson?, hrecord, required?, Package.recovers.read?_write,
      PackageDatabase.recovers.read?_write]

theorem OtherLocation.recovers : Recovers OtherLocation.toJson OtherLocation.ofJson? where
  isPlain l := .object (by simp [Recovers.string.isPlain_ofOption])
  read?_write l := by
    have hrecord : record? ["source"] 1 l.toJson = some [some (ofOption ofString l.source)] :=
      record?_ofFields 1 (by simp)
    simp [OtherLocation.ofJson?, hrecord, Recovers.string.optional?_ofOption rfl]

theorem Location.recovers : Recovers Location.toJson Location.ofJson? where
  isPlain l := by
    cases l with
    | source l => exact .object (by simp [SourceLocation.recovers.isPlain])
    | installed l => exact .object (by simp [InstalledLocation.recovers.isPlain])
    | other l => exact .object (by simp [OtherLocation.recovers.isPlain])
  read?_write l := by
    cases l with
    | source l => exact congrArg (Option.map source) (SourceLocation.recovers.read?_write l)
    | installed l => exact congrArg (Option.map installed) (InstalledLocation.recovers.read?_write l)
    | other l => exact congrArg (Option.map other) (OtherLocation.recovers.read?_write l)

/-! ## Reports -/

theorem ImportReport.recovers : Recovers ImportReport.toJson ImportReport.ofJson? where
  isPlain r := .object (by
    simp [Recovers.string.isPlain, Recovers.bool.isPlain, Recovers.string.isPlain_ofOption,
      Position.recovers.isPlain_ofOption])
  read?_write r := by
    have hrecord : record? ["name", "qualified", "as", "position"] 1 r.toJson =
        some [some (ofString r.name), some (.bool r.qualified), some (ofOption ofString r.knownAs),
          some (ofOption Position.toJson r.position)] := record?_ofFields 1 (by simp)
    simp [ImportReport.ofJson?, hrecord, required?, defaulted?, Recovers.string.read?_write,
      Recovers.bool.read?_write, Recovers.string.optional?_ofOption rfl, Position.recovers.optional?_ofOption rfl]

namespace KindReport

/-- The fields of a kind have names of their own, apart from those that all declarations share. -/
theorem nodup_names (k : KindReport) : (DeclarationReport.commonNames ++ k.toFields.map Prod.fst).Nodup := by
  cases k <;> simp [DeclarationReport.commonNames, toFields, TypeReport.toFields]

theorem nodup_toFields (k : KindReport) : (k.toFields.map Prod.fst).Nodup :=
  (List.nodup_append.1 k.nodup_names).2.1

/-- The fields of a kind hold a text, a text that may be missing or a list of texts. -/
theorem toFields_cases {k : KindReport} {f : String × JsonValue} (hf : f ∈ k.toFields) :
    (∃ s, f.2 = ofString s) ∨ (∃ s, f.2 = ofOption ofString s) ∨ ∃ xs, f.2 = ofList ofString xs := by
  have htype {r : TypeReport} (h : f ∈ r.toFields) :
      (∃ s, f.2 = ofOption ofString s) ∨ ∃ xs, f.2 = ofList ofString xs := by
    simp only [TypeReport.toFields, List.mem_cons, List.not_mem_nil, or_false] at h
    obtain rfl | rfl | rfl := h
    · exact .inr ⟨_, rfl⟩
    · exact .inr ⟨_, rfl⟩
    · exact .inl ⟨_, rfl⟩
  rcases List.mem_cons.1 hf with rfl | hf
  · exact .inl ⟨_, rfl⟩
  · cases k with
    | function signature =>
      obtain rfl := List.mem_singleton.1 hf
      exact .inr (.inl ⟨_, rfl⟩)
    | synonym r => exact .inr (htype hf)
    | newtype r => exact .inr (htype hf)
    | datatype r => exact .inr (htype hf)
    | typeclass r => exact .inr (htype hf)
    | other => exact absurd hf List.not_mem_nil

theorem isPlain_of_mem_toFields {k : KindReport} {f : String × JsonValue} (hf : f ∈ k.toFields) :
    f.2.IsPlain := by
  obtain ⟨s, hs⟩ | ⟨s, hs⟩ | ⟨xs, hs⟩ := toFields_cases hf
  · exact hs ▸ Recovers.string.isPlain s
  · exact hs ▸ Recovers.string.isPlain_ofOption s
  · exact hs ▸ Recovers.string.list.isPlain xs

theorem isStorable_of_mem_toFields {k : KindReport} {f : String × JsonValue} (hf : f ∈ k.toFields) :
    f.2.isStorable DeclarationReport.maxDepth = true := by
  obtain ⟨s, hs⟩ | ⟨s, hs⟩ | ⟨xs, hs⟩ := toFields_cases hf
  · simp [hs, ofString, isStorable]
  · cases s <;> simp [hs, ofOption, ofString, isStorable]
  · simp [hs, ofList, ofString, isStorable, DeclarationReport.maxDepth]

theorem functionOfFields?_toFields (signature : Option String) :
    functionOfFields? (entries (function signature).toFields) = some (function signature) := by
  have hnodup := nodup_toFields (function signature)
  have hsignature : ("type", ofOption ofString signature) ∈ (function signature).toFields := by simp [toFields]
  rw [functionOfFields?, if_pos (occurrences_entries hnodup _), field?_entries hnodup hsignature,
    Recovers.string.optional?_ofOption rfl, Option.map_some]

/-- A type is read back from among fields that have its own. -/
theorem ofFields?_of_subset {fields : List (String × JsonValue)} (hnodup : (fields.map Prod.fst).Nodup)
    {r : TypeReport} (h : r.toFields ⊆ fields) : TypeReport.ofFields? (entries fields) = some r := by
  have hcontext := field?_entries hnodup (h (a := ("context", ofList ofString r.context)) (by simp [TypeReport.toFields]))
  have hargs := field?_entries hnodup (h (a := ("args", ofList ofString r.args)) (by simp [TypeReport.toFields]))
  have hdefinition := field?_entries hnodup
    (h (a := ("definition", ofOption ofString r.definition)) (by simp [TypeReport.toFields]))
  rw [TypeReport.ofFields?, if_pos (keysFit_entries _ hnodup), hcontext, hargs, hdefinition]
  simp [defaulted?, Recovers.string.list.read?_write, Recovers.string.optional?_ofOption rfl]

theorem ofFields?_toFields (k : KindReport) : ofFields? (entries k.toFields) = some k := by
  have hword : ("what", ofString k.word) ∈ k.toFields := by simp [toFields]
  have htype {r : TypeReport} (h : r.toFields ⊆ k.toFields) :
      TypeReport.ofFields? (entries k.toFields) = some r := ofFields?_of_subset k.nodup_toFields h
  rw [ofFields?, if_pos (occurrences_entries k.nodup_toFields _), field?_entries k.nodup_toFields hword]
  cases k with
  | function signature => exact functionOfFields?_toFields signature
  | synonym r => exact congrArg (Option.map synonym) (htype (List.subset_cons_self _ _))
  | newtype r => exact congrArg (Option.map newtype) (htype (List.subset_cons_self _ _))
  | datatype r => exact congrArg (Option.map datatype) (htype (List.subset_cons_self _ _))
  | typeclass r => exact congrArg (Option.map typeclass) (htype (List.subset_cons_self _ _))
  | other => rfl

end KindReport

namespace DeclarationReport

/-- Setting aside what all declarations share leaves the fields of the kind. -/
theorem filter_foreign {names : List String} {common others : List (String × JsonValue)}
    (hcommon : common.map Prod.fst = names) (h : (names ++ others.map Prod.fst).Nodup) :
    (entries (common ++ others)).filter (fun f => f.1.all (· ∉ names)) = entries others := by
  have hdisjoint := (List.nodup_append.1 h).2.2
  have hnone : (entries common).filter (fun f => f.1.all (· ∉ names)) = [] := by
    simp only [List.filter_eq_nil_iff, forall_mem_entries]
    intro f hf
    simpa [← hcommon] using ⟨f.2, hf⟩
  have hall : (entries others).filter (fun f => f.1.all (· ∉ names)) = entries others := by
    simp only [List.filter_eq_self, forall_mem_entries]
    intro f hf
    have hname : f.1 ∉ names := fun hin => hdisjoint f.1 hin f.1 (List.mem_map.2 ⟨f, hf, rfl⟩) rfl
    simpa using hname
  rw [entries_append, List.filter_append, hnone, hall, List.nil_append]

def commonFields (r : DeclarationReport) : List (String × JsonValue) :=
  [("name", ofString r.name), ("docs", ofOption ofString r.docs),
    ("position", ofOption Position.toJson r.position), ("imported", ofList ImportReport.toJson r.imported)]

theorem isPlain_of_mem_commonFields (r : DeclarationReport) : ∀ f ∈ r.commonFields, f.2.IsPlain := by
  simp [commonFields, Recovers.string.isPlain, Recovers.string.isPlain_ofOption,
    Position.recovers.isPlain_ofOption, ImportReport.recovers.list.isPlain]

theorem recovers : Recovers toJson ofJson? where
  isPlain r := by
    refine .object fun f hf => ?_
    rcases List.mem_append.1 hf with hf | hf
    · exact r.isPlain_of_mem_commonFields f hf
    · exact r.kind.isPlain_of_mem_toFields hf
  read?_write r := by
    have hnames := r.kind.nodup_names
    have hnodup : ((r.commonFields ++ r.kind.toFields).map Prod.fst).Nodup := by
      rw [List.map_append]
      exact hnames
    have hfield : ∀ name v, (name, v) ∈ r.commonFields →
        field? name (entries (r.commonFields ++ r.kind.toFields)) = some v :=
      fun name v hf => field?_entries hnodup (List.mem_append_left _ hf)
    have hname := hfield "name" (ofString r.name) (by simp [commonFields])
    have hdocs := hfield "docs" (ofOption ofString r.docs) (by simp [commonFields])
    have hposition := hfield "position" (ofOption Position.toJson r.position) (by simp [commonFields])
    have himported := hfield "imported" (ofList ImportReport.toJson r.imported) (by simp [commonFields])
    have hkeys := keysFit_entries commonNames hnodup
    have hkind : (entries (r.commonFields ++ r.kind.toFields)).filter (fun f => f.1.all (· ∉ commonNames)) =
        entries r.kind.toFields := filter_foreign rfl hnames
    have hstorable : (entries r.kind.toFields).all (fun f => f.2.isStorable maxDepth) = true := by
      simp only [List.all_eq_true, forall_mem_entries]
      exact fun f hf => r.kind.isStorable_of_mem_toFields hf
    have htoJson : r.toJson = .object (entries (r.commonFields ++ r.kind.toFields)) := rfl
    rw [htoJson, ofJson?]
    simp only [hkind, hkeys, hstorable, hname, hdocs, hposition, himported, Bool.and_self, if_true, required?,
      defaulted?, Option.bind_eq_bind, Option.bind_some, Recovers.string.read?_write,
      Recovers.string.optional?_ofOption rfl, Position.recovers.optional?_ofOption rfl,
      ImportReport.recovers.list.read?_write, r.kind.ofFields?_toFields]
    rfl

end DeclarationReport

namespace ModuleReport

theorem recovers : Recovers toJson ofJson? where
  isPlain r := .object (by
    simp [Recovers.string.isPlain, Recovers.string.list.isPlain_ofOption, ImportReport.recovers.list.isPlain,
      DeclarationReport.recovers.list.isPlain])
  read?_write r := by
    have hrecord : record? ["name", "exports", "imports", "declarations"] 1 r.toJson =
        some [some (ofString r.name), some (ofOption (ofList ofString) r.exports),
          some (ofList ImportReport.toJson r.imports), some (ofList DeclarationReport.toJson r.declarations)] :=
      record?_ofFields 1 (by simp)
    simp [ofJson?, hrecord, required?, defaulted?, Recovers.string.read?_write,
      Recovers.string.list.optional?_ofOption rfl, ImportReport.recovers.list.read?_write,
      DeclarationReport.recovers.list.read?_write]

end ModuleReport

/-- Positions, packages, package databases, locations and reports are read back from their texts. -/
theorem readsBack_texts :
    ReadsBack (fun p : Position => p.toJson.text) (decode? Position.ofJson?) ∧
      ReadsBack (fun p : Package => p.toJson.text) (decode? Package.ofJson?) ∧
      ReadsBack (fun d : PackageDatabase => d.toJson.text) (decode? PackageDatabase.ofJson?) ∧
      ReadsBack (fun l : Location => l.toJson.text) (decode? Location.ofJson?) ∧
      ReadsBack (fun r : ModuleReport => r.toJson.text) ModuleReport.ofText? :=
  ⟨Position.recovers.readsBack, Package.recovers.readsBack, PackageDatabase.recovers.readsBack,
    Location.recovers.readsBack, ModuleReport.recovers.readsBack⟩

end SymbolGraph
