/-! # Maps that keep the order in which keys first came -/
namespace SymbolGraph

namespace Entries
variable {κ ν : Type} [DecidableEq κ]

def find? (k : κ) : List (κ × ν) → Option ν
  | [] => none
  | (x, v) :: rest => if x = k then some v else find? k rest

def alter (k : κ) (f : Option ν → ν) : List (κ × ν) → List (κ × ν)
  | [] => [(k, f none)]
  | (x, v) :: rest => if x = k then (x, f (some v)) :: rest else (x, v) :: alter k f rest

def erase (k : κ) : List (κ × ν) → List (κ × ν)
  | [] => []
  | (x, v) :: rest => if x = k then rest else (x, v) :: erase k rest

theorem find?_alter (k k' : κ) (f : Option ν → ν) (es : List (κ × ν)) :
    find? k' (alter k f es) = if k = k' then some (f (find? k es)) else find? k' es := by
  induction es with
  | nil => simp [alter, find?]
  | cons e es ih =>
    by_cases h : e.1 = k
    · by_cases hk : k = k' <;> simp [alter, find?, h, hk]
    · by_cases hk : e.1 = k'
      · subst hk
        simp [alter, find?, h, Ne.symm h]
      · simp [alter, find?, h, hk, ih]

theorem find?_eq_none_iff {k : κ} {es : List (κ × ν)} : find? k es = none ↔ k ∉ es.map Prod.fst := by
  induction es with
  | nil => simp [find?]
  | cons e es ih =>
    by_cases h : e.1 = k
    · simp [find?, h]
    · simp only [find?, h, if_false, ih, List.map_cons, List.mem_cons, not_or]
      exact ⟨fun hm => ⟨fun hk => h hk.symm, hm⟩, fun hm => hm.2⟩

theorem find?_eq_some_iff {k : κ} {v : ν} {es : List (κ × ν)} (hd : (es.map Prod.fst).Nodup) :
    find? k es = some v ↔ (k, v) ∈ es := by
  induction es with
  | nil => simp [find?]
  | cons e es ih =>
    rw [List.map_cons, List.nodup_cons] at hd
    by_cases h : e.1 = k
    · have hk : (k, v) ∉ es := fun hm => hd.1 (h ▸ List.mem_map_of_mem hm)
      simp [find?, h, hk, Prod.ext_iff, eq_comm]
    · simp [find?, h, ih hd.2, Prod.ext_iff, Ne.symm h]

theorem find?_erase (k k' : κ) {es : List (κ × ν)} (hd : (es.map Prod.fst).Nodup) :
    find? k' (erase k es) = if k = k' then none else find? k' es := by
  induction es with
  | nil => simp [erase, find?]
  | cons e es ih =>
    rw [List.map_cons, List.nodup_cons] at hd
    by_cases h : e.1 = k
    · by_cases hk : k = k'
      · subst hk
        simpa [erase, h] using find?_eq_none_iff.2 (h ▸ hd.1)
      · simp [erase, find?, h, hk]
    · by_cases hk : e.1 = k'
      · subst hk
        simp [erase, find?, h, Ne.symm h]
      · simp [erase, find?, h, hk, ih hd.2]

theorem keys_alter (k : κ) (f : Option ν → ν) (es : List (κ × ν)) :
    (alter k f es).map Prod.fst =
      if k ∈ es.map Prod.fst then es.map Prod.fst else es.map Prod.fst ++ [k] := by
  induction es with
  | nil => simp [alter]
  | cons e es ih =>
    by_cases h : e.1 = k
    · simp [alter, h]
    · by_cases hm : k ∈ es.map Prod.fst <;> simp_all [alter, Ne.symm h]

theorem alter_of_not_mem {k : κ} (f : Option ν → ν) {es : List (κ × ν)} (h : k ∉ es.map Prod.fst) :
    alter k f es = es ++ [(k, f none)] := by
  induction es with
  | nil => rfl
  | cons e es ih =>
    rw [List.map_cons, List.mem_cons, not_or] at h
    simp [alter, Ne.symm h.1, ih h.2]

theorem alter_alter (k : κ) (f g : Option ν → ν) (es : List (κ × ν)) :
    alter k f (alter k g es) = alter k (fun v => f (some (g v))) es := by
  induction es with
  | nil => simp [alter]
  | cons e es ih => by_cases h : e.1 = k <;> simp [alter, h, ih]

theorem keys_alter_nodup (k : κ) (f : Option ν → ν) {es : List (κ × ν)}
    (h : (es.map Prod.fst).Nodup) : ((alter k f es).map Prod.fst).Nodup := by
  rw [keys_alter]
  split
  · exact h
  · rename_i hk
    exact List.nodup_append.2 ⟨h, by simp, by
      intro a ha b hb
      have : b = k := by simpa using hb
      exact fun e => hk (this ▸ e ▸ ha)⟩

theorem keys_erase_sublist (k : κ) (es : List (κ × ν)) :
    ((erase k es).map Prod.fst).Sublist (es.map Prod.fst) := by
  induction es with
  | nil => exact .slnil
  | cons e es ih =>
    by_cases h : e.1 = k
    · simp [erase, h]
    · simpa [erase, h] using ih

end Entries

/-- Entries in the order of their first insertion, each key once. -/
structure OrderedMap (κ ν : Type) where
  entries : List (κ × ν)
  distinct : (entries.map Prod.fst).Nodup
  deriving DecidableEq, Repr

namespace OrderedMap
variable {κ ν : Type} [DecidableEq κ]

def empty : OrderedMap κ ν := ⟨[], .nil⟩

def keys (m : OrderedMap κ ν) : List κ := m.entries.map Prod.fst

def values (m : OrderedMap κ ν) : List ν := m.entries.map Prod.snd

def get? (m : OrderedMap κ ν) (k : κ) : Option ν := Entries.find? k m.entries

/-- Changes the value of `k` in its place, or adds one at the end. -/
def alter (m : OrderedMap κ ν) (k : κ) (f : Option ν → ν) : OrderedMap κ ν :=
  ⟨Entries.alter k f m.entries, Entries.keys_alter_nodup k f m.distinct⟩

/-- A known key keeps its place and takes the new value. -/
def insert (m : OrderedMap κ ν) (k : κ) (v : ν) : OrderedMap κ ν := m.alter k fun _ => v

/-- The keys behind `k` move up. -/
def erase (m : OrderedMap κ ν) (k : κ) : OrderedMap κ ν :=
  ⟨Entries.erase k m.entries, m.distinct.sublist (Entries.keys_erase_sublist k m.entries)⟩

def ofList (es : List (κ × ν)) : OrderedMap κ ν := es.foldl (fun m e => m.insert e.1 e.2) empty

/-- Combines each override into the value of its key, which is `seed` for a key seen for the first time. -/
def combine {υ : Type} (m : OrderedMap κ ν) (overrides : List (κ × υ)) (seed : ν)
    (f : ν → υ → ν) : OrderedMap κ ν :=
  overrides.foldl (fun m e => m.alter e.1 fun v => f (v.getD seed) e.2) m

@[simp] theorem get?_empty (k : κ) : (empty : OrderedMap κ ν).get? k = none := rfl

omit [DecidableEq κ] in
@[simp] theorem keys_empty : (empty : OrderedMap κ ν).keys = [] := rfl

theorem get?_alter (m : OrderedMap κ ν) (k k' : κ) (f : Option ν → ν) :
    (m.alter k f).get? k' = if k = k' then some (f (m.get? k)) else m.get? k' :=
  Entries.find?_alter k k' f m.entries

theorem get?_insert (m : OrderedMap κ ν) (k k' : κ) (v : ν) :
    (m.insert k v).get? k' = if k = k' then some v else m.get? k' :=
  m.get?_alter k k' fun _ => v

theorem get?_erase (m : OrderedMap κ ν) (k k' : κ) :
    (m.erase k).get? k' = if k = k' then none else m.get? k' :=
  Entries.find?_erase k k' m.distinct

theorem get?_eq_none_iff {m : OrderedMap κ ν} {k : κ} : m.get? k = none ↔ k ∉ m.keys :=
  Entries.find?_eq_none_iff

theorem get?_eq_some_iff {m : OrderedMap κ ν} {k : κ} {v : ν} : m.get? k = some v ↔ (k, v) ∈ m.entries :=
  Entries.find?_eq_some_iff m.distinct

theorem mem_keys {m : OrderedMap κ ν} {k : κ} : k ∈ m.keys ↔ ∃ v, m.get? k = some v := by
  simp [keys, get?_eq_some_iff]

theorem mem_values {m : OrderedMap κ ν} {v : ν} : v ∈ m.values ↔ ∃ k, m.get? k = some v := by
  simp [values, get?_eq_some_iff]

/-- A map that gives different keys different values has each value once. -/
theorem values_nodup {m : OrderedMap κ ν}
    (h : ∀ k k' v, m.get? k = some v → m.get? k' = some v → k = k') : m.values.Nodup := by
  refine List.pairwise_map.2 ((List.pairwise_map.1 m.distinct).imp_of_mem ?_)
  intro a b ha hb hne heq
  have ha' : m.get? a.1 = some a.2 := get?_eq_some_iff.2 ha
  have hb' : m.get? b.1 = some a.2 := get?_eq_some_iff.2 (heq ▸ hb)
  exact hne (h a.1 b.1 a.2 ha' hb')

theorem keys_alter (m : OrderedMap κ ν) (k : κ) (f : Option ν → ν) :
    (m.alter k f).keys = if k ∈ m.keys then m.keys else m.keys ++ [k] :=
  Entries.keys_alter k f m.entries

theorem keys_insert (m : OrderedMap κ ν) (k : κ) (v : ν) :
    (m.insert k v).keys = if k ∈ m.keys then m.keys else m.keys ++ [k] :=
  m.keys_alter k fun _ => v

theorem alter_alter (m : OrderedMap κ ν) (k : κ) (f g : Option ν → ν) :
    (m.alter k g).alter k f = m.alter k fun v => f (some (g v)) := by
  simp only [alter, Entries.alter_alter]

/-- The second of two values for a key is the one that stays. -/
theorem insert_insert (m : OrderedMap κ ν) (k : κ) (v w : ν) : (m.insert k v).insert k w = m.insert k w :=
  m.alter_alter k (fun _ => w) fun _ => v

theorem mem_keys_erase {m : OrderedMap κ ν} {k k' : κ} : k' ∈ (m.erase k).keys ↔ k ≠ k' ∧ k' ∈ m.keys := by
  by_cases h : k = k' <;> simp [mem_keys, get?_erase, h]

theorem entries_insert_of_not_mem {m : OrderedMap κ ν} {k : κ} (h : k ∉ m.keys) (v : ν) :
    (m.insert k v).entries = m.entries ++ [(k, v)] :=
  Entries.alter_of_not_mem _ h

end OrderedMap
end SymbolGraph
