import Mathlib.Data.List.Basic
import SymbolGraph.OrderedMap

/-!
# Combining overrides into a map

Overrides come as one list for all keys. What they do to one key depends on the overrides of that key alone, taken
in their order, and no override moves a key. So the keys and the values can be told apart, and together they say
what the map is.
-/
namespace SymbolGraph.OrderedMap
variable {κ ν υ : Type} [DecidableEq κ] {m r r' : OrderedMap κ ν} {overrides : List (κ × υ)} {seed : ν}
  {f : ν → υ → ν} {k : κ}

def overridesOf (k : κ) (overrides : List (κ × υ)) : List υ := (overrides.filter (·.1 = k)).map Prod.snd

/-- The keys of the overrides that the map does not have, in the order of their first occurrence. -/
def newKeys (m : OrderedMap κ ν) (overrides : List (κ × υ)) : List κ :=
  ((overrides.map Prod.fst).filter (· ∉ m.keys)).eraseDups

/-! ## Maps are told by their keys and values -/

theorem entries_eq (m : OrderedMap κ ν) : m.entries = m.keys.filterMap fun k => (m.get? k).map (k, ·) := by
  have hsome : m.entries.filterMap some = m.entries := List.filterMap_some
  rw [keys, List.filterMap_map]
  refine hsome.symm.trans (List.filterMap_congr fun e he => ?_)
  have hget : m.get? e.1 = some e.2 := get?_eq_some_iff.2 he
  simp [hget]

theorem eq_of_get? (hkeys : r.keys = r'.keys) (hget : ∀ k ∈ r.keys, r.get? k = r'.get? k) : r = r' := by
  have hentries : r.entries = r'.entries := by
    rw [entries_eq r, entries_eq r', ← hkeys]
    exact List.filterMap_congr fun k hk => by rw [hget k hk]
  cases r
  cases r'
  congr

/-! ## One override after the other -/

theorem combine_cons (m : OrderedMap κ ν) (e : κ × υ) (overrides : List (κ × υ)) (seed : ν) (f : ν → υ → ν) :
    m.combine (e :: overrides) seed f = (m.alter e.1 fun v => f (v.getD seed) e.2).combine overrides seed f := rfl

theorem newKeys_cons_of_mem {e : κ × υ} (h : e.1 ∈ m.keys) (g : Option ν → ν) :
    m.newKeys (e :: overrides) = (m.alter e.1 g).newKeys overrides := by
  have hkeys : (m.alter e.1 g).keys = m.keys := by rw [keys_alter, if_pos h]
  rw [newKeys, newKeys, hkeys, List.map_cons, List.filter_cons_of_neg (by simpa using h)]

theorem newKeys_cons_of_not_mem {e : κ × υ} (h : e.1 ∉ m.keys) (g : Option ν → ν) :
    m.newKeys (e :: overrides) = e.1 :: (m.alter e.1 g).newKeys overrides := by
  have hkeys : (m.alter e.1 g).keys = m.keys ++ [e.1] := by rw [keys_alter, if_neg h]
  rw [newKeys, newKeys, hkeys, List.map_cons, List.filter_cons_of_pos (by simpa using h), List.eraseDups_cons,
    List.filter_filter]
  congr 2
  refine List.filter_congr fun k _ => ?_
  by_cases hk : k = e.1 <;> simp [hk]

theorem keys_combine (m : OrderedMap κ ν) (overrides : List (κ × υ)) (seed : ν) (f : ν → υ → ν) :
    (m.combine overrides seed f).keys = m.keys ++ m.newKeys overrides := by
  induction overrides generalizing m with
  | nil => simp [combine, newKeys]
  | cons e overrides ih =>
    rw [combine_cons, ih, keys_alter]
    by_cases h : e.1 ∈ m.keys
    · rw [if_pos h, ← newKeys_cons_of_mem h]
    · rw [if_neg h, newKeys_cons_of_not_mem h, List.append_assoc, List.singleton_append]

/-- The value of a key is combined with the overrides of that key only. -/
theorem get?_combine (m : OrderedMap κ ν) (overrides : List (κ × υ)) (seed : ν) (f : ν → υ → ν) (k : κ) :
    (m.combine overrides seed f).get? k =
      (overridesOf k overrides).foldl (fun v x => some (f (v.getD seed) x)) (m.get? k) := by
  induction overrides generalizing m with
  | nil => rfl
  | cons e overrides ih =>
    rw [combine_cons, ih, get?_alter]
    by_cases h : e.1 = k
    · subst h
      simp [overridesOf]
    · simp [overridesOf, h]

/-- Once a key has a value the seed is used no more. -/
theorem foldl_some (v : ν) (xs : List υ) :
    xs.foldl (fun v x => some (f (v.getD seed) x)) (some v) = some (xs.foldl f v) := by
  induction xs generalizing v with
  | nil => rfl
  | cons x xs ih => exact ih (f v x)

theorem overridesOf_of_not_mem (h : k ∉ overrides.map Prod.fst) : overridesOf k overrides = [] := by
  have hnone : ∀ e ∈ overrides, ¬decide (e.1 = k) = true := by
    intro e he hk
    exact h (of_decide_eq_true hk ▸ List.mem_map_of_mem he)
  rw [overridesOf, List.filter_eq_nil_iff.2 hnone, List.map_nil]

theorem get?_combine_of_mem (h : k ∈ (m.combine overrides seed f).keys) :
    (m.combine overrides seed f).get? k = some ((overridesOf k overrides).foldl f ((m.get? k).getD seed)) := by
  obtain ⟨v, hv⟩ := mem_keys.1 h
  rw [get?_combine] at hv ⊢
  cases hm : m.get? k with
  | some old => exact foldl_some old _
  | none =>
    -- a key without an old value is there only because of an override, which takes the seed
    cases hxs : overridesOf k overrides with
    | nil => simp [hm, hxs] at hv
    | cons x xs => exact foldl_some (f seed x) xs

/-- Combining overrides is a fold for each key: the result is the one map that has the old keys in their places with
the new ones behind them, and under each key the fold of its overrides over its old value, or over the seed if it had
none. Keys without overrides keep their values, and overrides may be combined in two goes. -/
theorem combine_folds_each_key (m : OrderedMap κ ν) (overrides : List (κ × υ)) (seed : ν) (f : ν → υ → ν) :
    (∀ r, r = m.combine overrides seed f ↔
      r.keys = m.keys ++ m.newKeys overrides ∧
        ∀ k ∈ r.keys, r.get? k = some ((overridesOf k overrides).foldl f ((m.get? k).getD seed))) ∧
    (∀ k, k ∉ overrides.map Prod.fst → (m.combine overrides seed f).get? k = m.get? k) ∧
    ∀ later, (m.combine overrides seed f).combine later seed f = m.combine (overrides ++ later) seed f := by
  have hkeys := keys_combine m overrides seed f
  refine ⟨fun r => ⟨?_, ?_⟩, fun k hk => ?_, fun later => ?_⟩
  · rintro rfl
    exact ⟨hkeys, fun k hk => get?_combine_of_mem hk⟩
  · rintro ⟨hr, hvalues⟩
    have hsame : r.keys = (m.combine overrides seed f).keys := hr.trans hkeys.symm
    refine eq_of_get? hsame fun k hk => ?_
    rw [hvalues k hk, get?_combine_of_mem (hsame ▸ hk)]
  · rw [get?_combine, overridesOf_of_not_mem hk, List.foldl_nil]
  · exact List.foldl_append.symm

/-- A known key takes two values, a new one takes the seed once, and a third key is left alone. -/
example :
    (ofList [("demo", ["Main"]), ("kept", ["Lib"])]).combine
        [("demo", "Utils"), ("fresh", "A"), ("demo", "Test"), ("fresh", "B")] [] (fun xs x => xs ++ [x]) =
      ofList [("demo", ["Main", "Utils", "Test"]), ("kept", ["Lib"]), ("fresh", ["A", "B"])] := by
  decide

end SymbolGraph.OrderedMap
