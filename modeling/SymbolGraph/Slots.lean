/-! # Arenas: values under slot numbers that stay the same -/
namespace SymbolGraph

/-- Slots are numbered from zero; an emptied slot keeps its number. -/
structure Slots (α : Type) where
  cells : Array (Option α) := #[]
  deriving DecidableEq, Repr

namespace Slots
variable {α : Type}

def empty : Slots α := ⟨#[]⟩

def size (s : Slots α) : Nat := s.cells.size

def get? (s : Slots α) (i : Nat) : Option α := (s.cells[i]?).join

def push (s : Slots α) (a : α) : Slots α := ⟨s.cells.push (some a)⟩

def set (s : Slots α) (i : Nat) (a : α) : Slots α := ⟨s.cells.setIfInBounds i (some a)⟩

def clear (s : Slots α) (i : Nat) : Slots α := ⟨s.cells.setIfInBounds i none⟩

/-- The filled slots with their numbers, in increasing order. -/
def live (s : Slots α) : List (Nat × α) :=
  (List.range s.size).filterMap fun i => (s.get? i).map fun a => (i, a)

def count (s : Slots α) : Nat := s.live.length

@[simp] theorem get?_empty (i : Nat) : (empty : Slots α).get? i = none := by simp [get?, empty]

theorem get?_push (s : Slots α) (a : α) (i : Nat) :
    (s.push a).get? i = if i = s.size then some a else s.get? i := by
  by_cases h : i = s.cells.size <;> simp [get?, push, size, Array.getElem?_push, h]

theorem get?_set (s : Slots α) (i : Nat) (a : α) (j : Nat) (h : i < s.size) :
    (s.set i a).get? j = if i = j then some a else s.get? j := by
  simp only [get?, set, Array.getElem?_setIfInBounds]
  split
  · rename_i hij
    subst hij
    simp [show i < s.cells.size from h]
  · rfl

theorem get?_clear (s : Slots α) (i j : Nat) :
    (s.clear i).get? j = if i = j then none else s.get? j := by
  simp only [get?, clear, Array.getElem?_setIfInBounds]
  split
  · split <;> rfl
  · rfl

@[simp] theorem size_push (s : Slots α) (a : α) : (s.push a).size = s.size + 1 := by simp [size, push]

@[simp] theorem size_set (s : Slots α) (i : Nat) (a : α) : (s.set i a).size = s.size := by
  simp [size, set]

@[simp] theorem size_clear (s : Slots α) (i : Nat) : (s.clear i).size = s.size := by simp [size, clear]

theorem lt_size_of_get? {s : Slots α} {i : Nat} {a : α} (h : s.get? i = some a) : i < s.size := by
  refine Nat.lt_of_not_le fun hle => ?_
  rw [get?, Array.getElem?_eq_none hle] at h
  exact nomatch h

theorem mem_live {s : Slots α} {i : Nat} {a : α} : (i, a) ∈ s.live ↔ s.get? i = some a := by
  simp only [live, List.mem_filterMap, List.mem_range, Option.map_eq_some_iff, Prod.mk.injEq]
  constructor
  · rintro ⟨j, _, b, hb, rfl, rfl⟩
    exact hb
  · intro h
    exact ⟨i, lt_size_of_get? h, a, h, rfl, rfl⟩

theorem count_eq (s : Slots α) : s.count = (List.range s.size).countP fun i => (s.get? i).isSome := by
  simp [count, live, List.length_filterMap_eq_countP]

theorem live_ascending (s : Slots α) : s.live.Pairwise fun p q => p.1 < q.1 := by
  refine List.pairwise_lt_range.filterMap _ fun i j hij p hp q hq => ?_
  obtain ⟨a, -, rfl⟩ := Option.map_eq_some_iff.1 hp
  obtain ⟨b, -, rfl⟩ := Option.map_eq_some_iff.1 hq
  exact hij

end Slots
end SymbolGraph
