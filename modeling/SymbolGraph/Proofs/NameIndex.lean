import Mathlib.Data.List.Sort
import Mathlib.Order.Bounds.Defs
import SymbolGraph.Proofs.ModuleSlots

/-!
# The index of modules by name

The index is kept up to date by every call, so what it has for a name is what a walk over the module slots
would find.
-/
namespace SymbolGraph.SymbolTable
variable {t t' : SymbolTable} {m : Module} {id : ModuleId}

/-- The index has the modules of each name, in the order of their slots. -/
structure Indexed (t : SymbolTable) : Prop where
  mem_iff : ∀ {n id}, id ∈ (t.byName.get? n).getD [] ↔ ∃ b, t.bareModule? id = some b ∧ b.name = n
  ascending : ∀ n, ((t.byName.get? n).getD []).Pairwise fun a b => a.index < b.index

namespace Indexed

theorem lt_size (h : Indexed t) {n : String} {id : ModuleId} (hid : id ∈ (t.byName.get? n).getD []) :
    id.index < t.modules.size := by
  obtain ⟨b, hb, -⟩ := h.mem_iff.1 hid
  obtain ⟨m, hm, -⟩ := Option.map_eq_some_iff.1 hb
  exact Slots.lt_size_of_get? hm

theorem filled (h : Indexed t) {m : Module}
    (hindex : t'.byName = t.byName.alter m.name fun ids => ids.getD [] ++ [⟨t.modules.size⟩])
    (hmod : ∀ j, t'.bareModule? j = if j = ⟨t.modules.size⟩ then some m else t.bareModule? j) :
    Indexed t' := by
  have hne {n id} (hid : id ∈ (t.byName.get? n).getD []) : id ≠ ⟨t.modules.size⟩ := by
    rintro rfl
    exact Nat.lt_irrefl _ (h.lt_size hid)
  constructor
  · intro n id
    rw [hindex, OrderedMap.get?_alter, hmod]
    by_cases hid : id = ⟨t.modules.size⟩
    · subst hid
      have hold : (⟨t.modules.size⟩ : ModuleId) ∉ (t.byName.get? n).getD [] := fun hid => hne hid rfl
      by_cases hn : m.name = n <;> simp [hn, hold]
    · rw [if_neg hid, ← h.mem_iff]
      by_cases hn : m.name = n
      · subst hn
        simp [hid]
      · simp [hn]
  · intro n
    rw [hindex, OrderedMap.get?_alter]
    by_cases hn : m.name = n
    · subst hn
      rw [if_pos rfl, Option.getD_some]
      refine List.pairwise_append.2 ⟨h.ascending _, by simp, fun a ha b hb => ?_⟩
      rw [List.mem_singleton.1 hb]
      exact h.lt_size ha
    · rw [if_neg hn]
      exact h.ascending n

theorem emptied (h : Indexed t) {id : ModuleId} {m : Module} (hold : t.bareModule? id = some m)
    (hindex : t'.byName = t.byName.alter m.name fun ids => (ids.getD []).filter (· ≠ id))
    (hmod : ∀ j, t'.bareModule? j = if j = id then none else t.bareModule? j) : Indexed t' := by
  constructor
  · intro n id'
    rw [hindex, OrderedMap.get?_alter, hmod]
    by_cases hid : id' = id
    · subst hid
      by_cases hn : m.name = n
      · simp [hn]
      · have hnot : id' ∉ (t.byName.get? n).getD [] := by
          intro hmem
          obtain ⟨b, hb, hbn⟩ := h.mem_iff.1 hmem
          obtain rfl : b = m := Option.some.inj (hb.symm.trans hold)
          exact hn hbn
        simp [hn, hnot]
    · rw [if_neg hid, ← h.mem_iff]
      by_cases hn : m.name = n
      · subst hn
        simp [hid]
      · simp [hn]
  · intro n
    rw [hindex, OrderedMap.get?_alter]
    by_cases hn : m.name = n
    · subst hn
      rw [if_pos rfl, Option.getD_some]
      exact (h.ascending _).filter _
    · rw [if_neg hn]
      exact h.ascending n

theorem change (h : Indexed t) (hc : SlotChange t t') : Indexed t' := by
  cases hc with
  | unchanged hsize hindex hmod =>
    refine ⟨fun {n id} => ?_, by simpa only [hindex] using h.ascending⟩
    rw [hindex, hmod, h.mem_iff]
  | filled m hsize hindex hmod => exact h.filled hindex hmod
  | renewed id old new hold hsame hsize hindex hmod =>
    refine ⟨fun {n id'} => ?_, by simpa only [hindex] using h.ascending⟩
    rw [hindex, hmod, h.mem_iff]
    by_cases hid : id' = id
    · subst hid
      simp [hold, Module.name_of_same hsame]
    · rw [if_neg hid]
  | emptied id m hold hsize hindex hmod => exact h.emptied hold hindex hmod

theorem mem_modulesNamed (h : Indexed t) {n : String} {id : ModuleId} {m : Module} :
    (id, m) ∈ t.modulesNamed n ↔ t.module? id = some m ∧ m.name = n := by
  simp only [modulesNamed, List.mem_filterMap, Option.map_eq_some_iff, Prod.mk.injEq]
  constructor
  · rintro ⟨id', hid, m', hm, rfl, rfl⟩
    obtain ⟨b, hb, hname⟩ := h.mem_iff.1 hid
    obtain rfl := Option.some.inj ((bareModule?_of_module? hm).symm.trans hb)
    exact ⟨hm, hname⟩
  · rintro ⟨hm, hname⟩
    exact ⟨id, h.mem_iff.2 ⟨_, bareModule?_of_module? hm, hname⟩, m, hm, rfl, rfl⟩

theorem modulesNamed_ascending (h : Indexed t) (n : String) :
    (t.modulesNamed n).Pairwise fun p q => p.1.index < q.1.index := by
  refine (h.ascending n).filterMap _ fun a b hab p hp q hq => ?_
  obtain ⟨m, -, rfl⟩ := Option.map_eq_some_iff.1 hp
  obtain ⟨k, -, rfl⟩ := Option.map_eq_some_iff.1 hq
  exact hab

end Indexed

theorem indexed_empty : Indexed empty := by
  have hb (id : ModuleId) : empty.bareModule? id = none := congrArg (Option.map _) (Slots.get?_empty _)
  have hn (n : String) : empty.byName.get? n = none := rfl
  constructor <;> simp [hb, hn]

theorem indexed_run (ops : List Operation) : Indexed (empty.run ops) :=
  run_induction (fun t op _ h => h.change (slotChange_step t op)) indexed_empty

/-! ## A scan over the slots -/

theorem mem_liveModules : (id, m) ∈ t.liveModules ↔ t.module? id = some m := by
  have hlive : (id.index, m) ∈ t.modules.live ↔ t.module? id = some m := Slots.mem_live
  simp only [liveModules, List.mem_map, Prod.mk.injEq]
  constructor
  · rintro ⟨p, hp, rfl, rfl⟩
    exact hlive.1 hp
  · intro hm
    exact ⟨_, hlive.2 hm, rfl, rfl⟩

theorem liveModules_ascending (t : SymbolTable) :
    t.liveModules.Pairwise fun p q => p.1.index < q.1.index :=
  List.pairwise_map.2 t.modules.live_ascending

theorem eq_of_ascending {l l' : List (ModuleId × Module)} (h : l.Pairwise fun p q => p.1.index < q.1.index)
    (h' : l'.Pairwise fun p q => p.1.index < q.1.index) (hmem : ∀ p, p ∈ l ↔ p ∈ l') : l = l' := by
  have hirrefl : Std.Irrefl fun p q : ModuleId × Module => p.1.index < q.1.index :=
    ⟨fun p => Nat.lt_irrefl p.1.index⟩
  have hantisymm : Std.Antisymm fun p q : ModuleId × Module => p.1.index < q.1.index :=
    ⟨fun p q hpq hqp => absurd hqp (Nat.lt_asymm hpq)⟩
  exact h.eq_of_mem_iff h' hmem

/-- The index has for a name what a scan finds for it. -/
theorem Indexed.modulesNamed_eq_filter (h : Indexed t) (n : String) :
    t.modulesNamed n = t.liveModules.filter (·.2.name = n) := by
  refine eq_of_ascending (h.modulesNamed_ascending n) ((liveModules_ascending t).filter _) ?_
  rintro ⟨id, m⟩
  rw [h.mem_modulesNamed, List.mem_filter, mem_liveModules, decide_eq_true_eq]

/-- In a list that ascends, the first answer is that of the lowest slot. -/
theorem findSome?_of_ascending {α : Type} {l : List (ModuleId × Module)}
    (h : l.Pairwise fun p q => p.1.index < q.1.index) {f : ModuleId × Module → Option α} {r : α} :
    l.findSome? f = some r ↔
      ∃ p ∈ l, f p = some r ∧ ∀ p' ∈ l, p'.1.index < p.1.index → f p' = none := by
  induction l with
  | nil => simp
  | cons p l ih =>
    obtain ⟨hp, hl⟩ := List.pairwise_cons.1 h
    rw [List.findSome?_cons]
    cases hf : f p with
    | none =>
      rw [ih hl]
      constructor
      · rintro ⟨p', hp', hr, hfirst⟩
        refine ⟨p', by simp [hp'], hr, fun k hk hlt => ?_⟩
        rcases List.mem_cons.1 hk with rfl | hk
        · exact hf
        · exact hfirst k hk hlt
      · rintro ⟨p', hp', hr, hfirst⟩
        rcases List.mem_cons.1 hp' with rfl | hp'
        · simp [hf] at hr
        · exact ⟨p', hp', hr, fun k hk => hfirst k (by simp [hk])⟩
    | some a =>
      constructor
      · rintro ha
        refine ⟨p, by simp, hf.trans ha, fun k hk hlt => ?_⟩
        rcases List.mem_cons.1 hk with rfl | hk
        · exact absurd hlt (Nat.lt_irrefl _)
        · exact absurd hlt (Nat.not_lt_of_gt (hp k hk))
      · rintro ⟨p', hp', hr, hfirst⟩
        rcases List.mem_cons.1 hp' with rfl | hp'
        · exact hf.symm.trans hr
        · simp [hfirst p (by simp) (hp p' hp')] at hf

def HoldsSame (t : SymbolTable) (m : Module) (id : ModuleId) : Prop :=
  ∃ b, t.bareModule? id = some b ∧ b.same m = true

theorem holdsSame_iff_module? : HoldsSame t m id ↔ ∃ k, t.module? id = some k ∧ k.same m = true := by
  constructor
  · rintro ⟨b, hb, hs⟩
    obtain ⟨k, hk, rfl⟩ := Option.map_eq_some_iff.1 hb
    exact ⟨k, hk, hs⟩
  · rintro ⟨k, hk, hs⟩
    exact ⟨_, bareModule?_of_module? hk, hs⟩

theorem Indexed.holdsSame_iff (h : Indexed t) :
    HoldsSame t m id ↔ ∃ k, (id, k) ∈ t.modulesNamed m.name ∧ k.same m = true := by
  rw [holdsSame_iff_module?]
  refine exists_congr fun k => ?_
  rw [h.mem_modulesNamed]
  constructor
  · rintro ⟨hk, hs⟩
    exact ⟨⟨hk, Module.name_of_same hs⟩, hs⟩
  · rintro ⟨⟨hk, -⟩, hs⟩
    exact ⟨hk, hs⟩

/-- The twin of a module is in the lowest slot that holds the same module. -/
theorem Indexed.moduleTwin?_eq_some_iff (h : Indexed t) : t.moduleTwin? m = some id ↔
    HoldsSame t m id ∧ ∀ j, j.index < id.index → ¬HoldsSame t m j := by
  have hfind : t.moduleTwin? m =
      (t.modulesNamed m.name).findSome? fun p => if p.2.same m then some p.1 else none := by
    rw [moduleTwin?, List.find?_eq_findSome?_guard, List.map_findSome?]
    refine congrArg (List.findSome? · _) (funext fun p => ?_)
    by_cases hp : p.2.same m = true <;> simp [Option.guard, hp]
  rw [hfind, findSome?_of_ascending (h.modulesNamed_ascending _)]
  simp only [h.holdsSame_iff]
  constructor
  · rintro ⟨⟨id', k⟩, hk, hid, hfirst⟩
    obtain ⟨hs, rfl⟩ : k.same m = true ∧ id' = id := by simpa using hid
    refine ⟨⟨k, hk, hs⟩, ?_⟩
    rintro j hlt ⟨k', hk', hs'⟩
    simpa [hs'] using hfirst (j, k') hk' hlt
  · rintro ⟨⟨k, hk, hs⟩, hfirst⟩
    refine ⟨(id, k), hk, by simp [hs], ?_⟩
    rintro ⟨j, k'⟩ hk' hlt
    simpa using fun hs' => hfirst j hlt ⟨k', hk', hs'⟩

theorem Indexed.moduleTwin?_eq_none_iff (h : Indexed t) :
    t.moduleTwin? m = none ↔ ∀ id, ¬HoldsSame t m id := by
  simp only [h.holdsSame_iff, moduleTwin?, Option.map_eq_none_iff, List.find?_eq_none]
  constructor
  · rintro hnone id ⟨k, hk, hs⟩
    exact hnone (id, k) hk hs
  · rintro hnone ⟨id, k⟩ hk hs
    exact hnone id ⟨k, hk, hs⟩

/-- After any run the index agrees with a scan over all modules: for each name it has the modules of that name, each
once and by increasing id, and the twin of a module is the one with the least id among all that are the same, if
there is any. -/
theorem index_agrees_with_scan (ops : List Operation) :
    (∀ n, (empty.run ops).modulesNamed n = (empty.run ops).liveModules.filter (·.2.name = n) ∧
      ((empty.run ops).modulesNamed n).Pairwise fun p q => p.1.index < q.1.index) ∧
    (∀ m id, (empty.run ops).moduleTwin? m = some id ↔
      IsLeast {i | ∃ k, (empty.run ops).module? ⟨i⟩ = some k ∧ k.same m = true} id.index) ∧
    ∀ m, (empty.run ops).moduleTwin? m = none ↔
      ∀ id k, (empty.run ops).module? id = some k → k.same m = false := by
  have h := indexed_run ops
  generalize empty.run ops = t at h
  refine ⟨fun n => ⟨h.modulesNamed_eq_filter n, h.modulesNamed_ascending n⟩, fun m id => ?_, fun m => ?_⟩
  · rw [h.moduleTwin?_eq_some_iff]
    simp only [holdsSame_iff_module?]
    refine and_congr_right fun _ => ⟨fun hfirst i hi => ?_, fun hleast j hlt hj => ?_⟩
    · exact Nat.le_of_not_lt fun hlt => hfirst ⟨i⟩ hlt hi
    · exact Nat.not_le_of_gt hlt (hleast hj)
  · simp only [h.moduleTwin?_eq_none_iff, holdsSame_iff_module?]
    simp

/-- Of three modules that are the same, the one that is left with the least id is found. -/
example :
    let m : Module := { name := "A" }
    let t := empty.run [.insertModule m, .insertModule m, .eraseModule ⟨0⟩, .insertModule m]
    (t.modulesNamed "A").map Prod.fst = [⟨1⟩, ⟨2⟩] ∧ t.moduleTwin? m = some ⟨1⟩ := by
  decide +zetaReduce

end SymbolGraph.SymbolTable
