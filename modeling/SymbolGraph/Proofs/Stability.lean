import SymbolGraph.Proofs.Frame

/-!
# Ids stay what they are

A module id stands for one module as long as the module is there, and for none once it was removed. A name that
stays in a module keeps its slot from one call to the next, and a detached declaration keeps it for good.
-/
namespace SymbolGraph.SymbolTable
variable {t t' : SymbolTable} {id : ModuleId}

theorem run_append (t : SymbolTable) (ops later : List Operation) :
    t.run (ops ++ later) = (t.run ops).run later := List.foldl_append

/-! ## Module ids -/

/-- The slot was filled once and is empty. -/
def Retired (t : SymbolTable) (id : ModuleId) : Prop :=
  id.index < t.modules.size ∧ t.module? id = none

theorem bareModule?_eq_none_iff : t.bareModule? id = none ↔ t.module? id = none := Option.map_eq_none_iff

theorem lt_size_of_bareModule? {b : Module} (h : t.bareModule? id = some b) : id.index < t.modules.size := by
  obtain ⟨m, hm, -⟩ := Option.map_eq_some_iff.1 h
  exact Slots.lt_size_of_get? hm

theorem Retired.change (h : Retired t id) (hc : SlotChange t t') : Retired t' id := by
  obtain ⟨hlt, hnone⟩ := h
  rw [← bareModule?_eq_none_iff] at hnone
  rw [Retired, ← bareModule?_eq_none_iff]
  cases hc with
  | unchanged hsize hindex hmod => exact ⟨hsize ▸ hlt, (hmod id).trans hnone⟩
  | filled m hsize hindex hmod =>
    have hne : id ≠ ⟨t.modules.size⟩ := by
      rintro rfl
      exact Nat.lt_irrefl _ hlt
    exact ⟨by omega, by rw [hmod, if_neg hne, hnone]⟩
  | renewed id' old new hold hsame hsize hindex hmod =>
    have hne : id ≠ id' := by
      rintro rfl
      simp [hnone] at hold
    exact ⟨hsize ▸ hlt, by rw [hmod, if_neg hne, hnone]⟩
  | emptied id' m hold hsize hindex hmod =>
    refine ⟨hsize ▸ hlt, ?_⟩
    rw [hmod, hnone, ite_self]

/-- A module that is renewed keeps its name and its origin. -/
theorem SlotChange.keeps {b : Module} (hc : SlotChange t t') (hb : t.bareModule? id = some b) :
    Retired t' id ∨ ∃ b', t'.bareModule? id = some b' ∧ b'.name = b.name ∧ b'.origin? = b.origin? := by
  have hlt := lt_size_of_bareModule? hb
  cases hc with
  | unchanged hsize hindex hmod => exact .inr ⟨b, (hmod id).trans hb, rfl, rfl⟩
  | filled m hsize hindex hmod =>
    have hne : id ≠ ⟨t.modules.size⟩ := by
      rintro rfl
      exact Nat.lt_irrefl _ hlt
    exact .inr ⟨b, by rw [hmod, if_neg hne, hb], rfl, rfl⟩
  | renewed id' old new hold hsame hsize hindex hmod =>
    by_cases hid : id = id'
    · subst hid
      obtain rfl : old = b := Option.some.inj (hold.symm.trans hb)
      obtain ⟨hname, o, ho, ho'⟩ := Module.same_iff_origin.1 hsame
      exact .inr ⟨new, by rw [hmod, if_pos rfl], hname.symm, ho'.trans ho.symm⟩
    · exact .inr ⟨b, by rw [hmod, if_neg hid, hb], rfl, rfl⟩
  | emptied id' m hold hsize hindex hmod =>
    by_cases hid : id = id'
    · exact .inl ⟨hsize ▸ hlt, bareModule?_eq_none_iff.1 (by rw [hmod, if_pos hid])⟩
    · exact .inr ⟨b, by rw [hmod, if_neg hid, hb], rfl, rfl⟩

theorem Retired.run (h : Retired t id) (ops : List Operation) : Retired (t.run ops) id :=
  run_induction (P := fun t => Retired t id) (fun t op _ h => h.change (slotChange_step t op)) h

theorem retired_or_kept_run {b : Module} (hb : t.bareModule? id = some b) (ops : List Operation) :
    Retired (t.run ops) id ∨
      ∃ b', (t.run ops).bareModule? id = some b' ∧ b'.name = b.name ∧ b'.origin? = b.origin? := by
  refine run_induction (P := fun t => Retired t id ∨
    ∃ b', t.bareModule? id = some b' ∧ b'.name = b.name ∧ b'.origin? = b.origin?) ?_ (.inr ⟨b, hb, rfl, rfl⟩)
  rintro t op - (hgone | ⟨b', hb', hname, horigin⟩)
  · exact .inl (hgone.change (slotChange_step t op))
  · refine ((slotChange_step t op).keeps hb').imp_right ?_
    rintro ⟨b'', hb'', hname', horigin'⟩
    exact ⟨b'', hb'', hname'.trans hname, horigin'.trans horigin⟩

/-- No call gives or takes the module id any more. -/
structure Gone (t : SymbolTable) (id : ModuleId) : Prop where
  module : t.module? id = none
  insertModule : ∀ m, (t.insertModule m).1 ≠ id
  absorbModule : ∀ m ds, (t.absorbModule m ds).1 ≠ .ok id
  absorbReport : ∀ r location time, (t.absorbReport r location time).1 ≠ .ok id
  insertDeclaration : ∀ d, (t.insertDeclaration id d).1 = .error (.unknownModule id)

theorem Retired.slotFor_ne (h : Retired t id) (m : Module) : t.slotFor m ≠ id := by
  rintro rfl
  cases htwin : t.moduleTwin? m with
  | none =>
    have hlt := h.1
    simp [slotFor, htwin] at hlt
  | some id =>
    obtain ⟨k, hk, -⟩ := mem_of_moduleTwin? htwin
    have hnone := h.2
    simp [slotFor, htwin, hk] at hnone

theorem Retired.gone (h : Retired t id) : Gone t id where
  module := h.2
  insertModule m := by
    rintro rfl
    exact Nat.lt_irrefl _ h.1
  absorbModule m ds hok := h.slotFor_ne m (absorbModule_ok hok).1.symm
  absorbReport r location time hok := h.slotFor_ne _ (absorbModule_ok hok).1.symm
  insertDeclaration d := insertDeclaration_error_iff.2 (.inl ⟨h.2, rfl⟩)

theorem retired_eraseModule {m : Module} (h : (t.eraseModule id).1 = some m) :
    Retired (t.eraseModule id).2 id := by
  obtain ⟨hm, hgone⟩ := module?_eraseModule t id
  have hb := bareModule?_of_module? (hm.symm.trans h)
  rcases (slotChange_eraseModule t id).keeps hb with hret | ⟨b', hb', -⟩
  · exact hret
  · rw [bareModule?_eq_none_iff.2 hgone] at hb'
    cases hb'

/-! ## Declaration ids -/

theorem Lists.unique {n : String} {i j : DeclarationId} (hi : t.Lists id n i) (hj : t.Lists id n j) : i = j := by
  obtain ⟨m, hm, hi⟩ := hi
  rw [lists_iff hm] at hj
  exact Option.some.inj (hi.symm.trans hj)

theorem Linked.lists_insertDeclaration {st : List (ModuleId × String)} (h : Linked t [] st) {d : Declaration}
    {id' : ModuleId} {n : String} {i : DeclarationId} (hl : t.Lists id' n i) :
    (t.insertDeclaration id d).2.Lists id' n i := by
  cases hr : (t.insertDeclaration id d).1 with
  | error e => rwa [insertDeclaration_unchanged hr]
  | ok j =>
    obtain ⟨hlive, hpass⟩ := insertDeclaration_ok_iff.1 ⟨j, hr⟩
    obtain ⟨m, hm⟩ := Option.isSome_iff_exists.1 hlive
    obtain ⟨j', hlists, -⟩ := h.insertDeclaration_slot hm hpass
    exact (hlists id' n i).2 (.inl hl)

theorem Linked.lists_insertDeclarations {ds : List Declaration}
    (h : Linked t [] (ds.map fun d => (id, d.name))) (hlive : (t.module? id).isSome)
    (hpass : ∀ d ∈ ds, d.refusal? id = none) {n : String} {i : DeclarationId} (hl : t.Lists id n i) :
    (t.insertDeclarations id ds).2.Lists id n i := by
  have hrun := insertDeclarations_induction (P := fun t' ds' =>
    Linked t' [] (ds'.map fun d => (id, d.name)) ∧ t'.Lists id n i) ?_ hlive hpass ⟨h, hl⟩
  · exact hrun.2.2
  · rintro t' d ds' hm hd ⟨hl', hi⟩
    rw [List.map_cons] at hl'
    exact ⟨hl'.insertDeclaration hm hd, hl'.lists_insertDeclaration hi⟩

/-- Names that are listed before and after have the same slot. -/
def KeepsSlots (t t' : SymbolTable) : Prop :=
  ∀ id n i j, t.Lists id n i → t'.Lists id n j → i = j

theorem keepsSlots_of_forward (h : ∀ id n i, t.Lists id n i → t'.Lists id n i) : KeepsSlots t t' :=
  fun id n i _ hi hj => (h id n i hi).unique hj

theorem keepsSlots_of_backward (h : ∀ id n i, t'.Lists id n i → t.Lists id n i) : KeepsSlots t t' :=
  fun id n _ j hi hj => hi.unique (h id n j hj)

theorem keepsSlots_insertModule (t : SymbolTable) (m : Module) : KeepsSlots t (t.insertModule m).2 := by
  refine keepsSlots_of_backward fun id n i hl => ?_
  obtain ⟨m', hm', hn⟩ := hl
  rw [module?_insertModule] at hm'
  split at hm'
  · obtain rfl := Option.some.inj hm'
    cases hn
  · exact ⟨m', hm', hn⟩

theorem keepsSlots_eraseModule (t : SymbolTable) (id : ModuleId) : KeepsSlots t (t.eraseModule id).2 := by
  obtain ⟨-, heq⟩ | ⟨m, hm, heq⟩ := t.eraseModule_cases id
  · rw [heq]
    exact keepsSlots_of_forward fun _ _ _ hl => hl
  · refine keepsSlots_of_backward fun id' n i hl => ?_
    obtain ⟨m', hm', hn⟩ := hl
    rw [heq, module?_foldl_release, module?_clearModule] at hm'
    split at hm'
    · cases hm'
    · exact ⟨m', hm', hn⟩

theorem Linked.keepsSlots_insertDeclaration (h : Linked t [] []) (id : ModuleId) (d : Declaration) :
    KeepsSlots t (t.insertDeclaration id d).2 :=
  keepsSlots_of_forward fun _ _ _ hl => h.lists_insertDeclaration hl

theorem Linked.keepsSlots_absorbDeclaration (h : Linked t [] []) (d : Declaration) :
    KeepsSlots t (t.absorbDeclaration d).2 := by
  cases ho : d.owner with
  | some id =>
    rw [absorbDeclaration_owned ho]
    exact h.keepsSlots_insertDeclaration id d
  | none =>
    obtain ⟨i, -, hstored⟩ := h.storedDetached_absorbDeclaration ho
    have hmod (j : ModuleId) : (t.absorbDeclaration d).2.module? j = t.module? j := by
      rw [module?, hstored.modules, module?]
    exact keepsSlots_of_forward fun id n j hl => by rwa [Lists, hmod]

theorem mem_names_of_lastNamed {ds : List Declaration} {n : String} {d : Declaration}
    (h : lastNamed ds n = some d) : n ∈ ds.map Declaration.name :=
  List.mem_map.2 ⟨d, mem_of_lastNamed h⟩

theorem Linked.keepsSlots_absorbModule (h : Linked t [] []) (m : Module) (ds : List Declaration) :
    KeepsSlots t (t.absorbModule m ds).2 := by
  intro id n i j hi hj
  cases hr : (t.absorbModule m ds).1 with
  | error e =>
    rw [absorbModule_unchanged hr] at hj
    exact hi.unique hj
  | ok target =>
    by_cases hid : id = target
    · subst hid
      -- a name that is listed after the call is declared again, so it was kept
      obtain ⟨-, d, hd, -⟩ := (h.absorbModule m ds).listed hj
      have hfound := h.lookup?_absorbModule hr n
      rw [lookup?_eq_some_iff.2 ⟨hj, hd⟩, Option.map_some] at hfound
      obtain ⟨given, hgiven, -⟩ := Option.map_eq_some_iff.1 hfound.symm
      obtain ⟨rfl, hpass, heq⟩ := absorbModule_ok hr
      have hkept := (lists_prepared t m ds n i).2 ⟨mem_names_of_lastNamed hgiven, hi⟩
      have hi' := (h.prepared m ds).lists_insertDeclarations (t.isSome_module?_prepared m ds) hpass hkept
      rw [heq] at hj
      exact hi'.unique hj
    · obtain ⟨m', hm', hn⟩ := hj
      rw [(h.agreeOutside_absorbModule hr).modules id hid] at hm'
      exact hi.unique ⟨m', hm', hn⟩

theorem Linked.keepsSlots_step (h : Linked t [] []) (op : Operation) : KeepsSlots t (t.step op) := by
  cases op with
  | insertModule m => exact keepsSlots_insertModule t m
  | absorbModule m ds => exact h.keepsSlots_absorbModule m ds
  | absorbReport r location time => exact h.keepsSlots_absorbModule _ _
  | eraseModule id => exact keepsSlots_eraseModule t id
  | insertDeclaration id d => exact h.keepsSlots_insertDeclaration id d
  | absorbDeclaration d => exact h.keepsSlots_absorbDeclaration d

def HasDetached (t : SymbolTable) (i : DeclarationId) (n : String) : Prop :=
  ∃ d, t.declaration? i = some d ∧ d.owner = none ∧ d.name = n

theorem AgreeOutside.hasDetached (h : AgreeOutside t t' id) {i : DeclarationId} {n : String}
    (hd : HasDetached t i n) : HasDetached t' i n := by
  obtain ⟨d, hd, ho, hn⟩ := hd
  exact ⟨d, (h.declarations i d (by simp [ho])).2 hd, ho, hn⟩

theorem Linked.hasDetached_absorbModule (h : Linked t [] []) (m : Module) (ds : List Declaration)
    {i : DeclarationId} {n : String} (hd : HasDetached t i n) : HasDetached (t.absorbModule m ds).2 i n := by
  cases hr : (t.absorbModule m ds).1 with
  | error e => rwa [absorbModule_unchanged hr]
  | ok id => exact (h.agreeOutside_absorbModule hr).hasDetached hd

/-- A detached declaration is only ever written over by one of its name. -/
theorem Linked.hasDetached_absorbDeclaration (h : Linked t [] []) (d : Declaration) {i : DeclarationId}
    {n : String} (hd : HasDetached t i n) : HasDetached (t.absorbDeclaration d).2 i n := by
  cases ho : d.owner with
  | some id =>
    rw [absorbDeclaration_owned ho]
    exact (h.agreeOutside_insertDeclaration id d).hasDetached hd
  | none =>
    obtain ⟨e, he, heo, hn⟩ := hd
    obtain ⟨j, -, hstored⟩ := h.storedDetached_absorbDeclaration ho
    by_cases hij : i = j
    · subst hij
      rcases hstored.slot with ⟨⟨known, hk, -, hname⟩, -⟩ | ⟨-, hempty, -⟩
      · obtain rfl : known = e := Option.some.inj (hk.symm.trans he)
        exact ⟨d, hstored.written, ho, hname.symm.trans hn⟩
      · simp [hempty] at he
    · exact ⟨e, (hstored.declarations i hij).trans he, heo, hn⟩

theorem Linked.hasDetached_step (h : Linked t [] []) (op : Operation) {i : DeclarationId} {n : String}
    (hd : HasDetached t i n) : HasDetached (t.step op) i n := by
  cases op with
  | insertModule m => exact hd
  | absorbModule m ds => exact h.hasDetached_absorbModule m ds hd
  | absorbReport r location time => exact h.hasDetached_absorbModule _ _ hd
  | eraseModule id => exact (h.agreeOutside_eraseModule id).hasDetached hd
  | insertDeclaration id d => exact (h.agreeOutside_insertDeclaration id d).hasDetached hd
  | absorbDeclaration d => exact h.hasDetached_absorbDeclaration d hd

theorem Linked.hasDetached_run (h : Linked t [] []) {i : DeclarationId} {n : String} (hd : HasDetached t i n)
    (ops : List Operation) : HasDetached (t.run ops) i n :=
  (run_induction (P := fun t => Linked t [] [] ∧ HasDetached t i n)
    (fun _ op _ hp => ⟨hp.1.step op, hp.1.hasDetached_step op hp.2⟩) ⟨h, hd⟩).2

/-- Ids over whole runs: a module id that is there at two moments was there in between and stands for a module
of the same name and origin, a removed one is gone for good, a name that a call leaves in a module keeps its
slot, and a detached declaration keeps its slot for the rest of the run. -/
theorem ids_stable (ops : List Operation) :
    (∀ between rest id m m', (empty.run ops).module? id = some m →
      (empty.run (ops ++ between ++ rest)).module? id = some m' →
      ((empty.run (ops ++ between)).module? id).isSome ∧ m'.name = m.name ∧ m'.origin? = m.origin?) ∧
    (∀ id m later, ((empty.run ops).eraseModule id).1 = some m →
      Gone (empty.run (ops ++ .eraseModule id :: later)) id) ∧
    (∀ op id n i j, (empty.run ops).Lists id n i → (empty.run (ops ++ [op])).Lists id n j → i = j) ∧
    (∀ later i d, (empty.run ops).declaration? i = some d → d.owner = none →
      ∃ d', (empty.run (ops ++ later)).declaration? i = some d' ∧ d'.owner = none ∧ d'.name = d.name) := by
  have h := linked_run ops
  simp only [run_append]
  generalize empty.run ops = t at h
  refine ⟨?_, ?_, ?_, ?_⟩
  · intro between rest id m m' hm hm'
    have hafter := bareModule?_of_module? hm'
    rcases retired_or_kept_run (bareModule?_of_module? hm) between with hgone | ⟨b, hb, hname, horigin⟩
    · simp [(hgone.run rest).2] at hm'
    · rcases retired_or_kept_run hb rest with hgone | ⟨b', hb', hname', horigin'⟩
      · simp [hgone.2] at hm'
      · obtain rfl := Option.some.inj (hb'.symm.trans hafter)
        refine ⟨?_, hname'.trans hname, horigin'.trans horigin⟩
        rw [← isSome_bareModule?, hb, Option.isSome_some]
  · intro id m later herased
    exact ((retired_eraseModule herased).run later).gone
  · intro op id n i j hi hj
    exact h.keepsSlots_step op id n i j hi hj
  · intro later i d hd ho
    exact h.hasDetached_run ⟨d, hd, ho, rfl⟩ later

/-- A module that is taken in again after its removal gets another id. -/
theorem ids_stable_after_removal :
    let m : Module := { name := "A" }
    let t := empty.run [.absorbModule m [], .eraseModule ⟨0⟩, .absorbModule m []]
    ((empty.run [.absorbModule m []]).eraseModule ⟨0⟩).1 = some m ∧ t.module? ⟨1⟩ = some m ∧ Gone t ⟨0⟩ := by
  intro m t
  have herased : ((empty.run [.absorbModule m []]).eraseModule ⟨0⟩).1 = some m := by decide +zetaReduce
  have hgone := (ids_stable [.absorbModule m []]).2.1 ⟨0⟩ m [.absorbModule m []] herased
  exact ⟨herased, by decide +zetaReduce, hgone⟩

end SymbolGraph.SymbolTable
