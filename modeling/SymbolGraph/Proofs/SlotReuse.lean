import Mathlib.Data.List.Induction
import Mathlib.Data.List.Nodup
import Mathlib.Order.Bounds.Basic
import SymbolGraph.Proofs.Stability

/-!
# Declaration slots are used again

A call empties slots first and fills slots afterwards, and a new slot is only made while none is empty. So a table that
grew in a call is full at its end, and the number of its slots is the largest number of declarations that it ever held
between two calls.
-/
namespace SymbolGraph.SymbolTable
variable {t t' t'' : SymbolTable} {i : DeclarationId}

/-! ## Filled and empty slots -/

/-- The free list has the numbers of the slots without a declaration, in some order. -/
theorem FreeExact.perm_free (h : FreeExact t) : (t.free.map DeclarationId.index).Perm
    ((List.range t.declarations.size).filter fun j => ¬(t.declarations.get? j).isSome) := by
  have hnodup : (t.free.map DeclarationId.index).Nodup :=
    List.Nodup.map (fun _ _ => DeclarationId.index_inj.1) h.nodup
  apply (List.perm_ext_iff_of_nodup hnodup (List.nodup_range.filter _)).2
  intro j
  rw [List.mem_map, List.mem_filter, List.mem_range, decide_eq_true_eq, Option.not_isSome_iff_eq_none]
  constructor
  · rintro ⟨i, hi, rfl⟩
    exact (h.mem_iff i).1 hi
  · intro hj
    exact ⟨⟨j⟩, (h.mem_iff ⟨j⟩).2 hj, rfl⟩

theorem FreeExact.count_add_free (h : FreeExact t) :
    t.declarationCount + t.free.length = t.declarations.size := by
  have hfree := h.perm_free.length_eq
  rw [List.length_map, ← List.countP_eq_length_filter] at hfree
  calc t.declarationCount + t.free.length
      = (List.range t.declarations.size).countP (fun j => (t.declarations.get? j).isSome) +
          (List.range t.declarations.size).countP fun j => ¬(t.declarations.get? j).isSome := by
        rw [hfree, declarationCount, Slots.count_eq]
    _ = (List.range t.declarations.size).length := (List.length_eq_countP_add_countP _).symm
    _ = t.declarations.size := List.length_range

/-! ## Filling slots -/

/-- From `t` to `t'` slots are only filled: there are more slots only if none is empty in the end, and none comes
empty if there was none. -/
structure Fills (t t' : SymbolTable) : Prop where
  size_le : t.declarations.size ≤ t'.declarations.size
  full : t'.declarations.size = t.declarations.size ∨ t'.free = []
  kept : t.free = [] → t'.free = []

namespace Fills

theorem of_eq (hsize : t'.declarations.size = t.declarations.size) (hfree : t'.free = t.free) : Fills t t' where
  size_le := Nat.le_of_eq hsize.symm
  full := .inl hsize
  kept h := hfree.trans h

theorem trans (h : Fills t t') (h' : Fills t' t'') : Fills t t'' where
  size_le := h.size_le.trans h'.size_le
  full := by
    rcases h'.full with hsame | hfull
    · rcases h.full with hsame' | hfull'
      · exact .inl (hsame.trans hsame')
      · exact .inr (h'.kept hfull')
    · exact .inr hfull
  kept hfree := h'.kept (h.kept hfree)

theorem allocate (t : SymbolTable) (d : Declaration) : Fills t (t.allocate d).2 := by
  unfold SymbolTable.allocate
  split
  · rename_i i rest hfree
    have hsize := Slots.size_set t.declarations i.index d
    exact ⟨Nat.le_of_eq hsize.symm, .inl hsize, fun hnil => by simp [hnil] at hfree⟩
  · rename_i hfree
    exact ⟨by simp, .inr hfree, fun _ => hfree⟩

theorem insertDeclaration (t : SymbolTable) (id : ModuleId) (d : Declaration) :
    Fills t (t.insertDeclaration id d).2 := by
  obtain ⟨-, h⟩ | ⟨m, -, ⟨e, -, h⟩ | ⟨-, ⟨i, -, h⟩ | ⟨-, h⟩⟩⟩ := t.insertDeclaration_cases id d
  · rw [h]
    exact of_eq rfl rfl
  · rw [h]
    exact of_eq rfl rfl
  · rw [h]
    exact of_eq (Slots.size_set ..) rfl
  · rw [h]
    exact (allocate t _).trans (of_eq rfl rfl)

theorem insertDeclarations (t : SymbolTable) (id : ModuleId) (ds : List Declaration) :
    Fills t (t.insertDeclarations id ds).2 := by
  induction ds generalizing t with
  | nil => exact of_eq rfl rfl
  | cons d ds ih =>
    have hstep := insertDeclaration t id d
    rw [SymbolTable.insertDeclarations]
    split
    · rename_i heq
      rw [heq] at hstep
      exact hstep.trans (ih _)
    · rename_i heq
      rwa [heq] at hstep

theorem absorbDeclaration (t : SymbolTable) (d : Declaration) : Fills t (t.absorbDeclaration d).2 := by
  cases ho : d.owner with
  | some id =>
    rw [absorbDeclaration_owned ho]
    exact insertDeclaration t id d
  | none =>
    rcases absorbDeclaration_detached (t := t) ho with ⟨i, -, -, -, -, heq⟩ | ⟨-, heq⟩
    · rw [heq]
      exact of_eq (Slots.size_set ..) rfl
    · rw [heq]
      exact (allocate t d).trans (of_eq rfl rfl)

end Fills

/-! ## Calls and runs -/

@[simp] theorem size_declarations_foldl_release (t : SymbolTable) (is : List DeclarationId) :
    (is.foldl release t).declarations.size = t.declarations.size := by
  induction is generalizing t with
  | nil => rfl
  | cons i is ih =>
    rw [List.foldl_cons, ih]
    unfold release
    split
    · exact Slots.size_clear ..
    · rfl

theorem size_declarations_prepared (t : SymbolTable) (m : Module) (ds : List Declaration) :
    (t.prepared m ds).declarations.size = t.declarations.size := by
  unfold prepared
  cases t.moduleTwin? m with
  | none => rfl
  | some id => exact size_declarations_foldl_release ..

/-- A call only fills slots once it has emptied those that it empties. -/
theorem exists_fills_absorbModule (t : SymbolTable) (m : Module) (ds : List Declaration) :
    ∃ t', t'.declarations.size = t.declarations.size ∧ Fills t' (t.absorbModule m ds).2 := by
  cases hr : (t.absorbModule m ds).1 with
  | error e =>
    rw [absorbModule_unchanged hr]
    exact ⟨t, rfl, .of_eq rfl rfl⟩
  | ok id =>
    rw [(absorbModule_ok hr).2.2]
    exact ⟨t.prepared m ds, size_declarations_prepared t m ds, .insertDeclarations _ _ _⟩

theorem exists_fills_step (t : SymbolTable) (op : Operation) :
    ∃ t', t'.declarations.size = t.declarations.size ∧ Fills t' (t.step op) := by
  cases op with
  | insertModule m => exact ⟨t, rfl, .of_eq rfl rfl⟩
  | absorbModule m ds => exact exists_fills_absorbModule t m ds
  | absorbReport r location time => exact exists_fills_absorbModule t _ _
  | eraseModule id =>
    refine ⟨(t.eraseModule id).2, ?_, .of_eq rfl rfl⟩
    obtain ⟨-, heq⟩ | ⟨m, -, heq⟩ := t.eraseModule_cases id
    · rw [heq]
    · rw [heq, size_declarations_foldl_release]
      rfl
  | insertDeclaration id d => exact ⟨t, rfl, .insertDeclaration t id d⟩
  | absorbDeclaration d => exact ⟨t, rfl, .absorbDeclaration t d⟩

/-- The slots after a call are as many as before, or as many as there are declarations now. -/
theorem Linked.size_step (h : Linked t [] []) (op : Operation) :
    (t.step op).declarations.size = max t.declarations.size (t.step op).declarationCount := by
  obtain ⟨t', hsize, hfills⟩ := exists_fills_step t op
  have hcount := (h.step op).free.count_add_free
  have hle := hfills.size_le
  rcases hfills.full with hsame | hfull
  · omega
  · rw [hfull, List.length_nil] at hcount
    omega

/-- The numbers of declarations that a table has held before, between and after the calls of a run. -/
def heldCounts (ops : List Operation) : Set Nat :=
  {n | ∃ before, before <+: ops ∧ (empty.run before).declarationCount = n}

theorem heldCounts_nil : heldCounts [] = {0} := by
  ext n
  have hnone : (empty.run []).declarationCount = 0 := rfl
  simp [heldCounts, List.prefix_nil, hnone, eq_comm]

theorem heldCounts_concat (ops : List Operation) (op : Operation) :
    heldCounts (ops ++ [op]) = insert (empty.run (ops ++ [op])).declarationCount (heldCounts ops) := by
  ext n
  simp [heldCounts, List.prefix_concat_iff, or_and_right, exists_or, eq_comm]

/-- The slots are as many as the table ever held declarations at a time. -/
theorem isGreatest_size_run (ops : List Operation) :
    IsGreatest (heldCounts ops) (empty.run ops).declarations.size := by
  induction ops using List.reverseRecOn with
  | nil =>
    rw [heldCounts_nil]
    exact isGreatest_singleton
  | append_singleton ops op ih =>
    have hsize := (linked_run ops).size_step op
    have hrun : (empty.run ops).step op = empty.run (ops ++ [op]) := (run_append empty ops [op]).symm
    rw [hrun, max_comm] at hsize
    rw [heldCounts_concat, hsize]
    exact ih.insert _

theorem size_run_mono {before ops : List Operation} (h : before <+: ops) :
    (empty.run before).declarations.size ≤ (empty.run ops).declarations.size := by
  refine (isGreatest_size_run before).mono (isGreatest_size_run ops) ?_
  rintro n ⟨earlier, hprefix, hcount⟩
  exact ⟨earlier, hprefix.trans h, hcount⟩

/-! ## Ids of slots -/

/-- The id is in the table or can be had from it: a module lists it, it is detached or free, or the search for a
declaration leads to it. -/
def Mentions (t : SymbolTable) (i : DeclarationId) : Prop :=
  (∃ id n, t.Lists id n i) ∨ i ∈ t.detached ∨ i ∈ t.free ∨ ∃ d, t.declarationTwin? d = some i

/-- A call gives the id back, or a module that lists it. -/
def Gives (t : SymbolTable) (i : DeclarationId) : Operation → Prop
  | .insertDeclaration id d => (t.insertDeclaration id d).1 = .ok i
  | .absorbDeclaration d => (t.absorbDeclaration d).1 = .ok i
  | .eraseModule id => ∃ m, (t.eraseModule id).1 = some m ∧ i ∈ m.declarations.values
  | _ => False

theorem lt_size_of_declaration? {d : Declaration} (h : t.declaration? i = some d) :
    i.index < t.declarations.size := Slots.lt_size_of_get? h

theorem Linked.lt_size_of_mentions (h : Linked t [] []) (hi : t.Mentions i) : i.index < t.declarations.size := by
  rcases hi with ⟨id, n, hlists⟩ | hdetached | hfree | ⟨d, hfound⟩
  · obtain ⟨-, d, hd, -⟩ := h.listed hlists
    exact lt_size_of_declaration? hd
  · obtain ⟨-, d, hd, -⟩ := h.detached.1 hdetached
    exact lt_size_of_declaration? hd
  · exact ((h.free.mem_iff i).1 hfree).1
  · obtain ⟨p, hp, rfl⟩ := Option.map_eq_some_iff.1 hfound
    exact lt_size_of_declaration? (mem_liveDeclarations.1 (List.mem_of_find?_eq_some hp))

theorem Linked.lt_size_of_insertDeclaration (h : Linked t [] []) {id : ModuleId} {d : Declaration}
    (hok : (t.insertDeclaration id d).1 = .ok i) : i.index < (t.insertDeclaration id d).2.declarations.size := by
  obtain ⟨hlive, hpass⟩ := insertDeclaration_ok_iff.1 ⟨i, hok⟩
  obtain ⟨m, hm⟩ := Option.isSome_iff_exists.1 hlive
  obtain ⟨i', hok', hstored⟩ := h.storedUnder_insertDeclaration hm hpass
  obtain rfl : i = i' := Except.ok.inj (hok.symm.trans hok')
  exact lt_size_of_declaration? hstored.written

theorem Linked.lt_size_of_absorbDeclaration (h : Linked t [] []) {d : Declaration}
    (hok : (t.absorbDeclaration d).1 = .ok i) : i.index < (t.absorbDeclaration d).2.declarations.size := by
  cases ho : d.owner with
  | some id =>
    rw [absorbDeclaration_owned ho] at hok ⊢
    exact h.lt_size_of_insertDeclaration hok
  | none =>
    obtain ⟨i', hok', hstored⟩ := h.storedDetached_absorbDeclaration ho
    obtain rfl : i = i' := Except.ok.inj (hok.symm.trans hok')
    exact lt_size_of_declaration? hstored.written

theorem Linked.lt_size_of_gives (h : Linked t [] []) {op : Operation} (hi : t.Gives i op) :
    i.index < (t.step op).declarations.size := by
  cases op with
  | insertDeclaration id d => exact h.lt_size_of_insertDeclaration hi
  | absorbDeclaration d => exact h.lt_size_of_absorbDeclaration hi
  | eraseModule id =>
    obtain ⟨m, herased, hvalue⟩ := hi
    obtain ⟨n, hn⟩ := OrderedMap.mem_values.1 hvalue
    have hm : t.module? id = some m := (module?_eraseModule t id).1.symm.trans herased
    have hlt := h.lt_size_of_mentions (.inl ⟨id, n, m, hm, hn⟩)
    have hsize := h.size_step (.eraseModule id)
    omega
  | insertModule m => exact hi.elim
  | absorbModule m ds => exact hi.elim
  | absorbReport r location time => exact hi.elim

/-- No slot is lost, however often modules are taken in again: after any run there are as many declaration slots as the
table held declarations at its fullest between two calls, and every id that it ever had or that a call gave back is
below that number. -/
theorem slots_never_leak (ops : List Operation) :
    IsGreatest (heldCounts ops) (empty.run ops).declarations.size ∧
    (∀ before i, before <+: ops → (empty.run before).Mentions i →
      i.index < (empty.run ops).declarations.size) ∧
    ∀ before op i, before ++ [op] <+: ops → (empty.run before).Gives i op →
      i.index < (empty.run ops).declarations.size := by
  refine ⟨isGreatest_size_run ops, fun before i hbefore hi => ?_, fun before op i hbefore hi => ?_⟩
  · exact Nat.lt_of_lt_of_le ((linked_run before).lt_size_of_mentions hi) (size_run_mono hbefore)
  · have hrun : (empty.run before).step op = empty.run (before ++ [op]) := (run_append empty before [op]).symm
    have hlt := (linked_run before).lt_size_of_gives hi
    rw [hrun] at hlt
    exact Nat.lt_of_lt_of_le hlt (size_run_mono hbefore)

/-- Dropped names and removed modules leave their slots to those that come next. -/
example :
    let f : Declaration := { name := "f", kind := .other }
    let g : Declaration := { name := "g", kind := .other }
    let ops : List Operation := [.absorbModule { name := "A" } [f, g], .absorbModule { name := "A" } [g],
      .eraseModule ⟨0⟩, .absorbModule { name := "B" } [g, f]]
    (empty.run ops).declarationCount = 2 ∧ (empty.run ops).declarations.size = 2 := by
  decide +zetaReduce

end SymbolGraph.SymbolTable
