import SymbolGraph.Proofs.Identity

/-!
# What a call does to the module slots

A call leaves the module slots and the name index alone, fills one new slot, renews the module in one slot, or
empties one slot. Everything that holds of module ids over a whole run follows from these four changes.
-/
namespace SymbolGraph.SymbolTable
variable {t t' t'' : SymbolTable}

/-- All that a call can do to the modules, apart from what they list, and to their index. -/
inductive SlotChange (t t' : SymbolTable) : Prop where
  | unchanged (hsize : t'.modules.size = t.modules.size) (hindex : t'.byName = t.byName)
      (hmod : ∀ j, t'.bareModule? j = t.bareModule? j)
  | filled (m : Module) (hsize : t'.modules.size = t.modules.size + 1)
      (hindex : t'.byName = t.byName.alter m.name fun ids => ids.getD [] ++ [⟨t.modules.size⟩])
      (hmod : ∀ j, t'.bareModule? j = if j = ⟨t.modules.size⟩ then some m else t.bareModule? j)
  | renewed (id : ModuleId) (old new : Module) (hold : t.bareModule? id = some old)
      (hsame : old.same new = true) (hsize : t'.modules.size = t.modules.size)
      (hindex : t'.byName = t.byName)
      (hmod : ∀ j, t'.bareModule? j = if j = id then some new else t.bareModule? j)
  | emptied (id : ModuleId) (m : Module) (hold : t.bareModule? id = some m)
      (hsize : t'.modules.size = t.modules.size)
      (hindex : t'.byName = t.byName.alter m.name fun ids => (ids.getD []).filter (· ≠ id))
      (hmod : ∀ j, t'.bareModule? j = if j = id then none else t.bareModule? j)

theorem SlotChange.refl (t : SymbolTable) : SlotChange t t := .unchanged rfl rfl fun _ => rfl

/-- What modules list does not matter. -/
theorem SlotChange.congr (h : SlotChange t t') (hsize : t''.modules.size = t'.modules.size)
    (hindex : t''.byName = t'.byName) (hmod : ∀ j, t''.bareModule? j = t'.bareModule? j) :
    SlotChange t t'' := by
  cases h with
  | unchanged hs hi hm =>
    exact .unchanged (hsize.trans hs) (hindex.trans hi) fun j => (hmod j).trans (hm j)
  | filled m hs hi hm =>
    exact .filled m (hsize.trans hs) (hindex.trans hi) fun j => (hmod j).trans (hm j)
  | renewed id old new hold hsame hs hi hm =>
    exact .renewed id old new hold hsame (hsize.trans hs) (hindex.trans hi) fun j => (hmod j).trans (hm j)
  | emptied id m hold hs hi hm =>
    exact .emptied id m hold (hsize.trans hs) (hindex.trans hi) fun j => (hmod j).trans (hm j)

@[simp] theorem modules_allocate (t : SymbolTable) (d : Declaration) :
    (t.allocate d).2.modules = t.modules := by
  unfold allocate
  split <;> rfl

@[simp] theorem modules_foldl_release (t : SymbolTable) (is : List DeclarationId) :
    (is.foldl release t).modules = t.modules := by
  induction is generalizing t with
  | nil => rfl
  | cons i is ih =>
    rw [List.foldl_cons, ih]
    unfold release
    split <;> rfl

theorem size_modules_insertDeclaration (t : SymbolTable) (id : ModuleId) (d : Declaration) :
    (t.insertDeclaration id d).2.modules.size = t.modules.size := by
  obtain ⟨-, h⟩ | ⟨m, -, ⟨e, -, h⟩ | ⟨-, ⟨i, -, h⟩ | ⟨-, h⟩⟩⟩ := t.insertDeclaration_cases id d
  · rw [h]
  · rw [h]
  · rw [h]
    rfl
  · rw [h]
    simp [setModule]

theorem slotChange_insertDeclaration (t : SymbolTable) (id : ModuleId) (d : Declaration) :
    SlotChange t (t.insertDeclaration id d).2 :=
  .unchanged (size_modules_insertDeclaration t id d) (byName_insertDeclaration t id d)
    (bareModule?_insertDeclaration t id d)

theorem slotChange_insertModule (t : SymbolTable) (m : Module) : SlotChange t (t.insertModule m).2 := by
  refine .filled { m.attributeImports with declarations := .empty } (Slots.size_push _ _) rfl fun j => ?_
  by_cases hj : j = ⟨t.modules.size⟩ <;> simp [bareModule?, module?_insertModule, hj]

/-- A module that is taken in gets a new slot or that of the same module. -/
theorem slotChange_prepared (t : SymbolTable) (m : Module) (ds : List Declaration) :
    SlotChange t (t.prepared m ds) := by
  have hmod := t.bareModule?_prepared m ds
  cases htwin : t.moduleTwin? m with
  | none =>
    have heq : t.prepared m ds = (t.insertModule m).2 := by simp [prepared, htwin]
    rw [heq]
    exact slotChange_insertModule t m
  | some id =>
    obtain ⟨k, hk, hs⟩ := mem_of_moduleTwin? htwin
    have hslot : t.slotFor m = id := by simp [slotFor, htwin]
    rw [hslot] at hmod
    refine .renewed id _ _ (bareModule?_of_module? hk) ?same ?size ?index hmod
    case same => exact hs
    case size => simp [prepared, htwin, setModule]
    case index => simp [prepared, htwin, setModule]

theorem slotChange_absorbModule (t : SymbolTable) (m : Module) (ds : List Declaration) :
    SlotChange t (t.absorbModule m ds).2 := by
  cases hr : (t.absorbModule m ds).1 with
  | error e =>
    rw [absorbModule_unchanged hr]
    exact .refl t
  | ok id =>
    obtain ⟨rfl, hpass, heq⟩ := absorbModule_ok hr
    have hlive := t.isSome_module?_prepared m ds
    have hsame := (insertDeclarations_induction (P := fun t' _ =>
      t'.modules.size = (t.prepared m ds).modules.size ∧ t'.byName = (t.prepared m ds).byName)
      (fun t' d _ _ _ h => ⟨(size_modules_insertDeclaration t' _ d).trans h.1,
        (byName_insertDeclaration t' _ d).trans h.2⟩) hlive hpass ⟨rfl, rfl⟩).2
    rw [heq]
    exact (slotChange_prepared t m ds).congr hsame.1 hsame.2 (bareModule?_insertDeclarations hlive hpass)

theorem slotChange_eraseModule (t : SymbolTable) (id : ModuleId) : SlotChange t (t.eraseModule id).2 := by
  obtain ⟨-, heq⟩ | ⟨m, hm, heq⟩ := t.eraseModule_cases id
  · rw [heq]
    exact .refl t
  · rw [heq]
    refine .emptied id _ (bareModule?_of_module? hm) ?_ ?_ fun j => ?_
    · simp [clearModule]
    · simp [clearModule]
    · by_cases hj : j = id
      · simp [bareModule?, module?_clearModule, hj]
      · simp [bareModule?, module?_clearModule, hj, Ne.symm hj]

theorem slotChange_absorbDeclaration (t : SymbolTable) (d : Declaration) :
    SlotChange t (t.absorbDeclaration d).2 := by
  cases ho : d.owner with
  | some id =>
    rw [absorbDeclaration_owned ho]
    exact slotChange_insertDeclaration t id d
  | none =>
    rcases absorbDeclaration_detached (t := t) ho with ⟨i, -, -, -, -, heq⟩ | ⟨-, heq⟩
    · rw [heq]
      exact .unchanged rfl rfl fun _ => rfl
    · rw [heq]
      refine .unchanged ?_ (byName_allocate t d) fun j => ?_
      · exact congrArg Slots.size (modules_allocate t d)
      · exact congrArg (Option.map _) (module?_allocate t d j)

theorem slotChange_step (t : SymbolTable) (op : Operation) : SlotChange t (t.step op) := by
  cases op with
  | insertModule m => exact slotChange_insertModule t m
  | absorbModule m ds => exact slotChange_absorbModule t m ds
  | absorbReport r location time => exact slotChange_absorbModule t _ _
  | eraseModule id => exact slotChange_eraseModule t id
  | insertDeclaration id d => exact slotChange_insertDeclaration t id d
  | absorbDeclaration d => exact slotChange_absorbDeclaration t d

end SymbolGraph.SymbolTable
