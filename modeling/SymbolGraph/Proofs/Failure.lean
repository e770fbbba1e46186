import SymbolGraph.Proofs.Runs

/-!
# When a call fails, and what it leaves then

Taking in a module checks every owner before the first change. The table in which the module already has its
slot, `prepared`, is the same starting point for a new module and for a newer version of a known one, and no
declaration that passed the check can fail to be stored in it.
-/
namespace SymbolGraph

def Declaration.isForeign (d : Declaration) (target : ModuleId) : Bool := d.owner.any (· ≠ target)

namespace Declaration
variable {d : Declaration} {target : ModuleId}

theorem isForeign_iff : d.isForeign target = true ↔ ∃ owner, d.owner = some owner ∧ owner ≠ target := by
  simp [isForeign, Option.any_eq_true]

theorem refusal?_eq_none_iff : d.refusal? target = none ↔ d.isForeign target = false := by
  cases h : d.owner with
  | none => simp [refusal?, isForeign, h]
  | some owner => by_cases ho : owner = target <;> simp [refusal?, isForeign, h, ho]

theorem refusal?_eq_some_iff {e : SymbolError} : d.refusal? target = some e ↔
    ∃ owner, d.owner = some owner ∧ owner ≠ target ∧ e = .ownershipViolation d.name owner target := by
  cases h : d.owner with
  | none => simp [refusal?, h]
  | some owner =>
    by_cases ho : owner = target
    · simp [refusal?, h, ho]
    · simp [refusal?, h, ho, @eq_comm _ e]

end Declaration

/-- The declaration as a module in slot `id` at `location` lists it. -/
def Declaration.storedIn (d : Declaration) (id : ModuleId) (location : Option Location) : Declaration :=
  { d with owner := some id, location := location }

/-- The first refusal in a list is that of the first foreign declaration. -/
theorem findSome?_refusal? (target : ModuleId) (ds : List Declaration) :
    ds.findSome? (·.refusal? target) = (ds.find? (·.isForeign target)).bind (·.refusal? target) := by
  induction ds with
  | nil => rfl
  | cons d ds ih =>
    cases h : d.isForeign target with
    | false => simp [Declaration.refusal?_eq_none_iff.2 h, h, ih]
    | true =>
      obtain ⟨owner, ho, hne⟩ := Declaration.isForeign_iff.1 h
      have hr : d.refusal? target = some (.ownershipViolation d.name owner target) :=
        Declaration.refusal?_eq_some_iff.2 ⟨owner, ho, hne, rfl⟩
      simp [h, hr]

namespace SymbolTable
variable {t t' : SymbolTable}

def setModule (t : SymbolTable) (id : ModuleId) (m : Module) : SymbolTable :=
  { t with modules := t.modules.set id.index m }

def setDeclaration (t : SymbolTable) (i : DeclarationId) (d : Declaration) : SymbolTable :=
  { t with declarations := t.declarations.set i.index d }

/-- The slot that takes in a module: that of its twin, else the next new one. -/
def slotFor (t : SymbolTable) (m : Module) : ModuleId := (t.moduleTwin? m).getD ⟨t.modules.size⟩

/-- The table in which the slot for `m` holds it, listing only the names of an earlier version that are
declared again; the slots of the other names are released. -/
def prepared (t : SymbolTable) (m : Module) (ds : List Declaration) : SymbolTable :=
  match t.moduleTwin? m with
  | some id =>
    let p := keepSlots .empty (((t.module? id).map Module.declarations).getD .empty) ds
    p.2.values.foldl release (t.setModule id { m.attributeImports with declarations := p.1 })
  | none => (t.insertModule m).2

/-- Both ways of taking in a module store its declarations in the prepared table. -/
theorem absorbModule_eq (t : SymbolTable) (m : Module) (ds : List Declaration) :
    t.absorbModule m ds =
      match ds.findSome? (·.refusal? (t.slotFor m)) with
      | some e => (.error e, t)
      | none =>
        let p := (t.prepared m ds).insertDeclarations (t.slotFor m) ds
        (p.1.map fun _ => t.slotFor m, p.2) := by
  unfold absorbModule slotFor prepared
  cases t.moduleTwin? m <;> rfl

/-- A module apart from the declarations that it lists. -/
def bareModule? (t : SymbolTable) (id : ModuleId) : Option Module :=
  (t.module? id).map fun m => { m with declarations := .empty }

@[simp] theorem isSome_bareModule? (t : SymbolTable) (id : ModuleId) :
    (t.bareModule? id).isSome = (t.module? id).isSome := by simp [bareModule?]

theorem bareModule?_of_module? {id : ModuleId} {m : Module} (h : t.module? id = some m) :
    t.bareModule? id = some { m with declarations := .empty } := by simp [bareModule?, h]

@[simp] theorem module?_allocate (t : SymbolTable) (d : Declaration) (id : ModuleId) :
    (t.allocate d).2.module? id = t.module? id := by
  unfold allocate
  split <;> rfl

@[simp] theorem module?_release (t : SymbolTable) (i : DeclarationId) (id : ModuleId) :
    (t.release i).module? id = t.module? id := by
  unfold release
  split <;> rfl

@[simp] theorem module?_foldl_release (t : SymbolTable) (is : List DeclarationId) (id : ModuleId) :
    (is.foldl release t).module? id = t.module? id := by
  induction is generalizing t with
  | nil => rfl
  | cons i is ih => rw [List.foldl_cons, ih, module?_release]

theorem module?_setModule {id : ModuleId} {m : Module} (h : t.module? id = some m) (n : Module)
    (j : ModuleId) : (t.setModule id n).module? j = if id = j then some n else t.module? j := by
  have hlt : id.index < t.modules.size := Slots.lt_size_of_get? h
  simp [setModule, module?, Slots.get?_set _ _ _ _ hlt]

/-- All that storing a declaration in a module can do. -/
theorem insertDeclaration_cases (t : SymbolTable) (id : ModuleId) (d : Declaration) :
    (t.module? id = none ∧ t.insertDeclaration id d = (.error (.unknownModule id), t)) ∨
      ∃ m, t.module? id = some m ∧
        ((∃ e, d.refusal? id = some e ∧ t.insertDeclaration id d = (.error e, t)) ∨
          d.refusal? id = none ∧
            ((∃ i, m.declarations.get? d.name = some i ∧
                t.insertDeclaration id d = (.ok i, t.setDeclaration i (d.storedIn id m.location))) ∨
              m.declarations.get? d.name = none ∧
                t.insertDeclaration id d =
                  let p := t.allocate (d.storedIn id m.location)
                  (.ok p.1, p.2.setModule id { m with declarations := m.declarations.insert d.name p.1 }))) := by
  cases hm : t.module? id with
  | none =>
    left
    simp [insertDeclaration, hm]
  | some m =>
    refine .inr ⟨m, rfl, ?_⟩
    cases hr : d.refusal? id with
    | some e =>
      left
      simp [insertDeclaration, hm, hr]
    | none =>
      refine .inr ⟨rfl, ?_⟩
      cases hg : m.declarations.get? d.name with
      | some i =>
        left
        simp [insertDeclaration, hm, hr, hg, setDeclaration, Declaration.storedIn]
      | none =>
        right
        simp [insertDeclaration, hm, hr, hg, setModule, Declaration.storedIn]

/-- Storing a declaration changes no module but for what it lists. -/
theorem bareModule?_insertDeclaration (t : SymbolTable) (id : ModuleId) (d : Declaration) (j : ModuleId) :
    (t.insertDeclaration id d).2.bareModule? j = t.bareModule? j := by
  obtain ⟨-, h⟩ | ⟨m, hm, ⟨e, -, h⟩ | ⟨-, ⟨i, -, h⟩ | ⟨-, h⟩⟩⟩ := t.insertDeclaration_cases id d
  · rw [h]
  · rw [h]
  · rw [h]
    rfl
  · rw [h]
    have ha : (t.allocate (d.storedIn id m.location)).2.module? id = some m := by rwa [module?_allocate]
    by_cases hj : id = j
    · subst hj
      simp [bareModule?, module?_setModule ha, hm]
    · simp [bareModule?, module?_setModule ha, hj]

theorem insertDeclaration_error_iff {id : ModuleId} {d : Declaration} {e : SymbolError} :
    (t.insertDeclaration id d).1 = .error e ↔
      t.module? id = none ∧ e = .unknownModule id ∨ (t.module? id).isSome ∧ d.refusal? id = some e := by
  obtain ⟨hm, h⟩ | ⟨m, hm, ⟨e', hr, h⟩ | ⟨hr, ⟨i, -, h⟩ | ⟨-, h⟩⟩⟩ := t.insertDeclaration_cases id d
  · simp [h, hm, @eq_comm _ e]
  · simp [h, hm, hr]
  · simp [h, hm, hr]
  · simp [h, hm, hr]

theorem insertDeclaration_unchanged {id : ModuleId} {d : Declaration} {e : SymbolError}
    (he : (t.insertDeclaration id d).1 = .error e) : (t.insertDeclaration id d).2 = t := by
  obtain ⟨-, h⟩ | ⟨m, -, ⟨e', -, h⟩ | ⟨-, ⟨i, -, h⟩ | ⟨-, h⟩⟩⟩ := t.insertDeclaration_cases id d
  · rw [h]
  · rw [h]
  · simp [h] at he
  · simp [h] at he

theorem insertDeclaration_ok_iff {id : ModuleId} {d : Declaration} :
    (∃ i, (t.insertDeclaration id d).1 = .ok i) ↔ (t.module? id).isSome ∧ d.refusal? id = none := by
  obtain ⟨hm, h⟩ | ⟨m, hm, ⟨e, hr, h⟩ | ⟨hr, ⟨i, -, h⟩ | ⟨-, h⟩⟩⟩ := t.insertDeclaration_cases id d
  · simp [h, hm]
  · simp [h, hr]
  · simp [h, hm, hr]
  · simp [h, hm, hr]

theorem insertDeclarations_cons {id : ModuleId} {d : Declaration} (hm : (t.module? id).isSome)
    (hd : d.refusal? id = none) (ds : List Declaration) :
    t.insertDeclarations id (d :: ds) = (t.insertDeclaration id d).2.insertDeclarations id ds := by
  obtain ⟨i, hi⟩ := insertDeclaration_ok_iff.2 ⟨hm, hd⟩
  rw [insertDeclarations]
  split
  · rename_i h
    rw [h]
  · rename_i h
    simp [h] at hi

/-- Declarations that passed the check are all stored, one after the other, in a module that stays. -/
theorem insertDeclarations_induction {id : ModuleId} {P : SymbolTable → List Declaration → Prop}
    (hs : ∀ t d ds, (t.module? id).isSome → d.refusal? id = none → P t (d :: ds) →
      P (t.insertDeclaration id d).2 ds) {ds : List Declaration} (hm : (t.module? id).isSome)
    (hds : ∀ d ∈ ds, d.refusal? id = none) (h : P t ds) :
    (t.insertDeclarations id ds).1 = .ok () ∧ P (t.insertDeclarations id ds).2 [] := by
  induction ds generalizing t with
  | nil => exact ⟨rfl, h⟩
  | cons d ds ih =>
    have hd : d.refusal? id = none := hds d (by simp)
    have hm' : ((t.insertDeclaration id d).2.module? id).isSome := by
      rw [← isSome_bareModule?, bareModule?_insertDeclaration, isSome_bareModule?]
      exact hm
    rw [insertDeclarations_cons hm hd]
    exact ih hm' (fun d' h' => hds d' (by simp [h'])) (hs t d ds hm hd h)

theorem mem_of_moduleTwin? {m : Module} {id : ModuleId} (h : t.moduleTwin? m = some id) :
    ∃ k, t.module? id = some k ∧ k.same m = true := by
  obtain ⟨p, hp, rfl⟩ := Option.map_eq_some_iff.1 h
  have hmem := List.mem_of_find?_eq_some hp
  obtain ⟨id, -, hid⟩ := List.mem_filterMap.1 hmem
  obtain ⟨k, hk, rfl⟩ := Option.map_eq_some_iff.1 hid
  exact ⟨k, hk, by simpa using List.find?_some hp⟩

theorem module?_fresh (t : SymbolTable) : t.module? ⟨t.modules.size⟩ = none := by
  cases hm : t.module? ⟨t.modules.size⟩ with
  | none => rfl
  | some m => exact absurd (Slots.lt_size_of_get? hm) (Nat.lt_irrefl _)

theorem module?_insertModule (t : SymbolTable) (m : Module) (j : ModuleId) :
    (t.insertModule m).2.module? j =
      if j = ⟨t.modules.size⟩ then some { m.attributeImports with declarations := .empty }
      else t.module? j := by
  simp [insertModule, module?, Slots.get?_push, ← ModuleId.index_inj]

/-- In the prepared table the slot of the module holds it, and the other slots are as they were. -/
theorem bareModule?_prepared (t : SymbolTable) (m : Module) (ds : List Declaration) (j : ModuleId) :
    (t.prepared m ds).bareModule? j =
      if j = t.slotFor m then some { m.attributeImports with declarations := .empty }
      else t.bareModule? j := by
  unfold prepared slotFor
  cases h : t.moduleTwin? m with
  | none => by_cases hj : j = ⟨t.modules.size⟩ <;> simp [bareModule?, module?_insertModule, hj]
  | some id =>
    obtain ⟨k, hk, -⟩ := mem_of_moduleTwin? h
    have hset := module?_setModule hk
    by_cases hj : j = id
    · subst hj
      simp [bareModule?, hset]
    · simp [bareModule?, hset, hj, Ne.symm hj]

theorem isSome_module?_prepared (t : SymbolTable) (m : Module) (ds : List Declaration) :
    ((t.prepared m ds).module? (t.slotFor m)).isSome := by
  rw [← isSome_bareModule?, bareModule?_prepared]
  simp

theorem absorbModule_of_refusal {m : Module} {ds : List Declaration} {e : SymbolError}
    (h : ds.findSome? (·.refusal? (t.slotFor m)) = some e) : t.absorbModule m ds = (.error e, t) := by
  rw [absorbModule_eq, h]

theorem absorbModule_of_passed {m : Module} {ds : List Declaration}
    (h : ds.findSome? (·.refusal? (t.slotFor m)) = none) :
    t.absorbModule m ds =
      (.ok (t.slotFor m), ((t.prepared m ds).insertDeclarations (t.slotFor m) ds).2) := by
  have hm := t.isSome_module?_prepared m ds
  have hok := (insertDeclarations_induction (P := fun _ _ => True) (fun _ _ _ _ _ _ => trivial) hm
    (List.findSome?_eq_none_iff.1 h) trivial).1
  rw [absorbModule_eq, h]
  simp [hok, Except.map]

theorem absorbModule_ok {m : Module} {ds : List Declaration} {id : ModuleId}
    (hok : (t.absorbModule m ds).1 = .ok id) :
    id = t.slotFor m ∧ (∀ d ∈ ds, d.refusal? id = none) ∧
      (t.absorbModule m ds).2 = ((t.prepared m ds).insertDeclarations id ds).2 := by
  cases h : ds.findSome? (·.refusal? (t.slotFor m)) with
  | some e => simp [absorbModule_of_refusal h] at hok
  | none =>
    rw [absorbModule_of_passed h] at hok ⊢
    obtain rfl := Except.ok.inj hok
    exact ⟨rfl, List.findSome?_eq_none_iff.1 h, rfl⟩

theorem absorbModule_error_iff {m : Module} {ds : List Declaration} {e : SymbolError} :
    (t.absorbModule m ds).1 = .error e ↔
      ∃ d owner, ds.find? (·.isForeign (t.slotFor m)) = some d ∧ d.owner = some owner ∧
        e = .ownershipViolation d.name owner (t.slotFor m) := by
  have hfirst := findSome?_refusal? (t.slotFor m) ds
  cases hf : ds.find? (·.isForeign (t.slotFor m)) with
  | none =>
    rw [hf, Option.bind_none] at hfirst
    simp [absorbModule_of_passed hfirst]
  | some d =>
    have hforeign := List.find?_some hf
    obtain ⟨owner, ho, hne⟩ := Declaration.isForeign_iff.1 hforeign
    have hr := Declaration.refusal?_eq_some_iff.2 ⟨owner, ho, hne, rfl⟩
    rw [hf, Option.bind_some, hr] at hfirst
    simp [absorbModule_of_refusal hfirst, ho, @eq_comm _ e]

theorem absorbModule_fails_iff {m : Module} {ds : List Declaration} :
    (∃ e, (t.absorbModule m ds).1 = .error e) ↔ ∃ d ∈ ds, d.isForeign (t.slotFor m) = true := by
  constructor
  · rintro ⟨e, he⟩
    obtain ⟨d, -, hd, -, -⟩ := absorbModule_error_iff.1 he
    have hforeign := List.find?_some hd
    exact ⟨d, List.mem_of_find?_eq_some hd, hforeign⟩
  · intro h
    have hsome : (ds.find? (·.isForeign (t.slotFor m))).isSome := List.find?_isSome.2 h
    obtain ⟨d, hd⟩ := Option.isSome_iff_exists.1 hsome
    have hforeign := List.find?_some hd
    obtain ⟨owner, ho, -⟩ := Declaration.isForeign_iff.1 hforeign
    exact ⟨_, absorbModule_error_iff.2 ⟨d, owner, hd, ho, rfl⟩⟩

theorem absorbModule_unchanged {m : Module} {ds : List Declaration} {e : SymbolError}
    (he : (t.absorbModule m ds).1 = .error e) : (t.absorbModule m ds).2 = t := by
  cases h : ds.findSome? (·.refusal? (t.slotFor m)) with
  | none => simp [absorbModule_of_passed h] at he
  | some e' => rw [absorbModule_of_refusal h]

/-- Reported declarations have no owner yet, so nothing refuses them. -/
theorem absorbReport_ok (t : SymbolTable) (r : ModuleReport) (location : Option Location) (time : UInt64) :
    (t.absorbReport r location time).1 = .ok (t.slotFor (r.toModule location time)) := by
  have h : r.toDeclarations.findSome? (·.refusal? (t.slotFor (r.toModule location time))) = none := by
    rw [List.findSome?_eq_none_iff]
    intro d hd
    obtain ⟨x, -, rfl⟩ := List.mem_map.1 hd
    rfl
  rw [absorbReport, absorbModule_of_passed h]

/-- All that storing a declaration without an owner can do. -/
theorem absorbDeclaration_detached {d : Declaration} (ho : d.owner = none) :
    (∃ i known, i ∈ t.detached ∧ t.declaration? i = some known ∧ t.sameDeclaration known d = true ∧
        t.absorbDeclaration d = (.ok i, t.setDeclaration i d)) ∨
      (∀ i ∈ t.detached, ∀ known, t.declaration? i = some known → t.sameDeclaration known d = false) ∧
        t.absorbDeclaration d =
          let p := t.allocate d
          (.ok p.1, { p.2 with detached := p.2.detached ++ [p.1] }) := by
  cases hf : t.detached.find? fun id => (t.declaration? id).any fun known => t.sameDeclaration known d with
  | some i =>
    left
    have hany := List.find?_some hf
    obtain ⟨known, hk, hs⟩ := (Option.any_eq_true _ _).1 hany
    refine ⟨i, known, List.mem_of_find?_eq_some hf, hk, hs, ?_⟩
    simp [absorbDeclaration, ho, hf, setDeclaration]
  | none =>
    right
    refine ⟨fun i hi known hk => ?_, by simp [absorbDeclaration, ho, hf]⟩
    have := List.find?_eq_none.1 hf i hi
    simpa [hk] using this

theorem absorbDeclaration_owned {d : Declaration} {id : ModuleId} (ho : d.owner = some id) :
    t.absorbDeclaration d = t.insertDeclaration id d := by
  simp [absorbDeclaration, ho]

theorem absorbDeclaration_error_iff {d : Declaration} {e : SymbolError} :
    (t.absorbDeclaration d).1 = .error e ↔
      ∃ owner, d.owner = some owner ∧ t.module? owner = none ∧ e = .unknownModule owner := by
  cases ho : d.owner with
  | none => rcases absorbDeclaration_detached (t := t) ho with ⟨i, -, -, -, -, h⟩ | ⟨-, h⟩ <;> simp [h]
  | some id =>
    -- a declaration is never foreign to its own owner
    have hr : d.refusal? id = none := by simp [Declaration.refusal?, ho]
    rw [absorbDeclaration_owned ho, insertDeclaration_error_iff, hr]
    simp

theorem absorbDeclaration_unchanged {d : Declaration} {e : SymbolError}
    (he : (t.absorbDeclaration d).1 = .error e) : (t.absorbDeclaration d).2 = t := by
  obtain ⟨owner, ho, -, -⟩ := absorbDeclaration_error_iff.1 he
  rw [absorbDeclaration_owned ho] at he ⊢
  exact insertDeclaration_unchanged he

/-- When each call fails and with which error, and that a failed call changes nothing. -/
theorem failures_exact_and_atomic (t : SymbolTable) :
    (∀ m ds, (∃ e, (t.absorbModule m ds).1 = .error e) ↔ ∃ d ∈ ds, d.isForeign (t.slotFor m) = true) ∧
    (∀ m ds e, (t.absorbModule m ds).1 = .error e →
      ∃ d owner, ds.find? (·.isForeign (t.slotFor m)) = some d ∧ d.owner = some owner ∧
        e = .ownershipViolation d.name owner (t.slotFor m)) ∧
    (∀ id d e, (t.insertDeclaration id d).1 = .error e ↔
      t.module? id = none ∧ e = .unknownModule id ∨
        (t.module? id).isSome ∧ ∃ owner, d.owner = some owner ∧ owner ≠ id ∧
          e = .ownershipViolation d.name owner id) ∧
    (∀ d e, (t.absorbDeclaration d).1 = .error e ↔
      ∃ owner, d.owner = some owner ∧ t.module? owner = none ∧ e = .unknownModule owner) ∧
    (∀ r location time, ∃ id, (t.absorbReport r location time).1 = .ok id) ∧
    (∀ m ds e, (t.absorbModule m ds).1 = .error e → (t.absorbModule m ds).2 = t) ∧
    (∀ id d e, (t.insertDeclaration id d).1 = .error e → (t.insertDeclaration id d).2 = t) ∧
    (∀ d e, (t.absorbDeclaration d).1 = .error e → (t.absorbDeclaration d).2 = t) := by
  refine ⟨fun m ds => absorbModule_fails_iff, fun m ds e he => absorbModule_error_iff.1 he, ?_,
    fun d e => absorbDeclaration_error_iff, fun r location time => ⟨_, absorbReport_ok t r location time⟩,
    fun m ds e => absorbModule_unchanged, fun id d e => insertDeclaration_unchanged,
    fun d e => absorbDeclaration_unchanged⟩
  intro id d e
  rw [insertDeclaration_error_iff, Declaration.refusal?_eq_some_iff]

end SymbolTable
end SymbolGraph
