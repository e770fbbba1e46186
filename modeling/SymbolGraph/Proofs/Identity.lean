import SymbolGraph.Proofs.Replacement

/-!
# Identity: merging never stores the same thing twice

Two modules are the same if both can be told apart by their name and origin, and these agree; declarations are the
same if their names and owners agree. A table that only ever takes modules in by identity holds each of them once,
and finds it again.
-/
namespace SymbolGraph

/-- Two things are related just if both have a key, and the same one. -/
def IsKeyEquality {α κ : Type} (related : α → α → Bool) (key? : α → Option κ) : Prop :=
  ∀ a b, related a b = true ↔ ∃ k, key? a = some k ∧ key? b = some k

namespace IsKeyEquality
variable {α κ : Type} {related : α → α → Bool} {key? : α → Option κ} {a b c : α}

theorem symm (h : IsKeyEquality related key?) (hab : related a b = true) : related b a = true := by
  obtain ⟨k, ha, hb⟩ := (h a b).1 hab
  exact (h b a).2 ⟨k, hb, ha⟩

theorem trans (h : IsKeyEquality related key?) (hab : related a b = true) (hbc : related b c = true) :
    related a c = true := by
  obtain ⟨k, ha, hb⟩ := (h a b).1 hab
  obtain ⟨k', hb', hc⟩ := (h b c).1 hbc
  obtain rfl : k = k' := Option.some.inj (hb.symm.trans hb')
  exact (h a c).2 ⟨k, ha, hc⟩

theorem self_iff (h : IsKeyEquality related key?) : related a a = true ↔ (key? a).isSome := by
  rw [h a a, Option.isSome_iff_exists]
  simp

end IsKeyEquality

/-- What tells modules of one name apart. -/
inductive Origin where
  | installed (key : String)
  | file (name : String)
  | nowhere
  deriving DecidableEq, Repr

namespace Module
variable {l m r : Module}

/-- Where a module comes from, unless its location does not say. -/
def origin? (m : Module) : Option Origin :=
  match m.location with
  | some (.installed place) => some (.installed place.key)
  | some (.source place) => place.filename.map .file
  | some (.other _) => none
  | none => some .nowhere

/-- Name and origin, by which a module is known again. -/
def identity? (m : Module) : Option (String × Origin) := m.origin?.map fun o => (m.name, o)

theorem agree_iff {a b : Option String} : agree a b = true ↔ ∃ x, a = some x ∧ b = some x := by
  simp only [agree, Option.any_eq_true, beq_iff_eq]
  constructor
  · rintro ⟨x, ha, y, hb, rfl⟩
    exact ⟨x, ha, hb⟩
  · rintro ⟨x, ha, hb⟩
    exact ⟨x, ha, x, hb, rfl⟩

theorem origin?_eq_installed_iff {k : String} :
    m.origin? = some (.installed k) ↔ m.installedKey? = some k := by
  rcases h : m.location with _ | ⟨⟨_ | f, p⟩⟩ | i | o <;> simp [origin?, installedKey?, h]

theorem origin?_eq_file_iff {f : String} : m.origin? = some (.file f) ↔ m.filename? = some f := by
  rcases h : m.location with _ | ⟨⟨_ | f, p⟩⟩ | i | o <;>
    simp [origin?, filename?, Location.filename?, h]

theorem origin?_eq_nowhere_iff : m.origin? = some .nowhere ↔ m.location.isNone := by
  rcases h : m.location with _ | ⟨⟨_ | f, p⟩⟩ | i | o <;> simp [origin?, h]

theorem same_iff_origin :
    l.same r = true ↔ l.name = r.name ∧ ∃ o, l.origin? = some o ∧ r.origin? = some o := by
  simp only [same, Bool.and_eq_true, Bool.or_eq_true, beq_iff_eq, agree_iff]
  refine and_congr_right fun _ => ?_
  simp only [← origin?_eq_installed_iff, ← origin?_eq_file_iff, ← origin?_eq_nowhere_iff]
  constructor
  · rintro ((⟨k, hl, hr⟩ | ⟨f, hl, hr⟩) | ⟨hl, hr⟩)
    · exact ⟨_, hl, hr⟩
    · exact ⟨_, hl, hr⟩
    · exact ⟨_, hl, hr⟩
  · rintro ⟨o, hl, hr⟩
    cases o with
    | installed k => exact .inl (.inl ⟨k, hl, hr⟩)
    | file f => exact .inl (.inr ⟨f, hl, hr⟩)
    | nowhere => exact .inr ⟨hl, hr⟩

theorem isKeyEquality_same : IsKeyEquality same identity? := by
  intro l r
  rw [same_iff_origin]
  constructor
  · rintro ⟨hn, o, hl, hr⟩
    exact ⟨(l.name, o), by simp [identity?, hl], by simp [identity?, hr, hn]⟩
  · rintro ⟨k, hl, hr⟩
    obtain ⟨o, ho, rfl⟩ := Option.map_eq_some_iff.1 hl
    obtain ⟨o', ho', heq⟩ := Option.map_eq_some_iff.1 hr
    obtain ⟨hn, rfl⟩ := Prod.mk.inj heq
    exact ⟨hn.symm, o', ho, ho'⟩

theorem same_symm (h : l.same r = true) : r.same l = true := isKeyEquality_same.symm h

theorem same_trans (h : l.same m = true) (h' : m.same r = true) : l.same r = true := isKeyEquality_same.trans h h'

theorem same_self_iff : m.same m = true ↔ m.identity?.isSome := isKeyEquality_same.self_iff

theorem name_of_same (h : l.same r = true) : l.name = r.name := (same_iff_origin.1 h).1

end Module

namespace SymbolTable
variable {t t' : SymbolTable}

/-- The name index has every module, and no two modules are the same. -/
structure Distinct (t : SymbolTable) : Prop where
  indexed : ∀ {id b}, t.bareModule? id = some b → id ∈ (t.byName.get? b.name).getD []
  unique : ∀ {id id' b b'}, t.bareModule? id = some b → t.bareModule? id' = some b' →
    b.same b' = true → id = id'

@[simp] theorem byName_allocate (t : SymbolTable) (d : Declaration) : (t.allocate d).2.byName = t.byName := by
  unfold allocate
  split <;> rfl

@[simp] theorem byName_foldl_release (t : SymbolTable) (is : List DeclarationId) :
    (is.foldl release t).byName = t.byName := by
  induction is generalizing t with
  | nil => rfl
  | cons i is ih =>
    rw [List.foldl_cons, ih]
    unfold release
    split <;> rfl

theorem byName_insertDeclaration (t : SymbolTable) (id : ModuleId) (d : Declaration) :
    (t.insertDeclaration id d).2.byName = t.byName := by
  obtain ⟨-, h⟩ | ⟨m, -, ⟨e, -, h⟩ | ⟨-, ⟨i, -, h⟩ | ⟨-, h⟩⟩⟩ := t.insertDeclaration_cases id d
  · rw [h]
  · rw [h]
  · rw [h]
    rfl
  · rw [h]
    exact byName_allocate t _

theorem mem_byName_prepared (m : Module) (ds : List Declaration) {n : String} {j : ModuleId}
    (h : j ∈ (t.byName.get? n).getD []) : j ∈ ((t.prepared m ds).byName.get? n).getD [] := by
  unfold prepared
  cases t.moduleTwin? m with
  | some id =>
    simp only [byName_foldl_release]
    exact h
  | none =>
    simp only [insertModule, OrderedMap.get?_alter]
    by_cases hn : m.name = n
    · subst hn
      simp [h]
    · simpa [hn] using h

namespace Distinct

theorem congr (h : Distinct t) (hb : ∀ j, t'.bareModule? j = t.bareModule? j)
    (hn : t'.byName = t.byName) : Distinct t' where
  indexed hid := by
    rw [hb] at hid
    rw [hn]
    exact h.indexed hid
  unique hid hid' := by
    rw [hb] at hid hid'
    exact h.unique hid hid'

theorem insertDeclaration (h : Distinct t) (id : ModuleId) (d : Declaration) :
    Distinct (t.insertDeclaration id d).2 :=
  h.congr (bareModule?_insertDeclaration t id d) (byName_insertDeclaration t id d)

theorem insertDeclarations (h : Distinct t) {id : ModuleId} {ds : List Declaration}
    (hlive : (t.module? id).isSome) (hpass : ∀ d ∈ ds, d.refusal? id = none) :
    Distinct (t.insertDeclarations id ds).2 :=
  (insertDeclarations_induction (P := fun t _ => Distinct t)
    (fun _ d _ _ _ hd => hd.insertDeclaration id d) hlive hpass h).2

/-- A module that is the same as a stored one finds it. -/
theorem moduleTwin?_eq_some (h : Distinct t) {m k : Module} {j : ModuleId} (hk : t.module? j = some k)
    (hs : k.same m = true) : t.moduleTwin? m = some j := by
  cases htwin : t.moduleTwin? m with
  | some id =>
    obtain ⟨k', hk', hs'⟩ := mem_of_moduleTwin? htwin
    have hsame : k'.same k = true := Module.same_trans hs' (Module.same_symm hs)
    rw [h.unique (bareModule?_of_module? hk') (bareModule?_of_module? hk) hsame]
  | none =>
    have hmem : (j, k) ∈ t.modulesNamed m.name := by
      have hindexed := h.indexed (bareModule?_of_module? hk)
      rw [Module.name_of_same hs] at hindexed
      exact List.mem_filterMap.2 ⟨j, hindexed, by simp [hk]⟩
    have hnone := List.find?_eq_none.1 (Option.map_eq_none_iff.1 htwin) (j, k) hmem
    exact absurd hs hnone

/-- A new module is put in the index, and a newer version of one is there already. -/
theorem mem_byName_slotFor (h : Distinct t) (m : Module) (ds : List Declaration) :
    t.slotFor m ∈ ((t.prepared m ds).byName.get? m.name).getD [] := by
  cases htwin : t.moduleTwin? m with
  | some id =>
    obtain ⟨k, hk, hs⟩ := mem_of_moduleTwin? htwin
    have hslot : t.slotFor m = id := by simp [slotFor, htwin]
    have hindexed := h.indexed (bareModule?_of_module? hk)
    rw [Module.name_of_same hs] at hindexed
    rw [hslot]
    exact mem_byName_prepared m ds hindexed
  | none => simp [slotFor, SymbolTable.prepared, htwin, SymbolTable.insertModule, OrderedMap.get?_alter]

theorem prepared (h : Distinct t) (m : Module) (ds : List Declaration) : Distinct (t.prepared m ds) := by
  have hold {j b} (hj : j ≠ t.slotFor m) (hb : (t.prepared m ds).bareModule? j = some b) :
      t.bareModule? j = some b := by rwa [bareModule?_prepared, if_neg hj] at hb
  have hnew {b} (hb : (t.prepared m ds).bareModule? (t.slotFor m) = some b) :
      { m.attributeImports with declarations := .empty } = b := by
    rwa [bareModule?_prepared, if_pos rfl, Option.some.injEq] at hb
  -- another module would be the same as the one that has its slot
  have hapart {j b} (hj : j ≠ t.slotFor m) (hb : (t.prepared m ds).bareModule? j = some b) :
      b.same m ≠ true := by
    intro hs
    obtain ⟨k, hk, rfl⟩ := Option.map_eq_some_iff.1 (hold hj hb)
    exact hj (by simp [slotFor, h.moduleTwin?_eq_some hk hs])
  constructor
  · intro j b hb
    by_cases hj : j = t.slotFor m
    · subst hj
      rw [← hnew hb]
      exact h.mem_byName_slotFor m ds
    · exact mem_byName_prepared m ds (h.indexed (hold hj hb))
  · intro j j' b b' hb hb' hs
    by_cases hj : j = t.slotFor m <;> by_cases hj' : j' = t.slotFor m
    · rw [hj, hj']
    · subst hj
      obtain rfl := hnew hb
      exact absurd (Module.same_symm hs) (hapart hj' hb')
    · subst hj'
      obtain rfl := hnew hb'
      exact absurd hs (hapart hj hb)
    · exact h.unique (hold hj hb) (hold hj' hb') hs

theorem absorbModule (h : Distinct t) (m : Module) (ds : List Declaration) :
    Distinct (t.absorbModule m ds).2 := by
  cases hr : (t.absorbModule m ds).1 with
  | error e =>
    rw [absorbModule_unchanged hr]
    exact h
  | ok id =>
    obtain ⟨rfl, hpass, heq⟩ := absorbModule_ok hr
    rw [heq]
    exact (h.prepared m ds).insertDeclarations (t.isSome_module?_prepared m ds) hpass

theorem eraseModule (h : Distinct t) (id : ModuleId) : Distinct (t.eraseModule id).2 := by
  obtain ⟨-, heq⟩ | ⟨m, hm, heq⟩ := t.eraseModule_cases id
  · rw [heq]
    exact h
  · have hbare (j : ModuleId) : (t.eraseModule id).2.bareModule? j =
        if id = j then none else t.bareModule? j := by
      rw [heq]
      by_cases hj : id = j <;> simp [bareModule?, module?_clearModule, hj]
    have hold {j b} (hb : (t.eraseModule id).2.bareModule? j = some b) :
        id ≠ j ∧ t.bareModule? j = some b := by
      rw [hbare] at hb
      split at hb
      · cases hb
      · exact ⟨‹_›, hb⟩
    constructor
    · intro j b hb
      obtain ⟨hj, hb⟩ := hold hb
      have hindexed := h.indexed hb
      rw [heq, byName_foldl_release, clearModule, OrderedMap.get?_alter]
      by_cases hn : m.name = b.name
      · simp [hn, hindexed, Ne.symm hj]
      · simpa [hn] using hindexed
    · intro j j' b b' hb hb'
      exact h.unique (hold hb).2 (hold hb').2

theorem absorbDeclaration (h : Distinct t) (d : Declaration) : Distinct (t.absorbDeclaration d).2 := by
  cases ho : d.owner with
  | some id =>
    rw [absorbDeclaration_owned ho]
    exact h.insertDeclaration id d
  | none =>
    rcases absorbDeclaration_detached (t := t) ho with ⟨i, -, -, -, -, heq⟩ | ⟨-, heq⟩
    · rw [heq]
      exact h.congr (fun _ => rfl) rfl
    · rw [heq]
      refine h.congr (fun j => ?_) (byName_allocate t d)
      exact congrArg (Option.map _) (module?_allocate t d j)

end Distinct

theorem distinct_empty : Distinct empty := by
  have hb (id : ModuleId) : empty.bareModule? id = none := congrArg (Option.map _) (Slots.get?_empty _)
  constructor <;> simp [hb]

/-- Runs that store every module by its identity hold each once. -/
theorem distinct_run {ops : List Operation} (hops : ∀ op ∈ ops, ∀ m, op ≠ .insertModule m) :
    Distinct (empty.run ops) := by
  refine run_induction (fun t op hmem h => ?_) distinct_empty
  cases op with
  | insertModule m => exact absurd rfl (hops _ hmem m)
  | absorbModule m ds => exact h.absorbModule m ds
  | absorbReport r location time => exact h.absorbModule _ _
  | eraseModule id => exact h.eraseModule id
  | insertDeclaration id d => exact h.insertDeclaration id d
  | absorbDeclaration d => exact h.absorbDeclaration d

theorem mem_liveDeclarations {i : DeclarationId} {d : Declaration} :
    (i, d) ∈ t.liveDeclarations ↔ t.declaration? i = some d := by
  have hlive : (i.index, d) ∈ t.declarations.live ↔ t.declaration? i = some d := Slots.mem_live
  simp only [liveDeclarations, List.mem_map, Prod.mk.injEq]
  constructor
  · rintro ⟨p, hp, rfl, rfl⟩
    exact hlive.1 hp
  · intro hd
    exact ⟨_, hlive.2 hd, rfl, rfl⟩

/-- Declarations of the same module or of none have different names. -/
theorem Linked.sameDeclaration_unique (h : Linked t [] []) (hdistinct : Distinct t) {i j : DeclarationId}
    {d e : Declaration} (hd : t.declaration? i = some d) (he : t.declaration? j = some e)
    (hs : t.sameDeclaration d e = true) : i = j := by
  obtain ⟨hname, ⟨hdo, heo⟩ | ⟨a, b, m, n, hdo, heo, hm, hn, hsame⟩⟩ := sameDeclaration_iff.1 hs
  · have hi : i ∈ t.detached := h.detached.2 ⟨List.not_mem_nil, d, hd, hdo⟩
    have hj : j ∈ t.detached := h.detached.2 ⟨List.not_mem_nil, e, he, heo⟩
    exact h.detached_names hi hj hd he hname
  · obtain rfl : a = b := hdistinct.unique (bareModule?_of_module? hm) (bareModule?_of_module? hn) hsame
    have hi := (h.owned hd hdo).resolve_left List.not_mem_nil
    have hj := (h.owned he heo).resolve_left List.not_mem_nil
    rw [lists_iff hm, hname] at hi
    rw [lists_iff hm] at hj
    exact Option.some.inj (hi.symm.trans hj)

theorem Linked.declarationTwin?_self (h : Linked t [] []) (hdistinct : Distinct t) {i : DeclarationId}
    {d : Declaration} (hd : t.declaration? i = some d) (hs : t.sameDeclaration d d = true) :
    t.declarationTwin? d = some i := by
  unfold declarationTwin?
  cases hf : t.liveDeclarations.find? fun p => t.sameDeclaration p.2 d with
  | none =>
    have hnone := List.find?_eq_none.1 hf (i, d) (mem_liveDeclarations.2 hd)
    exact absurd hs hnone
  | some p =>
    have hp := mem_liveDeclarations.1 (List.mem_of_find?_eq_some hf)
    have hsame := List.find?_some hf
    rw [Option.map_some, h.sameDeclaration_unique hdistinct hp hd hsame]

/-- Without modules stored regardless of their identity, no identity occurs twice, and what can be known again
is found under its own id. -/
theorem identities_unique_and_found (ops : List Operation) (hops : ∀ op ∈ ops, ∀ m, op ≠ .insertModule m) :
    (∀ id id' m m', (empty.run ops).module? id = some m → (empty.run ops).module? id' = some m' →
      m.same m' = true → id = id') ∧
    (∀ i j d e, (empty.run ops).declaration? i = some d → (empty.run ops).declaration? j = some e →
      (empty.run ops).sameDeclaration d e = true → i = j) ∧
    (∀ id m, (empty.run ops).module? id = some m → m.identity?.isSome →
      (empty.run ops).moduleTwin? m = some id) ∧
    (∀ i d, (empty.run ops).declaration? i = some d →
      (d.owner = none ∨ ∃ id m, d.owner = some id ∧ (empty.run ops).module? id = some m ∧
        m.identity?.isSome) → (empty.run ops).declarationTwin? d = some i) := by
  have h := linked_run ops
  have hdistinct := distinct_run hops
  generalize empty.run ops = t at h hdistinct
  refine ⟨?_, ?_, ?_, ?_⟩
  · intro id id' m m' hm hm' hs
    exact hdistinct.unique (bareModule?_of_module? hm) (bareModule?_of_module? hm') hs
  · intro i j d e hd he hs
    exact h.sameDeclaration_unique hdistinct hd he hs
  · intro id m hm hid
    exact hdistinct.moduleTwin?_eq_some hm (Module.same_self_iff.2 hid)
  · intro i d hd hknown
    refine h.declarationTwin?_self hdistinct hd (sameDeclaration_iff.2 ⟨rfl, ?_⟩)
    rcases hknown with ho | ⟨id, m, ho, hm, hid⟩
    · exact .inl ⟨ho, ho⟩
    · exact .inr ⟨id, id, m, m, ho, ho, hm, hm, Module.same_self_iff.2 hid⟩

/-- A file inspected twice is one module with one `f`, and a detached `f` is another declaration. -/
theorem identities_found_after_reinspection :
    let m : Module := { name := "A", location := some (.source { filename := some "A.hs" }) }
    let d : Declaration := { name := "f", kind := .other }
    let ops : List Operation :=
      [.absorbModule m [d], .absorbModule { m with inspectedAt := 9 } [d], .absorbDeclaration d]
    (∀ op ∈ ops, ∀ k, op ≠ .insertModule k) ∧
      (empty.run ops).declarationTwin? (d.storedIn ⟨0⟩ m.location) = some ⟨0⟩ ∧
      (empty.run ops).declarationTwin? d = some ⟨1⟩ := by
  intro m d ops
  have hops : ∀ op ∈ ops, ∀ k, op ≠ .insertModule k := by simp [ops]
  have hm : (empty.run ops).module? ⟨0⟩ =
      some { m with inspectedAt := 9, declarations := OrderedMap.ofList [("f", ⟨0⟩)] } := by decide +zetaReduce
  have hlisted : (empty.run ops).declaration? ⟨0⟩ = some (d.storedIn ⟨0⟩ m.location) := by decide +zetaReduce
  have hdetached : (empty.run ops).declaration? ⟨1⟩ = some d := by decide +zetaReduce
  obtain ⟨-, -, -, htwin⟩ := identities_unique_and_found ops hops
  exact ⟨hops, htwin _ _ hlisted (.inr ⟨_, _, rfl, hm, rfl⟩), htwin _ _ hdetached (.inl rfl)⟩

/-! ## Being the same -/

/-- Name and owner, by which a declaration is known again. There is no owner to a detached one, and an owner that is not
stored, or is not known again itself, does not tell. -/
def declarationIdentity? (t : SymbolTable) (d : Declaration) : Option (String × Option (String × Origin)) :=
  match d.owner with
  | none => some (d.name, none)
  | some id => ((t.module? id).bind Module.identity?).map fun k => (d.name, some k)

theorem declarationIdentity?_of_detached {d : Declaration} (hd : d.owner = none) :
    t.declarationIdentity? d = some (d.name, none) := by
  simp [declarationIdentity?, hd]

theorem declarationIdentity?_of_owner {d : Declaration} {id : ModuleId} {m : Module} (hd : d.owner = some id)
    (hm : t.module? id = some m) : t.declarationIdentity? d = m.identity?.map fun k => (d.name, some k) := by
  simp [declarationIdentity?, hd, hm]

theorem declarationIdentity?_cases {d : Declaration} {p : String × Option (String × Origin)}
    (h : t.declarationIdentity? d = some p) : p.1 = d.name ∧
      (d.owner = none ∧ p.2 = none ∨
        ∃ id m k, d.owner = some id ∧ t.module? id = some m ∧ m.identity? = some k ∧ p.2 = some k) := by
  cases hd : d.owner with
  | none =>
    rw [declarationIdentity?_of_detached hd] at h
    obtain rfl := Option.some.inj h
    exact ⟨rfl, .inl ⟨rfl, rfl⟩⟩
  | some id =>
    simp only [declarationIdentity?, hd] at h
    obtain ⟨k, hk, rfl⟩ := Option.map_eq_some_iff.1 h
    obtain ⟨m, hm, hmk⟩ := Option.bind_eq_some_iff.1 hk
    exact ⟨rfl, .inr ⟨id, m, k, rfl, hm, hmk, rfl⟩⟩

theorem isKeyEquality_sameDeclaration (t : SymbolTable) : IsKeyEquality t.sameDeclaration t.declarationIdentity? := by
  intro d e
  rw [sameDeclaration_iff]
  constructor
  · rintro ⟨hname, ⟨hd, he⟩ | ⟨a, b, m, n, hd, he, hm, hn, hs⟩⟩
    · refine ⟨_, declarationIdentity?_of_detached hd, ?_⟩
      rw [declarationIdentity?_of_detached he, hname]
    · obtain ⟨k, hk, hk'⟩ := (Module.isKeyEquality_same m n).1 hs
      refine ⟨(d.name, some k), ?_, ?_⟩
      · rw [declarationIdentity?_of_owner hd hm, hk, Option.map_some]
      · rw [declarationIdentity?_of_owner he hn, hk', Option.map_some, hname]
  · rintro ⟨p, hd, he⟩
    obtain ⟨hname, hcase⟩ := declarationIdentity?_cases hd
    obtain ⟨hname', hcase'⟩ := declarationIdentity?_cases he
    refine ⟨hname.symm.trans hname', ?_⟩
    -- both are detached or both are owned, since the key says which
    rcases hcase with ⟨hd, hp⟩ | ⟨a, m, k, hd, hm, hk, hp⟩ <;>
      rcases hcase' with ⟨he, hp'⟩ | ⟨b, n, k', he, hn, hk', hp'⟩
    · exact .inl ⟨hd, he⟩
    · cases hp.symm.trans hp'
    · cases hp.symm.trans hp'
    · obtain rfl : k = k' := Option.some.inj (hp.symm.trans hp')
      exact .inr ⟨a, b, m, n, hd, he, hm, hn, (Module.isKeyEquality_same m n).2 ⟨k, hk, hk'⟩⟩

/-- What can be known again is detached, or has an owner that is stored and can be known again. -/
theorem isSome_declarationIdentity?_iff {d : Declaration} : (t.declarationIdentity? d).isSome ↔
    d.owner = none ∨ ∃ id m, d.owner = some id ∧ t.module? id = some m ∧ m.identity?.isSome := by
  constructor
  · intro h
    obtain ⟨p, hp⟩ := Option.isSome_iff_exists.1 h
    obtain ⟨-, ⟨hd, -⟩ | ⟨id, m, k, hd, hm, hk, -⟩⟩ := declarationIdentity?_cases hp
    · exact .inl hd
    · exact .inr ⟨id, m, hd, hm, by rw [hk]; rfl⟩
  · rintro (hd | ⟨id, m, hd, hm, hk⟩)
    · rw [declarationIdentity?_of_detached hd]
      rfl
    · rw [declarationIdentity?_of_owner hd hm, Option.isSome_map]
      exact hk

/-- Modules are the same if both have an identity and it is the same one, so this is symmetric and transitive, and a
module is the same as itself just if it has an identity. So it is with declarations, which are the same as
themselves if they are detached or their owner is stored and has an identity. -/
theorem same_is_key_equality :
    (∀ l r : Module, l.same r = true ↔ ∃ k, l.identity? = some k ∧ r.identity? = some k) ∧
    (∀ l r : Module, l.same r = true → r.same l = true) ∧
    (∀ l m r : Module, l.same m = true → m.same r = true → l.same r = true) ∧
    (∀ m : Module, m.same m = true ↔ m.identity?.isSome) ∧
    ∀ t : SymbolTable,
      (∀ d e, t.sameDeclaration d e = true → t.sameDeclaration e d = true) ∧
      (∀ c d e, t.sameDeclaration c d = true → t.sameDeclaration d e = true → t.sameDeclaration c e = true) ∧
      ∀ d, t.sameDeclaration d d = true ↔
        d.owner = none ∨ ∃ id m, d.owner = some id ∧ t.module? id = some m ∧ m.identity?.isSome := by
  refine ⟨Module.isKeyEquality_same, fun l r => Module.same_symm, fun l m r => Module.same_trans,
    fun m => Module.same_self_iff, fun t => ?_⟩
  have hkey := t.isKeyEquality_sameDeclaration
  exact ⟨fun d e => hkey.symm, fun c d e => hkey.trans, fun d => hkey.self_iff.trans isSome_declarationIdentity?_iff⟩

end SymbolTable
end SymbolGraph
