import SymbolGraph.Proofs.Failure

/-!
# How modules and declarations refer to each other

Inside a call the references are out of step for a while: slots wait to be released or listed, and names keep
their slot before the new declaration is written. `Linked` carries both debts, and each small change of the
table either takes one on or settles one. Between calls there is none left.
-/
namespace SymbolGraph.SymbolTable
variable {t t' : SymbolTable}

def Lists (t : SymbolTable) (id : ModuleId) (n : String) (i : DeclarationId) : Prop :=
  ∃ m, t.module? id = some m ∧ m.declarations.get? n = some i

theorem lists_iff {id : ModuleId} {m : Module} (hm : t.module? id = some m) {n : String}
    {i : DeclarationId} : t.Lists id n i ↔ m.declarations.get? n = some i := by simp [Lists, hm]

/-- The free list has every emptied slot once. -/
structure FreeExact (t : SymbolTable) : Prop where
  nodup : t.free.Nodup
  mem_iff : ∀ i : DeclarationId, i ∈ t.free ↔ i.index < t.declarations.size ∧ t.declaration? i = none

/-- The references agree, except that neither a module nor the detached list has the slots in `orphans`, and
that declarations listed under a name in `stale` may have a location other than their module's. -/
structure Linked (t : SymbolTable) (orphans : List DeclarationId) (stale : List (ModuleId × String)) :
    Prop where
  listed : ∀ {id n i}, t.Lists id n i →
    i ∉ orphans ∧ ∃ d, t.declaration? i = some d ∧ d.name = n ∧ d.owner = some id
  owned : ∀ {i d id}, t.declaration? i = some d → d.owner = some id → i ∈ orphans ∨ t.Lists id d.name i
  located : ∀ {id m n i d}, t.module? id = some m → m.declarations.get? n = some i →
    t.declaration? i = some d → d.location = m.location ∨ (id, n) ∈ stale
  orphan : ∀ i ∈ orphans, ∃ d, t.declaration? i = some d
  orphans_nodup : orphans.Nodup
  detached : ∀ {i}, i ∈ t.detached ↔ i ∉ orphans ∧ ∃ d, t.declaration? i = some d ∧ d.owner = none
  detached_nodup : t.detached.Nodup
  detached_names : ∀ {i j d e}, i ∈ t.detached → j ∈ t.detached → t.declaration? i = some d →
    t.declaration? j = some e → d.name = e.name → i = j
  free : FreeExact t
  imports : ∀ {id m}, t.module? id = some m → ∀ i ∈ m.imports, i.location = m.location

/-! ## Single slots -/

theorem declaration?_setDeclaration {i : DeclarationId} {d₀ : Declaration} (h : t.declaration? i = some d₀)
    (d : Declaration) (j : DeclarationId) :
    (t.setDeclaration i d).declaration? j = if i = j then some d else t.declaration? j := by
  have hlt : i.index < t.declarations.size := Slots.lt_size_of_get? h
  simp [setDeclaration, declaration?, Slots.get?_set _ _ _ _ hlt]

theorem declaration?_release (t : SymbolTable) (i j : DeclarationId) :
    (t.release i).declaration? j = if i = j then none else t.declaration? j := by
  unfold release
  cases h : t.declaration? i with
  | some d => simp [declaration?, Slots.get?_clear]
  | none =>
    by_cases hij : i = j
    · subst hij
      simp [h]
    · simp [hij]

theorem FreeExact.setDeclaration (h : FreeExact t) {i : DeclarationId} {d₀ : Declaration}
    (hi : t.declaration? i = some d₀) (d : Declaration) : FreeExact (t.setDeclaration i d) where
  nodup := h.nodup
  mem_iff j := by
    have hsize : (t.setDeclaration i d).declarations.size = t.declarations.size := Slots.size_set _ _ _
    have hfree : (t.setDeclaration i d).free = t.free := rfl
    rw [declaration?_setDeclaration hi, hsize, hfree]
    by_cases hij : i = j
    · subst hij
      simpa [hi] using (h.mem_iff i)
    · simpa [hij] using (h.mem_iff j)

theorem FreeExact.release (h : FreeExact t) {i : DeclarationId} {d : Declaration}
    (hi : t.declaration? i = some d) : FreeExact (t.release i) := by
  have hfree : (t.release i).free = i :: t.free := by simp [SymbolTable.release, hi]
  have hsize : (t.release i).declarations.size = t.declarations.size := by simp [SymbolTable.release, hi]
  have hlt : i.index < t.declarations.size := Slots.lt_size_of_get? hi
  have hnew : i ∉ t.free := by simp [h.mem_iff, hi]
  refine ⟨by rw [hfree]; exact List.nodup_cons.2 ⟨hnew, h.nodup⟩, fun j => ?_⟩
  rw [hfree, hsize, declaration?_release, List.mem_cons, h.mem_iff]
  by_cases hij : i = j
  · subst hij
    simp [hlt]
  · simp [hij, Ne.symm hij]

/-- The slot that is filled was emptied before or is new. -/
theorem FreeExact.fresh_allocate (h : FreeExact t) (d : Declaration) :
    t.declaration? (t.allocate d).1 = none := by
  unfold SymbolTable.allocate
  split
  · rename_i i rest hf
    exact ((h.mem_iff i).1 (by simp [hf])).2
  · cases hd : t.declaration? ⟨t.declarations.size⟩ with
    | none => rfl
    | some d => exact absurd (Slots.lt_size_of_get? hd) (Nat.lt_irrefl _)

theorem FreeExact.declaration?_allocate (h : FreeExact t) (d : Declaration) (j : DeclarationId) :
    (t.allocate d).2.declaration? j = if (t.allocate d).1 = j then some d else t.declaration? j := by
  unfold SymbolTable.allocate
  split
  · rename_i i rest hf
    have hlt : i.index < t.declarations.size := ((h.mem_iff i).1 (by simp [hf])).1
    simp [declaration?, Slots.get?_set _ _ _ _ hlt]
  · simp [declaration?, Slots.get?_push, ← DeclarationId.index_inj, eq_comm]

@[simp] theorem detached_allocate (t : SymbolTable) (d : Declaration) :
    (t.allocate d).2.detached = t.detached := by
  unfold SymbolTable.allocate
  split <;> rfl

theorem free_allocate (t : SymbolTable) (d : Declaration) :
    (t.allocate d).2.free = t.free.erase (t.allocate d).1 := by
  unfold SymbolTable.allocate
  split
  · rename_i i rest hf
    simp [hf]
  · rename_i hf
    simp [hf]

theorem FreeExact.size_allocate (h : FreeExact t) (d : Declaration) (j : DeclarationId) :
    j.index < (t.allocate d).2.declarations.size ↔
      j.index < t.declarations.size ∨ (t.allocate d).1 = j := by
  unfold SymbolTable.allocate
  split
  · rename_i i rest hf
    have hlt : i.index < t.declarations.size := ((h.mem_iff i).1 (by simp [hf])).1
    have himp : i = j → j.index < t.declarations.size := fun e => e ▸ hlt
    simpa using himp
  · simp only [Slots.size_push, ← DeclarationId.index_inj]
    omega

theorem FreeExact.allocate (h : FreeExact t) (d : Declaration) : FreeExact (t.allocate d).2 := by
  refine ⟨by rw [free_allocate]; exact h.nodup.erase _, fun j => ?_⟩
  rw [free_allocate, h.size_allocate, h.declaration?_allocate, h.nodup.mem_erase_iff, h.mem_iff]
  by_cases hj : (t.allocate d).1 = j
  · simp [hj]
  · simp [hj, Ne.symm hj]

/-! ## Small changes of the table -/

/-- A module that takes in a new name lists it besides the names it listed. -/
theorem lists_setModule_insert {id : ModuleId} {m : Module} {n : String} (hm : t.module? id = some m)
    (hnew : m.declarations.get? n = none) (i : DeclarationId) (id' : ModuleId) (n' : String)
    (j : DeclarationId) :
    (t.setModule id { m with declarations := m.declarations.insert n i }).Lists id' n' j ↔
      t.Lists id' n' j ∨ id = id' ∧ n = n' ∧ i = j := by
  have hmod := module?_setModule hm { m with declarations := m.declarations.insert n i }
  by_cases hid : id = id'
  · subst hid
    rw [lists_iff (hmod id ▸ if_pos rfl), lists_iff hm, OrderedMap.get?_insert]
    by_cases hn : n = n'
    · subst hn
      simp [hnew]
    · simp [hn]
  · simp [Lists, hmod, hid]

namespace Linked
variable {os : List DeclarationId} {st st' : List (ModuleId × String)}

theorem weaken (h : Linked t os st) (hst : ∀ p ∈ st, p ∈ st') : Linked t os st' :=
  { h with located := fun hm hn hd => (h.located hm hn hd).imp_right (hst _) }

theorem lists_inj (h : Linked t os st) {id id' : ModuleId} {n n' : String} {i : DeclarationId}
    (hl : t.Lists id n i) (hl' : t.Lists id' n' i) : id = id' ∧ n = n' := by
  obtain ⟨-, d, hd, rfl, ho⟩ := h.listed hl
  obtain ⟨-, d', hd', rfl, ho'⟩ := h.listed hl'
  obtain rfl : d = d' := Option.some.inj (hd.symm.trans hd')
  exact ⟨Option.some.inj (ho.symm.trans ho'), rfl⟩

theorem values_nodup (h : Linked t os st) {id : ModuleId} {m : Module} (hm : t.module? id = some m) :
    m.declarations.values.Nodup :=
  OrderedMap.values_nodup fun _ _ _ hk hk' => (h.lists_inj ⟨m, hm, hk⟩ ⟨m, hm, hk'⟩).2

theorem release {i : DeclarationId} (h : Linked t (i :: os) st) : Linked (t.release i) os st := by
  obtain ⟨d₀, hd₀⟩ := h.orphan i (by simp)
  have hnodup := List.nodup_cons.1 h.orphans_nodup
  have hlists {id n j} : (t.release i).Lists id n j ↔ t.Lists id n j := by simp [Lists]
  have hdetached : (t.release i).detached = t.detached := by simp [SymbolTable.release, hd₀]
  have hget {j d} : (t.release i).declaration? j = some d ↔ i ≠ j ∧ t.declaration? j = some d := by
    by_cases hij : i = j <;> simp [declaration?_release, hij]
  constructor
  case listed =>
    intro id n j hl
    obtain ⟨hj, d, hd, hn, ho⟩ := h.listed (hlists.1 hl)
    rw [List.mem_cons, not_or] at hj
    exact ⟨hj.2, d, hget.2 ⟨Ne.symm hj.1, hd⟩, hn, ho⟩
  case owned =>
    intro j d id hd ho
    obtain ⟨hij, hd⟩ := hget.1 hd
    rcases h.owned hd ho with hj | hl
    · exact .inl ((List.mem_cons.1 hj).resolve_left (Ne.symm hij))
    · exact .inr (hlists.2 hl)
  case located =>
    intro id m n j d hm hn hd
    rw [module?_release] at hm
    exact h.located hm hn (hget.1 hd).2
  case orphan =>
    intro j hj
    obtain ⟨d, hd⟩ := h.orphan j (by simp [hj])
    exact ⟨d, hget.2 ⟨fun e => hnodup.1 (e ▸ hj), hd⟩⟩
  case orphans_nodup => exact hnodup.2
  case detached =>
    intro j
    rw [hdetached, h.detached, List.mem_cons, not_or]
    constructor
    · rintro ⟨⟨hij, hj⟩, d, hd, ho⟩
      exact ⟨hj, d, hget.2 ⟨Ne.symm hij, hd⟩, ho⟩
    · rintro ⟨hj, d, hd, ho⟩
      obtain ⟨hij, hd⟩ := hget.1 hd
      exact ⟨⟨Ne.symm hij, hj⟩, d, hd, ho⟩
  case detached_nodup =>
    rw [hdetached]
    exact h.detached_nodup
  case detached_names =>
    intro j k d e hj hk hd he
    rw [hdetached] at hj hk
    exact h.detached_names hj hk (hget.1 hd).2 (hget.1 he).2
  case free => exact h.free.release hd₀
  case imports =>
    intro id m hm
    rw [module?_release] at hm
    exact h.imports hm

theorem foldl_release (h : Linked t os st) : Linked (os.foldl SymbolTable.release t) [] st := by
  induction os generalizing t with
  | nil => exact h
  | cons i os ih => exact ih h.release

/-- A filled slot may be written again for the same owner and name. This settles the location. -/
theorem setDeclaration (h : Linked t [] st) {i : DeclarationId} {d₀ d : Declaration}
    (hd₀ : t.declaration? i = some d₀) (hname : d.name = d₀.name) (howner : d.owner = d₀.owner)
    (hloc : ∀ id m, d.owner = some id → t.module? id = some m → d.location = m.location)
    (hst : ∀ p ∈ st, p ∈ st' ∨ d.owner = some p.1 ∧ d.name = p.2) :
    Linked (t.setDeclaration i d) [] st' := by
  have hget := declaration?_setDeclaration hd₀ d
  have hkept {j e} (he : t.declaration? j = some e) :
      ∃ e', (t.setDeclaration i d).declaration? j = some e' ∧ e'.name = e.name ∧ e'.owner = e.owner := by
    by_cases hij : i = j
    · subst hij
      obtain rfl : d₀ = e := Option.some.inj (hd₀.symm.trans he)
      exact ⟨d, by simp [hget], hname, howner⟩
    · exact ⟨e, by simp [hget, hij, he], rfl, rfl⟩
  have hback {j e'} (he : (t.setDeclaration i d).declaration? j = some e') :
      ∃ e, t.declaration? j = some e ∧ e'.name = e.name ∧ e'.owner = e.owner := by
    by_cases hij : i = j
    · subst hij
      obtain rfl : d = e' := by simpa [hget] using he
      exact ⟨d₀, hd₀, hname, howner⟩
    · exact ⟨e', by simpa [hget, hij] using he, rfl, rfl⟩
  constructor
  case listed =>
    intro id n j hl
    obtain ⟨hj, e, he, rfl, ho⟩ := h.listed hl
    obtain ⟨e', he', hn', ho'⟩ := hkept he
    exact ⟨hj, e', he', hn', ho'.trans ho⟩
  case owned =>
    intro j e' id he' ho'
    obtain ⟨e, he, hn, ho⟩ := hback he'
    rw [hn]
    exact h.owned he (ho ▸ ho')
  case located =>
    intro id m n j e' hm hn he'
    by_cases hij : i = j
    · subst hij
      obtain rfl : d = e' := by simpa [hget] using he'
      obtain ⟨-, e, he, rfl, ho⟩ := h.listed ⟨m, hm, hn⟩
      obtain rfl : d₀ = e := Option.some.inj (hd₀.symm.trans he)
      exact .inl (hloc id m (howner.trans ho) hm)
    · have he : t.declaration? j = some e' := by simpa [hget, hij] using he'
      refine (h.located hm hn he).imp_right fun hp => (hst _ hp).resolve_right ?_
      rintro ⟨ho, rfl⟩
      obtain ⟨m', hm', hi⟩ := (h.owned hd₀ (howner ▸ ho)).resolve_left List.not_mem_nil
      obtain rfl : m' = m := Option.some.inj (hm'.symm.trans hm)
      rw [← hname] at hi
      exact hij (Option.some.inj (hi.symm.trans hn))
  case orphan => exact fun j hj => absurd hj List.not_mem_nil
  case orphans_nodup => exact h.orphans_nodup
  case detached =>
    intro j
    rw [show (t.setDeclaration i d).detached = t.detached from rfl, h.detached]
    refine and_congr_right fun _ => ?_
    constructor
    · rintro ⟨e, he, ho⟩
      obtain ⟨e', he', -, ho'⟩ := hkept he
      exact ⟨e', he', ho'.trans ho⟩
    · rintro ⟨e', he', ho'⟩
      obtain ⟨e, he, -, ho⟩ := hback he'
      exact ⟨e, he, ho ▸ ho'⟩
  case detached_nodup => exact h.detached_nodup
  case detached_names =>
    intro j k a b hj hk ha hb hab
    obtain ⟨a', ha', hna, -⟩ := hback ha
    obtain ⟨b', hb', hnb, -⟩ := hback hb
    exact h.detached_names hj hk ha' hb' (by rw [← hna, ← hnb, hab])
  case free => exact h.free.setDeclaration hd₀ d
  case imports => exact h.imports

/-- A new declaration first waits in its slot. -/
theorem allocate (h : Linked t os st) (d : Declaration) :
    Linked (t.allocate d).2 ((t.allocate d).1 :: os) st := by
  have hfresh := h.free.fresh_allocate d
  have hget := h.free.declaration?_allocate d
  have hlists {id n j} : (t.allocate d).2.Lists id n j ↔ t.Lists id n j := by simp [Lists]
  have hkept {j e} (he : t.declaration? j = some e) :
      j ≠ (t.allocate d).1 ∧ (t.allocate d).2.declaration? j = some e := by
    have hj : j ≠ (t.allocate d).1 := by
      rintro rfl
      simp [hfresh] at he
    exact ⟨hj, by simp [hget, Ne.symm hj, he]⟩
  have hback {j e} (hj : j ≠ (t.allocate d).1) (he : (t.allocate d).2.declaration? j = some e) :
      t.declaration? j = some e := by simpa [hget, Ne.symm hj] using he
  have hdetached := detached_allocate t d
  have hne {j} (hj : j ∈ t.detached) : j ≠ (t.allocate d).1 := by
    obtain ⟨-, e, he, -⟩ := h.detached.1 hj
    exact (hkept he).1
  constructor
  case listed =>
    intro id n j hl
    obtain ⟨hj, e, he, hn, ho⟩ := h.listed (hlists.1 hl)
    obtain ⟨hji, he⟩ := hkept he
    exact ⟨by simp [hji, hj], e, he, hn, ho⟩
  case owned =>
    intro j e id he ho
    by_cases hj : j = (t.allocate d).1
    · exact .inl (by simp [hj])
    · exact (h.owned (hback hj he) ho).imp (List.mem_cons_of_mem _) hlists.2
  case located =>
    intro id m n j e hm hn he
    rw [module?_allocate] at hm
    obtain ⟨-, e', he', -⟩ := h.listed ⟨m, hm, hn⟩
    exact h.located hm hn (hback (hkept he').1 he)
  case orphan =>
    intro j hj
    rcases List.mem_cons.1 hj with rfl | hj
    · exact ⟨d, by simp [hget]⟩
    · obtain ⟨e, he⟩ := h.orphan j hj
      exact ⟨e, (hkept he).2⟩
  case orphans_nodup =>
    refine List.nodup_cons.2 ⟨fun hi => ?_, h.orphans_nodup⟩
    obtain ⟨e, he⟩ := h.orphan _ hi
    exact (hkept he).1 rfl
  case detached =>
    intro j
    rw [hdetached, h.detached, List.mem_cons, not_or]
    constructor
    · rintro ⟨hj, e, he, ho⟩
      obtain ⟨hji, he⟩ := hkept he
      exact ⟨⟨hji, hj⟩, e, he, ho⟩
    · rintro ⟨⟨hji, hj⟩, e, he, ho⟩
      exact ⟨hj, e, hback hji he, ho⟩
  case detached_nodup =>
    rw [hdetached]
    exact h.detached_nodup
  case detached_names =>
    intro j k a b hj hk ha hb
    rw [hdetached] at hj hk
    exact h.detached_names hj hk (hback (hne hj) ha) (hback (hne hk) hb)
  case free => exact h.free.allocate d
  case imports =>
    intro id m hm
    rw [module?_allocate] at hm
    exact h.imports hm

/-- A waiting slot is listed by the owner of its declaration, under a new name. -/
theorem adopt {i : DeclarationId} {id : ModuleId} {m : Module} {d : Declaration}
    (h : Linked t (i :: os) ((id, d.name) :: st)) (hm : t.module? id = some m)
    (hd : t.declaration? i = some d) (ho : d.owner = some id) (hloc : d.location = m.location)
    (hnew : m.declarations.get? d.name = none) :
    Linked (t.setModule id { m with declarations := m.declarations.insert d.name i }) os st := by
  have hnodup := List.nodup_cons.1 h.orphans_nodup
  have hmod := module?_setModule hm { m with declarations := m.declarations.insert d.name i }
  have hlists {id' n j} := lists_setModule_insert hm hnew i id' n j
  constructor
  case listed =>
    intro id' n j hl
    rcases hlists.1 hl with hl | ⟨rfl, rfl, rfl⟩
    · obtain ⟨hj, e, he⟩ := h.listed hl
      exact ⟨fun hm => hj (by simp [hm]), e, he⟩
    · exact ⟨hnodup.1, d, hd, rfl, ho⟩
  case owned =>
    intro j e id' he ho'
    rcases h.owned he ho' with hj | hl
    · rcases List.mem_cons.1 hj with rfl | hj
      · obtain rfl : d = e := Option.some.inj (hd.symm.trans he)
        exact .inr (hlists.2 (.inr ⟨Option.some.inj (ho.symm.trans ho'), rfl, rfl⟩))
      · exact .inl hj
    · exact .inr (hlists.2 (.inl hl))
  case located =>
    intro id' m' n j e hm' hn he
    rcases hlists.1 ⟨m', hm', hn⟩ with hl | ⟨rfl, rfl, rfl⟩
    · have hp : (id', n) ≠ (id, d.name) := by
        rintro hp
        obtain ⟨rfl, rfl⟩ := Prod.mk.inj hp
        rw [lists_iff hm, hnew] at hl
        cases hl
      obtain ⟨m₀, hm₀, hn₀⟩ := hl
      have hloc₀ : m'.location = m₀.location := by
        by_cases hid : id = id'
        · subst hid
          obtain rfl : m = m₀ := Option.some.inj (hm.symm.trans hm₀)
          rw [hmod, if_pos rfl, Option.some.injEq] at hm'
          rw [← hm']
        · rw [hmod, if_neg hid, hm₀, Option.some.injEq] at hm'
          rw [hm']
      rw [hloc₀]
      exact (h.located hm₀ hn₀ he).imp_right fun hs => (List.mem_cons.1 hs).resolve_left hp
    · rw [hmod, if_pos rfl, Option.some.injEq] at hm'
      obtain rfl : d = e := Option.some.inj (hd.symm.trans he)
      exact .inl (by rw [hloc, ← hm'])
  case orphan => exact fun j hj => h.orphan j (by simp [hj])
  case orphans_nodup => exact hnodup.2
  case detached =>
    intro j
    have hj : (∃ e, t.declaration? j = some e ∧ e.owner = none) → j ≠ i := by
      rintro ⟨e, he, ho'⟩ rfl
      obtain rfl : d = e := Option.some.inj (hd.symm.trans he)
      simp [ho] at ho'
    exact h.detached.trans ⟨fun hd => ⟨fun hm => hd.1 (by simp [hm]), hd.2⟩,
      fun hd => ⟨by simp [hj hd.2, hd.1], hd.2⟩⟩
  case detached_nodup => exact h.detached_nodup
  case detached_names => exact h.detached_names
  case free => exact ⟨h.free.nodup, h.free.mem_iff⟩
  case imports =>
    intro id' m' hm'
    rw [hmod] at hm'
    split at hm'
    · obtain rfl := Option.some.inj hm'
      exact fun x hx => h.imports hm x hx
    · exact h.imports hm'

/-- A waiting slot joins the detached ones if none of them has its name. -/
theorem detach {i : DeclarationId} {d : Declaration} (h : Linked t (i :: os) st)
    (hd : t.declaration? i = some d) (ho : d.owner = none)
    (hnew : ∀ j ∈ t.detached, ∀ e, t.declaration? j = some e → e.name ≠ d.name) :
    Linked { t with detached := t.detached ++ [i] } os st := by
  have hnodup := List.nodup_cons.1 h.orphans_nodup
  have hi : i ∉ t.detached := fun hm => (h.detached.1 hm).1 (by simp)
  constructor
  case listed =>
    intro id n j hl
    obtain ⟨hj, e, he⟩ := h.listed hl
    exact ⟨fun hm => hj (by simp [hm]), e, he⟩
  case owned =>
    intro j e id he ho'
    refine (h.owned he ho').imp_left fun hj => (List.mem_cons.1 hj).resolve_left ?_
    rintro rfl
    obtain rfl : d = e := Option.some.inj (hd.symm.trans he)
    simp [ho] at ho'
  case located => exact h.located
  case orphan => exact fun j hj => h.orphan j (by simp [hj])
  case orphans_nodup => exact hnodup.2
  case detached =>
    intro j
    rw [List.mem_append, List.mem_singleton, h.detached]
    constructor
    · rintro (⟨hj, he⟩ | rfl)
      · exact ⟨fun hm => hj (by simp [hm]), he⟩
      · exact ⟨hnodup.1, d, hd, ho⟩
    · rintro ⟨hj, he⟩
      by_cases hji : j = i
      · exact .inr hji
      · exact .inl ⟨by simp [hji, hj], he⟩
  case detached_nodup =>
    refine List.nodup_append.2 ⟨h.detached_nodup, by simp, ?_⟩
    rintro a ha b hb rfl
    exact hi (List.mem_singleton.1 hb ▸ ha)
  case detached_names =>
    intro j k a b hj hk ha hb hab
    simp only [List.mem_append, List.mem_singleton] at hj hk
    rcases hj with hj | rfl <;> rcases hk with hk | rfl
    · exact h.detached_names hj hk ha hb hab
    · obtain rfl : d = b := Option.some.inj (hd.symm.trans hb)
      exact absurd hab (hnew j hj a ha)
    · obtain rfl : d = a := Option.some.inj (hd.symm.trans ha)
      exact absurd hab.symm (hnew k hk b hb)
    · rfl
  case free => exact ⟨h.free.nodup, h.free.mem_iff⟩
  case imports => exact h.imports

/-- A module slot is rewritten or cleared: slots that it lists no more wait to be released, and names that it
keeps may be out of place. -/
theorem relist (h : Linked t [] []) {id : ModuleId} {m : Module} (hm : t.module? id = some m)
    (hother : ∀ j, j ≠ id → t'.module? j = t.module? j) (hdecl : t'.declarations = t.declarations)
    (hdetached : t'.detached = t.detached) (hfree : t'.free = t.free)
    (hkept : ∀ {n i}, t'.Lists id n i → m.declarations.get? n = some i ∧ i ∉ os ∧ (id, n) ∈ st)
    (hdropped : ∀ {n i}, m.declarations.get? n = some i → i ∈ os ∨ t'.Lists id n i)
    (hos : ∀ i ∈ os, ∃ n, m.declarations.get? n = some i) (hnodup : os.Nodup)
    (himports : ∀ m', t'.module? id = some m' → ∀ i ∈ m'.imports, i.location = m'.location) :
    Linked t' os st := by
  have hget (j : DeclarationId) : t'.declaration? j = t.declaration? j := by rw [declaration?, hdecl]; rfl
  have hlisted {i} (hi : i ∈ os) : ∃ n, t.Lists id n i := by
    obtain ⟨n, hn⟩ := hos i hi
    exact ⟨n, m, hm, hn⟩
  have hback {id' n i} (hl : t'.Lists id' n i) : t.Lists id' n i ∧ i ∉ os := by
    by_cases hid : id' = id
    · subst hid
      obtain ⟨hn, hi, -⟩ := hkept hl
      exact ⟨⟨m, hm, hn⟩, hi⟩
    · obtain ⟨m', hm', hn⟩ := hl
      rw [hother id' hid] at hm'
      refine ⟨⟨m', hm', hn⟩, fun hi => hid ?_⟩
      obtain ⟨n', hl⟩ := hlisted hi
      exact (h.lists_inj ⟨m', hm', hn⟩ hl).1
  constructor
  case listed =>
    intro id' n i hl
    obtain ⟨hl, hi⟩ := hback hl
    obtain ⟨-, d, hd, hn, ho⟩ := h.listed hl
    exact ⟨hi, d, (hget i).trans hd, hn, ho⟩
  case owned =>
    intro i d id' hd ho
    rw [hget] at hd
    obtain ⟨m', hm', hn⟩ := (h.owned hd ho).resolve_left List.not_mem_nil
    by_cases hid : id' = id
    · subst hid
      obtain rfl : m' = m := Option.some.inj (hm'.symm.trans hm)
      exact hdropped hn
    · exact .inr ⟨m', (hother id' hid).trans hm', hn⟩
  case located =>
    intro id' m' n i d hm' hn hd
    by_cases hid : id' = id
    · subst hid
      exact .inr (hkept ⟨m', hm', hn⟩).2.2
    · rw [hother id' hid] at hm'
      rw [hget] at hd
      exact (h.located hm' hn hd).imp_right fun hs => absurd hs List.not_mem_nil
  case orphan =>
    intro i hi
    obtain ⟨n, hl⟩ := hlisted hi
    obtain ⟨-, d, hd, -⟩ := h.listed hl
    exact ⟨d, (hget i).trans hd⟩
  case orphans_nodup => exact hnodup
  case detached =>
    intro i
    rw [hdetached, h.detached, hget]
    refine ⟨fun ⟨_, hd⟩ => ⟨fun hi => ?_, hd⟩, fun ⟨_, hd⟩ => ⟨List.not_mem_nil, hd⟩⟩
    obtain ⟨d, hd, ho⟩ := hd
    obtain ⟨n, hl⟩ := hlisted hi
    obtain ⟨-, e, he, -, ho'⟩ := h.listed hl
    obtain rfl : d = e := Option.some.inj (hd.symm.trans he)
    simp [ho] at ho'
  case detached_nodup =>
    rw [hdetached]
    exact h.detached_nodup
  case detached_names =>
    intro i j d e hi hj hd he
    rw [hdetached] at hi hj
    rw [hget] at hd he
    exact h.detached_names hi hj hd he
  case free =>
    refine ⟨by rw [hfree]; exact h.free.nodup, fun i => ?_⟩
    rw [hfree, hdecl, hget]
    exact h.free.mem_iff i
  case imports =>
    intro id' m' hm'
    by_cases hid : id' = id
    · subst hid
      exact himports m' hm'
    · rw [hother id' hid] at hm'
      exact h.imports hm'

theorem insertModule (h : Linked t os st) (m : Module) : Linked (t.insertModule m).2 os st := by
  have hfresh := module?_fresh t
  have hmod := module?_insertModule t m
  have hlists {id n i} : (t.insertModule m).2.Lists id n i ↔ t.Lists id n i := by
    by_cases hid : id = ⟨t.modules.size⟩
    · subst hid
      simp [Lists, hmod, hfresh]
    · simp [Lists, hmod, hid]
  have hold {id m' n i} (hm' : (t.insertModule m).2.module? id = some m')
      (hn : m'.declarations.get? n = some i) : t.module? id = some m' := by
    rw [hmod] at hm'
    split at hm'
    · obtain rfl := Option.some.inj hm'
      cases hn
    · exact hm'
  exact
    { h with
      listed := fun hl => h.listed (hlists.1 hl)
      owned := fun hd ho => (h.owned hd ho).imp_right hlists.2
      located := fun hm' hn hd => h.located (hold hm' hn) hn hd
      free := ⟨h.free.nodup, h.free.mem_iff⟩
      imports := by
        intro id m' hm'
        rw [hmod] at hm'
        split at hm'
        · obtain rfl := Option.some.inj hm'
          simp [Module.attributeImports]
        · exact h.imports hm' }

end Linked

end SymbolGraph.SymbolTable
