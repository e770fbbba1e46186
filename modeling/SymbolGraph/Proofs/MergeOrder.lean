import Mathlib.Data.List.Basic
import Mathlib.Logic.Equiv.Basic
import SymbolGraph.Proofs.DeclarationOrder
import SymbolGraph.Proofs.Resolution

/-!
# Different modules can be taken in in either order

Taking in one module does not change where a different one goes, except that two new modules get each other's
slots. What a module shows depends on what it was given and on the names that its slot listed before, so the two
orders leave the same modules, up to the numbers of new slots.
-/
namespace SymbolGraph

/-- A module with the names it lists and the declarations found under them, in its order, without any ids of
slots. -/
structure ModuleContents where
  module : Module
  names : List String
  declarations : List Declaration
  deriving DecidableEq, Repr

def Declaration.unowned (d : Declaration) : Declaration := { d with owner := none }

theorem Module.same_comm (l r : Module) : l.same r = r.same l := Bool.eq_iff_iff.2 ⟨same_symm, same_symm⟩

/-- What a module shows that is given now and whose slot listed the names `old`. -/
def ModuleContents.given (m : Module) (ds : List Declaration) (old : List String) : ModuleContents :=
  let names := (declarationOrder ds).filter (· ∈ old) ++ (declarationOrder ds).filter (· ∉ old)
  { module := { m.attributeImports with declarations := .empty }
    names
    declarations := names.filterMap fun n =>
      (SymbolTable.lastNamed ds n).map fun d => { d with owner := none, location := m.location } }

namespace SymbolTable
variable {t t' : SymbolTable} {m m₁ m₂ : Module} {ds ds₁ ds₂ : List Declaration} {id j : ModuleId}

/-! ## Contents -/

def contents? (t : SymbolTable) (id : ModuleId) : Option ModuleContents :=
  (t.bareModule? id).map fun module =>
    { module, names := t.listedNames id, declarations := (t.declarationsOf id).map (·.2.unowned) }

def detachedDeclarations (t : SymbolTable) : List (DeclarationId × Declaration) := t.detached.filterMap t.stored?

theorem declarationsOf_eq (t : SymbolTable) (id : ModuleId) :
    t.declarationsOf id = (t.listedNames id).filterMap (t.lookup? id) := by
  cases hm : t.module? id with
  | none => simp [declarationsOf, listedNames, hm]
  | some m =>
    simp only [declarationsOf, listedNames, hm, OrderedMap.values, OrderedMap.keys, Option.map_some,
      Option.getD_some, List.filterMap_map]
    refine List.filterMap_congr fun e he => ?_
    simp [lookup?, hm, OrderedMap.get?_eq_some_iff.2 he]

theorem contents?_congr (hmod : t'.bareModule? id = t.bareModule? id) (hnames : t'.listedNames id = t.listedNames id)
    (hlookup : ∀ n, t'.lookup? id n = t.lookup? id n) : t'.contents? id = t.contents? id := by
  have hdecls : t'.declarationsOf id = t.declarationsOf id := by
    rw [declarationsOf_eq, declarationsOf_eq, hnames, funext hlookup]
  rw [contents?, contents?, hmod, hnames, hdecls]

theorem AgreeOutside.contents? (hagree : AgreeOutside t t' id) (h : Linked t [] []) (hj : j ≠ id) :
    t'.contents? j = t.contents? j := by
  have hmod := hagree.modules j hj
  refine contents?_congr (congrArg (Option.map _) hmod) ?_ fun n => ?_
  · rw [listedNames, listedNames, hmod]
  · refine lookup?_congr (fun i => by rw [Lists, Lists, hmod]) fun i hi => ?_
    obtain ⟨-, d, hd, -, ho⟩ := h.listed hi
    have howner : d.owner ≠ some id := by
      rw [ho]
      exact fun heq => hj (Option.some.inj heq)
    rw [hd, hagree.declarations i d howner]
    exact hd

theorem AgreeOutside.detachedDeclarations (hagree : AgreeOutside t t' id) (h : Linked t [] []) :
    t'.detachedDeclarations = t.detachedDeclarations := by
  rw [SymbolTable.detachedDeclarations, SymbolTable.detachedDeclarations, hagree.detached]
  refine List.filterMap_congr fun i hi => ?_
  obtain ⟨-, d, hd, ho⟩ := h.detached.1 hi
  have hd' : t'.declaration? i = some d := (hagree.declarations i d (by simp [ho])).2 hd
  rw [stored?, stored?, hd, hd']

theorem Linked.contents?_absorbModule (h : Linked t [] []) (hok : (t.absorbModule m ds).1 = .ok id)
    (j : ModuleId) : (t.absorbModule m ds).2.contents? j =
      if j = id then some (.given m ds (t.listedNames id)) else t.contents? j := by
  by_cases hj : j = id
  · subst hj
    have hbare := bareModule?_absorbModule hok j
    have hnames := h.listedNames_absorbModule hok
    have hdecls : ((t.absorbModule m ds).2.declarationsOf j).map (·.2.unowned) =
        ((t.absorbModule m ds).2.listedNames j).filterMap fun n =>
          (lastNamed ds n).map fun d => { d with owner := none, location := m.location } := by
      rw [declarationsOf_eq, List.map_filterMap]
      refine List.filterMap_congr fun n _ => ?_
      have hlast := congrArg (Option.map Declaration.unowned) (h.lookup?_absorbModule hok n)
      rw [Option.map_map, Option.map_map] at hlast
      exact hlast
    rw [if_pos rfl] at hbare ⊢
    rw [contents?, hbare, hdecls, hnames]
    rfl
  · rw [if_neg hj]
    exact (h.agreeOutside_absorbModule hok).contents? h hj

/-! ## Slots -/

theorem Indexed.moduleTwin?_congr (h : Indexed t) (h' : Indexed t')
    (hsame : ∀ j, HoldsSame t' m j ↔ HoldsSame t m j) : t'.moduleTwin? m = t.moduleTwin? m := by
  refine Option.ext fun id => ?_
  rw [h.moduleTwin?_eq_some_iff, h'.moduleTwin?_eq_some_iff, hsame]
  simp only [hsame]

/-- If the slot for a module is taken, the same module is there. -/
theorem same_of_slotFor {b : Module} (hb : t.bareModule? (t.slotFor m) = some b) : b.same m = true := by
  cases htwin : t.moduleTwin? m with
  | none =>
    have hfresh := module?_fresh t
    simp [slotFor, htwin, bareModule?, hfresh] at hb
  | some id =>
    obtain ⟨k, hk, hs⟩ := mem_of_moduleTwin? htwin
    have hslot : t.slotFor m = id := by simp [slotFor, htwin]
    rw [hslot, bareModule?_of_module? hk] at hb
    obtain rfl := Option.some.inj hb
    exact hs

/-- A module that is taken in is neither put where a different one is nor found in its place. -/
theorem Indexed.moduleTwin?_absorbModule (h : Indexed t) (hok : (t.absorbModule m₁ ds₁).1 = .ok id)
    (hne : m₁.same m₂ = false) : (t.absorbModule m₁ ds₁).2.moduleTwin? m₂ = t.moduleTwin? m₂ := by
  refine h.moduleTwin?_congr (h.change (slotChange_absorbModule t m₁ ds₁)) fun j => ?_
  rw [HoldsSame, HoldsSame, bareModule?_absorbModule hok]
  by_cases hj : j = id
  · subst hj
    obtain ⟨rfl, -⟩ := absorbModule_ok hok
    rw [if_pos rfl]
    refine iff_of_false ?_ ?_
    · rintro ⟨b, hb, hs⟩
      obtain rfl := Option.some.inj hb
      have hs' : m₁.same m₂ = true := hs
      simp [hne] at hs'
    · rintro ⟨b, hb, hs⟩
      have hs' := Module.same_trans (Module.same_symm (same_of_slotFor hb)) hs
      simp [hne] at hs'
  · rw [if_neg hj]

theorem size_modules_absorbModule (hok : (t.absorbModule m ds).1 = .ok id) :
    (t.absorbModule m ds).2.modules.size =
      if (t.moduleTwin? m).isSome then t.modules.size else t.modules.size + 1 := by
  obtain ⟨rfl, hpass, heq⟩ := absorbModule_ok hok
  have hlive := t.isSome_module?_prepared m ds
  have hsize := (insertDeclarations_induction (P := fun t' _ => t'.modules.size = (t.prepared m ds).modules.size)
    (fun t' d _ _ _ h => (size_modules_insertDeclaration t' _ d).trans h) hlive hpass rfl).2
  rw [heq, hsize, prepared]
  cases t.moduleTwin? m with
  | none => simp [insertModule]
  | some id => simp [setModule]

theorem Indexed.slotFor_absorbModule (h : Indexed t) (hok : (t.absorbModule m₁ ds₁).1 = .ok id)
    (hne : m₁.same m₂ = false) : (t.absorbModule m₁ ds₁).2.slotFor m₂ =
      (t.moduleTwin? m₂).getD ⟨if (t.moduleTwin? m₁).isSome then t.modules.size else t.modules.size + 1⟩ := by
  rw [slotFor, h.moduleTwin?_absorbModule hok hne, size_modules_absorbModule hok]

theorem module?_eq_none_of_le (h : t.modules.size ≤ id.index) : t.module? id = none := by
  cases hm : t.module? id with
  | none => rfl
  | some m => exact absurd (Slots.lt_size_of_get? hm) (Nat.not_lt_of_le h)

theorem slotFor_absorbModule_ne (hok : (t.absorbModule m₁ ds₁).1 = .ok id) (hne : m₁.same m₂ = false) :
    (t.absorbModule m₁ ds₁).2.slotFor m₂ ≠ id := by
  intro hslot
  have hb := bareModule?_absorbModule hok id
  rw [if_pos rfl, ← hslot] at hb
  have hs := same_of_slotFor hb
  have hs' : m₁.same m₂ = true := hs
  simp [hne] at hs'

/-- The slots of one order are those of the other, renumbered where nothing was before. -/
theorem Indexed.exists_renumbering (h : Indexed t) {id₁ id₂' : ModuleId}
    (hok₁ : (t.absorbModule m₁ ds₁).1 = .ok id₁) (hok₂ : (t.absorbModule m₂ ds₂).1 = .ok id₂')
    (hne : m₁.same m₂ = false) :
    ∃ σ : Equiv.Perm ModuleId, σ id₁ = (t.absorbModule m₂ ds₂).2.slotFor m₁ ∧
      σ ((t.absorbModule m₁ ds₁).2.slotFor m₂) = id₂' ∧
      ∀ j, σ j = j ∨ t.module? j = none ∧ t.module? (σ j) = none := by
  obtain ⟨rfl, -⟩ := absorbModule_ok hok₁
  obtain ⟨rfl, -⟩ := absorbModule_ok hok₂
  have hne' : m₂.same m₁ = false := (Module.same_comm m₂ m₁).trans hne
  rw [h.slotFor_absorbModule hok₁ hne, h.slotFor_absorbModule hok₂ hne', slotFor, slotFor]
  cases t.moduleTwin? m₁ with
  | some id => exact ⟨Equiv.refl _, by simp⟩
  | none =>
    cases t.moduleTwin? m₂ with
    | some id => exact ⟨Equiv.refl _, by simp⟩
    | none =>
      -- Both modules are new: the one that comes first gets the next slot, the other one the slot behind it.
      let next : ModuleId := ⟨t.modules.size⟩
      let behind : ModuleId := ⟨t.modules.size + 1⟩
      have hnext : t.module? next = none := module?_fresh t
      have hbehind : t.module? behind = none := module?_eq_none_of_le (Nat.le_succ _)
      refine ⟨Equiv.swap next behind, Equiv.swap_apply_left .., Equiv.swap_apply_right .., fun j => ?_⟩
      by_cases hj : j = next
      · rw [hj, Equiv.swap_apply_left]
        exact .inr ⟨hnext, hbehind⟩
      · by_cases hj' : j = behind
        · rw [hj', Equiv.swap_apply_right]
          exact .inr ⟨hbehind, hnext⟩
        · exact .inl (Equiv.swap_apply_of_ne_of_ne hj hj')

theorem Linked.contents?_absorbModule_twice (h : Linked t [] []) {id₁ id₂ : ModuleId}
    (hok₁ : (t.absorbModule m₁ ds₁).1 = .ok id₁)
    (hok₂ : ((t.absorbModule m₁ ds₁).2.absorbModule m₂ ds₂).1 = .ok id₂) (hne : id₂ ≠ id₁) (j : ModuleId) :
    ((t.absorbModule m₁ ds₁).2.absorbModule m₂ ds₂).2.contents? j =
      if j = id₂ then some (.given m₂ ds₂ (t.listedNames id₂))
      else if j = id₁ then some (.given m₁ ds₁ (t.listedNames id₁)) else t.contents? j := by
  have hnames : (t.absorbModule m₁ ds₁).2.listedNames id₂ = t.listedNames id₂ := by
    rw [listedNames, listedNames, (h.agreeOutside_absorbModule hok₁).modules id₂ hne]
  rw [(h.absorbModule m₁ ds₁).contents?_absorbModule hok₂, hnames, h.contents?_absorbModule hok₁]

/-! ## Both orders -/

/-- The tables have the same modules, in slots renumbered by `σ`, and the same detached declarations. -/
structure Renumbered (σ : Equiv.Perm ModuleId) (t t' : SymbolTable) : Prop where
  contents : ∀ id, t'.contents? (σ id) = t.contents? id
  detached : t'.detachedDeclarations = t.detachedDeclarations

theorem absorbModule_of_unowned (t : SymbolTable) (m : Module) (h : ∀ d ∈ ds, d.owner = none) :
    (t.absorbModule m ds).1 = .ok (t.slotFor m) := by
  rw [absorbModule_of_passed]
  refine List.findSome?_eq_none_iff.2 fun d hd => ?_
  rw [Declaration.refusal?, h d hd]

theorem isSome_module?_absorbModule (hok : (t.absorbModule m ds).1 = .ok id) (hlive : (t.module? j).isSome) :
    ((t.absorbModule m ds).2.module? j).isSome := by
  rw [← isSome_bareModule?, bareModule?_absorbModule hok]
  split
  · rfl
  · rwa [isSome_bareModule?]

/-- A renumbering that takes the slots of one order to those of the other takes all else with it. -/
theorem Linked.renumbered {id₁ id₂ id₁' id₂' : ModuleId} (h : Linked t [] [])
    (hok₁ : (t.absorbModule m₁ ds₁).1 = .ok id₁)
    (hok₁₂ : ((t.absorbModule m₁ ds₁).2.absorbModule m₂ ds₂).1 = .ok id₂)
    (hok₂ : (t.absorbModule m₂ ds₂).1 = .ok id₂')
    (hok₂₁ : ((t.absorbModule m₂ ds₂).2.absorbModule m₁ ds₁).1 = .ok id₁') (hne : id₂ ≠ id₁)
    {σ : Equiv.Perm ModuleId} (hσ₁ : σ id₁ = id₁') (hσ₂ : σ id₂ = id₂')
    (hmoved : ∀ j, σ j = j ∨ t.module? j = none ∧ t.module? (σ j) = none) :
    Renumbered σ ((t.absorbModule m₁ ds₁).2.absorbModule m₂ ds₂).2
      ((t.absorbModule m₂ ds₂).2.absorbModule m₁ ds₁).2 := by
  subst hσ₁ hσ₂
  have hnames (j : ModuleId) : t.listedNames (σ j) = t.listedNames j := by
    rcases hmoved j with hj | ⟨hj, hj'⟩
    · rw [hj]
    · simp [listedNames, hj, hj']
  have hcontents (j : ModuleId) : t.contents? (σ j) = t.contents? j := by
    rcases hmoved j with hj | ⟨hj, hj'⟩
    · rw [hj]
    · simp [SymbolTable.contents?, bareModule?, hj, hj']
  constructor
  · intro j
    have hne' : σ id₁ ≠ σ id₂ := σ.injective.ne hne.symm
    rw [h.contents?_absorbModule_twice hok₁ hok₁₂ hne, h.contents?_absorbModule_twice hok₂ hok₂₁ hne', hnames, hnames,
      hcontents]
    simp only [σ.injective.eq_iff]
    by_cases hj : j = id₁
    · rw [if_pos hj, if_pos hj, if_neg (hj ▸ hne.symm)]
    · rw [if_neg hj, if_neg hj]
  · have hdetached₁ := (h.agreeOutside_absorbModule hok₁).detachedDeclarations h
    have hdetached₂ := (h.agreeOutside_absorbModule hok₂).detachedDeclarations h
    have h₁ := h.absorbModule m₁ ds₁
    have h₂ := h.absorbModule m₂ ds₂
    rw [(h₁.agreeOutside_absorbModule hok₁₂).detachedDeclarations h₁, hdetached₁,
      (h₂.agreeOutside_absorbModule hok₂₁).detachedDeclarations h₂, hdetached₂]

/-- Different modules can be taken in in either order. Both orders succeed and leave the same modules and the
same detached declarations. Modules that were there before keep their slots, and all but the two are as they
were. -/
theorem absorbModule_comm (ops : List Operation) (m₁ m₂ : Module) (ds₁ ds₂ : List Declaration)
    (hds₁ : ∀ d ∈ ds₁, d.owner = none) (hds₂ : ∀ d ∈ ds₂, d.owner = none) (hne : m₁.same m₂ = false) :
    let t := empty.run ops
    let t₁ := (t.absorbModule m₁ ds₁).2
    let t₂ := (t.absorbModule m₂ ds₂).2
    let t₁₂ := (t₁.absorbModule m₂ ds₂).2
    let t₂₁ := (t₂.absorbModule m₁ ds₁).2
    ∃ (id₁ id₂ id₁' id₂' : ModuleId) (σ : Equiv.Perm ModuleId),
      (t.absorbModule m₁ ds₁).1 = .ok id₁ ∧ (t₁.absorbModule m₂ ds₂).1 = .ok id₂ ∧
      (t.absorbModule m₂ ds₂).1 = .ok id₂' ∧ (t₂.absorbModule m₁ ds₁).1 = .ok id₁' ∧
      σ id₁ = id₁' ∧ σ id₂ = id₂' ∧
      (∀ id, (t.module? id).isSome → σ id = id ∧ (t₁₂.module? id).isSome ∧ (t₂₁.module? id).isSome) ∧
      (∀ id, id ≠ id₁ → id ≠ id₂ → t₁₂.contents? id = t.contents? id) ∧ Renumbered σ t₁₂ t₂₁ := by
  intro t t₁ t₂ t₁₂ t₂₁
  have h : Linked t [] [] := linked_run ops
  have hindexed : Indexed t := indexed_run ops
  have hok₁ := absorbModule_of_unowned t m₁ hds₁
  have hok₂ := absorbModule_of_unowned t m₂ hds₂
  have hok₁₂ := absorbModule_of_unowned t₁ m₂ hds₂
  have hok₂₁ := absorbModule_of_unowned t₂ m₁ hds₁
  obtain ⟨σ, hσ₁, hσ₂, hmoved⟩ := hindexed.exists_renumbering hok₁ hok₂ hne
  have hslots : t₁.slotFor m₂ ≠ t.slotFor m₁ := slotFor_absorbModule_ne hok₁ hne
  refine ⟨_, _, _, _, σ, hok₁, hok₁₂, hok₂, hok₂₁, hσ₁, hσ₂, fun id hlive => ⟨?_, ?_, ?_⟩, fun id hid₁ hid₂ => ?_,
    h.renumbered hok₁ hok₁₂ hok₂ hok₂₁ hslots hσ₁ hσ₂ hmoved⟩
  · refine (hmoved id).resolve_right ?_
    rintro ⟨hnone, -⟩
    simp [hnone] at hlive
  · exact isSome_module?_absorbModule hok₁₂ (isSome_module?_absorbModule hok₁ hlive)
  · exact isSome_module?_absorbModule hok₂₁ (isSome_module?_absorbModule hok₂ hlive)
  · rw [h.contents?_absorbModule_twice hok₁ hok₁₂ hslots, if_neg hid₂, if_neg hid₁]

/-- Two new modules of one name, from different files, get each other's slots. -/
theorem absorbModule_comm_new :
    let m₁ : Module := { name := "A", location := some (.source { filename := some "1.hs" }) }
    let m₂ : Module := { name := "A", location := some (.source { filename := some "2.hs" }) }
    let f : Declaration := { name := "f", kind := .function none }
    let g : Declaration := { name := "g", kind := .other }
    let t := empty.run [.absorbModule { name := "A" } [f]]
    let t₁₂ := ((t.absorbModule m₁ [f, g]).2.absorbModule m₂ [f]).2
    let t₂₁ := ((t.absorbModule m₂ [f]).2.absorbModule m₁ [f, g]).2
    (∀ d ∈ [f, g], d.owner = none) ∧ (∀ d ∈ [f], d.owner = none) ∧ m₁.same m₂ = false ∧
      t₂₁.contents? ⟨0⟩ = t₁₂.contents? ⟨0⟩ ∧ t₂₁.contents? ⟨2⟩ = t₁₂.contents? ⟨1⟩ ∧
      t₂₁.contents? ⟨1⟩ = t₁₂.contents? ⟨2⟩ ∧ t₁₂.contents? ⟨1⟩ ≠ t₁₂.contents? ⟨2⟩ := by
  intro m₁ m₂ f g t t₁₂ t₂₁
  have hds₁ : ∀ d ∈ [f, g], d.owner = none := by simp [f, g]
  have hds₂ : ∀ d ∈ [f], d.owner = none := by simp [f]
  have hne : m₁.same m₂ = false := by decide
  obtain ⟨id₁, id₂, id₁', id₂', σ, hok₁, hok₂, hok₂', hok₁', hσ₁, hσ₂, hlive, -, hcontents, -⟩ :=
    absorbModule_comm [.absorbModule { name := "A" } [f]] m₁ m₂ [f, g] [f] hds₁ hds₂ hne
  have hid₁ : id₁ = ⟨1⟩ := (absorbModule_ok hok₁).1.trans (by decide +zetaReduce)
  have hid₂ : id₂ = ⟨2⟩ := (absorbModule_ok hok₂).1.trans (by decide +zetaReduce)
  have hid₁' : id₁' = ⟨2⟩ := (absorbModule_ok hok₁').1.trans (by decide +zetaReduce)
  have hid₂' : id₂' = ⟨1⟩ := (absorbModule_ok hok₂').1.trans (by decide +zetaReduce)
  have hzero := hcontents ⟨0⟩
  have hfirst := hcontents id₁
  have hsecond := hcontents id₂
  rw [(hlive ⟨0⟩ (by decide +zetaReduce)).1] at hzero
  rw [hσ₁, hid₁', hid₁] at hfirst
  rw [hσ₂, hid₂', hid₂] at hsecond
  exact ⟨hds₁, hds₂, hne, hzero, hfirst, hsecond, by decide +zetaReduce⟩

end SymbolTable
end SymbolGraph
