import SymbolGraph.Proofs.Frame

/-!
# The order in which a module lists its names

A new module lists its names in the order in which they are declared. In a newer version of a known module the
names that it keeps take their slots first, so they come before the new ones. The two orders agree unless a new
name is declared before a kept one.
-/
namespace SymbolGraph

/-- The names in the order in which they are first declared. -/
def declarationOrder (ds : List Declaration) : List String := (ds.map Declaration.name).eraseDups

theorem eraseDups_filter {α : Type} [BEq α] [LawfulBEq α] (p : α → Bool) (l : List α) :
    (l.filter p).eraseDups = l.eraseDups.filter p := by
  match l with
  | [] => rfl
  | a :: l =>
    -- the tail without `a` is shorter, and it is what both sides go on with
    have ih := eraseDups_filter p (l.filter fun b => !b == a)
    by_cases ha : p a = true
    · rw [List.filter_cons_of_pos ha, List.eraseDups_cons, List.eraseDups_cons, List.filter_cons_of_pos ha,
        ← ih, List.filter_filter, List.filter_filter]
      simp only [Bool.and_comm]
    · have hsame : (l.filter fun b => !b == a).filter p = l.filter p := by
        rw [List.filter_filter]
        refine List.filter_congr fun b _ => ?_
        by_cases hb : b = a <;> simp [hb, ha]
      rw [List.filter_cons_of_neg ha, List.eraseDups_cons, List.filter_cons_of_neg ha, ← ih, hsame]
termination_by l.length
decreasing_by exact Nat.lt_succ_of_le (List.length_filter_le ..)

/-- Moving some members to the front changes nothing just if none of them stands behind another one. -/
theorem filter_append_filter_not_eq_iff {α : Type} (p : α → Bool) (l : List α) :
    l.filter p ++ l.filter (!p ·) = l ↔ l.Pairwise fun a b => p b = true → p a = true := by
  induction l with
  | nil => simp
  | cons a l ih =>
    rw [List.pairwise_cons, ← ih]
    by_cases ha : p a = true
    · simp [ha]
    · cases hl : l.filter p with
      | nil => simp [ha, hl]
      | cons b bs =>
        obtain ⟨hb, hpb⟩ : b ∈ l ∧ p b = true := List.mem_filter.1 (by simp [hl])
        have hba : b ≠ a := fun h => ha (h ▸ hpb)
        have hbad : ¬∀ b ∈ l, p b = true → p a = true := fun h => ha (h b hb hpb)
        refine iff_of_false ?_ fun h => hbad h.1
        simp [ha, hl, hba]

namespace SymbolTable
variable {t t' : SymbolTable}

def listedNames (t : SymbolTable) (id : ModuleId) : List String :=
  ((t.module? id).map fun m => m.declarations.keys).getD []

theorem listedNames_of_module? {id : ModuleId} {m : Module} (h : t.module? id = some m) :
    t.listedNames id = m.declarations.keys := by simp [listedNames, h]

theorem Linked.names_declarationsOf {st : List (ModuleId × String)} (h : Linked t [] st) (id : ModuleId) :
    (t.declarationsOf id).map (·.2.name) = t.listedNames id := by
  cases hm : t.module? id with
  | none => simp [declarationsOf, listedNames, hm]
  | some m =>
    have hentries : ∀ e ∈ m.declarations.entries, ∃ d, t.declaration? e.2 = some d ∧ d.name = e.1 := by
      intro e he
      obtain ⟨-, d, hd, hn, -⟩ := h.listed ⟨m, hm, OrderedMap.get?_eq_some_iff.2 he⟩
      exact ⟨d, hd, hn⟩
    simp only [declarationsOf, listedNames, hm, OrderedMap.values, OrderedMap.keys, Option.map_some,
      Option.getD_some]
    generalize m.declarations.entries = es at hentries
    induction es with
    | nil => rfl
    | cons e es ih =>
      obtain ⟨d, hd, hn⟩ := hentries e (by simp)
      have hstored : t.stored? e.2 = some (e.2, d) := by simp [stored?, hd]
      have hes := ih fun e' he' => hentries e' (by simp [he'])
      rw [List.map_cons, List.filterMap_cons_some hstored, List.map_cons, hes, List.map_cons, hn]

/-- The names kept from an earlier version come in the order in which they are declared again. -/
theorem keys_keepSlots {kept old : OrderedMap String DeclarationId} (hapart : ∀ n ∈ kept.keys, n ∉ old.keys)
    (ds : List Declaration) : (keepSlots kept old ds).1.keys =
      kept.keys ++ ((ds.map Declaration.name).filter (· ∈ old.keys)).eraseDups := by
  induction ds generalizing kept old with
  | nil => simp [keepSlots]
  | cons d ds ih =>
    rw [keepSlots]
    cases hd : old.get? d.name with
    | none =>
      have hnot : d.name ∉ old.keys := OrderedMap.get?_eq_none_iff.1 hd
      simp [ih hapart, hnot]
    | some i =>
      have hmem : d.name ∈ old.keys := OrderedMap.mem_keys.2 ⟨i, hd⟩
      have hnew : d.name ∉ kept.keys := fun hk => hapart _ hk hmem
      have hkeys : (kept.insert d.name i).keys = kept.keys ++ [d.name] := by
        rw [OrderedMap.keys_insert, if_neg hnew]
      have hapart' : ∀ n ∈ (kept.insert d.name i).keys, n ∉ (old.erase d.name).keys := by
        intro n hn hn'
        obtain ⟨hne, hold⟩ := OrderedMap.mem_keys_erase.1 hn'
        rw [hkeys, List.mem_append, List.mem_singleton] at hn
        rcases hn with hn | rfl
        · exact hapart n hn hold
        · exact hne rfl
      have hrest : (ds.map Declaration.name).filter (· ∈ (old.erase d.name).keys) =
          ((ds.map Declaration.name).filter (· ∈ old.keys)).filter fun n => !n == d.name := by
        rw [List.filter_filter]
        refine List.filter_congr fun n _ => ?_
        by_cases hn : n = d.name
        · simp [OrderedMap.mem_keys_erase, hn]
        · simp [OrderedMap.mem_keys_erase, hn, Ne.symm hn]
      simp only [ih hapart', hkeys, hrest]
      simp [hmem, List.eraseDups_cons]

/-- Before the declarations are stored, the module lists the names that it keeps. -/
theorem listedNames_prepared (t : SymbolTable) (m : Module) (ds : List Declaration) :
    (t.prepared m ds).listedNames (t.slotFor m) =
      (declarationOrder ds).filter (· ∈ t.listedNames (t.slotFor m)) := by
  unfold prepared slotFor
  cases htwin : t.moduleTwin? m with
  | none =>
    have hfresh := module?_fresh t
    simp [listedNames, hfresh, module?_insertModule]
  | some id =>
    obtain ⟨k, hk, -⟩ := mem_of_moduleTwin? htwin
    have hold : t.listedNames id = k.declarations.keys := listedNames_of_module? hk
    have hkeys : (keepSlots .empty k.declarations ds).1.keys =
        (declarationOrder ds).filter (· ∈ k.declarations.keys) := by
      rw [keys_keepSlots (by simp), OrderedMap.keys_empty, List.nil_append, eraseDups_filter, declarationOrder]
    have hset := module?_setModule hk
      { m.attributeImports with declarations := (keepSlots .empty k.declarations ds).1 } id
    rw [if_pos rfl] at hset
    simp only [Option.getD_some, hold, ← hkeys, hk, Option.map_some]
    exact listedNames_of_module? ((module?_foldl_release ..).trans hset)

theorem StoredUnder.listedNames {id : ModuleId} {m : Module} {d : Declaration} {i : DeclarationId}
    (h : StoredUnder t t' id m d i) (hm : t.module? id = some m) : t'.listedNames id =
      if d.name ∈ t.listedNames id then t.listedNames id else t.listedNames id ++ [d.name] := by
  obtain ⟨m', hm', -, hentries⟩ := h.listing
  rw [listedNames_of_module? hm, listedNames_of_module? hm', OrderedMap.keys, hentries]
  split
  · rfl
  · simp [OrderedMap.keys]

theorem Linked.listedNames_insertDeclarations {id : ModuleId} {ds : List Declaration}
    (h : Linked t [] (ds.map fun d => (id, d.name))) (hlive : (t.module? id).isSome)
    (hpass : ∀ d ∈ ds, d.refusal? id = none) : (t.insertDeclarations id ds).2.listedNames id =
      t.listedNames id ++ (declarationOrder ds).filter (· ∉ t.listedNames id) := by
  let due (t : SymbolTable) (ds : List Declaration) : List String :=
    t.listedNames id ++ ((ds.map Declaration.name).filter (· ∉ t.listedNames id)).eraseDups
  have hrun := insertDeclarations_induction (P := fun t' ds' =>
    Linked t' [] (ds'.map fun d => (id, d.name)) ∧ due t' ds' = due t ds) ?_ hlive hpass ⟨h, rfl⟩
  · have hend := hrun.2.2
    simpa [due, declarationOrder, eraseDups_filter] using hend
  · rintro t' d ds' hm hd ⟨hl, hdue⟩
    rw [List.map_cons] at hl
    obtain ⟨m', hm'⟩ := Option.isSome_iff_exists.1 hm
    obtain ⟨i, -, hstored⟩ := hl.storedUnder_insertDeclaration hm' hd
    refine ⟨hl.insertDeclaration hm hd, ?_⟩
    rw [← hdue]
    simp only [due, hstored.listedNames hm']
    by_cases hn : d.name ∈ t'.listedNames id
    · simp [hn]
    · have hrest : (ds'.map Declaration.name).filter (· ∉ t'.listedNames id ++ [d.name]) =
          ((ds'.map Declaration.name).filter (· ∉ t'.listedNames id)).filter fun n => !n == d.name := by
        rw [List.filter_filter]
        refine List.filter_congr fun n _ => ?_
        by_cases hd : n = d.name <;> simp [hd]
      simp only [hn, if_false, hrest]
      simp [hn, List.eraseDups_cons]

theorem Linked.listedNames_absorbModule (h : Linked t [] []) {m : Module} {ds : List Declaration}
    {id : ModuleId} (hok : (t.absorbModule m ds).1 = .ok id) : (t.absorbModule m ds).2.listedNames id =
      (declarationOrder ds).filter (· ∈ t.listedNames id) ++
        (declarationOrder ds).filter (· ∉ t.listedNames id) := by
  obtain ⟨rfl, hpass, heq⟩ := absorbModule_ok hok
  have hlive := t.isSome_module?_prepared m ds
  rw [heq, (h.prepared m ds).listedNames_insertDeclarations hlive hpass, listedNames_prepared]
  refine congrArg _ (List.filter_congr fun n hn => ?_)
  simp [hn]

/-- A module that was taken in lists the names it listed before and then the new ones, both in the order of
their declaration. This is the order of declaration for a new module, and for a newer version just if no new
name is declared before a kept one. -/
theorem absorbModule_order (ops : List Operation) (m : Module) (ds : List Declaration) (id : ModuleId)
    (hok : ((empty.run ops).absorbModule m ds).1 = .ok id) :
    ((empty.run ops).absorbModule m ds).2.listedNames id =
        (declarationOrder ds).filter (· ∈ (empty.run ops).listedNames id) ++
          (declarationOrder ds).filter (· ∉ (empty.run ops).listedNames id) ∧
    (((empty.run ops).absorbModule m ds).2.declarationsOf id).map (·.2.name) =
        ((empty.run ops).absorbModule m ds).2.listedNames id ∧
    ((empty.run ops).module? id = none →
      ((empty.run ops).absorbModule m ds).2.listedNames id = declarationOrder ds) ∧
    (((empty.run ops).absorbModule m ds).2.listedNames id = declarationOrder ds ↔
      (declarationOrder ds).Pairwise fun a b =>
        b ∈ (empty.run ops).listedNames id → a ∈ (empty.run ops).listedNames id) := by
  have h := linked_run ops
  generalize empty.run ops = t at h hok
  have horder := h.listedNames_absorbModule hok
  refine ⟨horder, (h.absorbModule m ds).names_declarationsOf id, fun hfresh => ?_, ?_⟩
  · have hnil : t.listedNames id = [] := by simp [listedNames, hfresh]
    rw [horder, hnil, List.filter_eq_nil_iff.2 (by simp), List.nil_append, List.filter_eq_self.2 (by simp)]
  · have hiff := filter_append_filter_not_eq_iff (· ∈ t.listedNames id) (declarationOrder ds)
    simpa [horder] using hiff

/-- `c` and `a` are kept, and `b` comes behind them. -/
theorem absorbModule_order_kept_first :
    let m : Module := { name := "A" }
    let ops : List Operation := [.absorbModule m [{ name := "a", kind := .other }, { name := "c", kind := .other }]]
    let ds : List Declaration :=
      [{ name := "c", kind := .other }, { name := "b", kind := .other }, { name := "a", kind := .other },
        { name := "b", kind := .other }]
    ((empty.run ops).absorbModule m ds).1 = .ok ⟨0⟩ ∧
      ((empty.run ops).absorbModule m ds).2.listedNames ⟨0⟩ = ["c", "a", "b"] := by
  intro m ops ds
  have hslot : (empty.run ops).slotFor m = ⟨0⟩ := by decide +zetaReduce
  have hpass : ds.findSome? (·.refusal? ((empty.run ops).slotFor m)) = none := by decide +zetaReduce
  have hok : ((empty.run ops).absorbModule m ds).1 = .ok ⟨0⟩ := by rw [absorbModule_of_passed hpass, hslot]
  have hbefore : (empty.run ops).listedNames ⟨0⟩ = ["a", "c"] := by decide +zetaReduce
  have horder : declarationOrder ds = ["c", "b", "a"] := by decide
  exact ⟨hok, by rw [(absorbModule_order ops m ds ⟨0⟩ hok).1, hbefore, horder]; decide⟩

/-- A newer version that declares `f` before the kept `g` lists it behind. -/
theorem newer_version_lists_new_name_last :
    let m : Module := { name := "A" }
    let t := empty.run [.absorbModule m [{ name := "g", kind := .function none }]]
    let ds : List Declaration := [{ name := "f", kind := .function none }, { name := "g", kind := .function none }]
    declarationOrder ds = ["f", "g"] ∧ (t.absorbModule m ds).1 = .ok ⟨0⟩ ∧
      (t.absorbModule m ds).2.listedNames ⟨0⟩ = ["g", "f"] ∧
      ((t.absorbModule m ds).2.declarationsOf ⟨0⟩).map (·.2.name) = ["g", "f"] := by
  intro m t ds
  have hslot : t.slotFor m = ⟨0⟩ := by decide +zetaReduce
  have hpass : ds.findSome? (·.refusal? (t.slotFor m)) = none := by decide +zetaReduce
  have hok : (t.absorbModule m ds).1 = .ok ⟨0⟩ := by rw [absorbModule_of_passed hpass, hslot]
  exact ⟨by decide, hok, by decide +zetaReduce, by decide +zetaReduce⟩

end SymbolTable
end SymbolGraph
