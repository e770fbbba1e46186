import SymbolGraph.Proofs.LocationKeys
import SymbolGraph.Symbol.Resolution

/-!
# Jump targets

A jump target is a label, a line and a column with colons between them, and the label may have colons and digits of its
own. Neither number has a colon in it, so from the right the two last colons are those that were put there.
-/
namespace SymbolGraph
open Text

theorem Text.Decimal.colon_not_mem_ofInt (n : Int) : ':' ∉ Decimal.ofInt n := fun h =>
  absurd (Decimal.mem_ofInt h) (by decide)

namespace Location
variable {l r : Location} {p q : Position}

theorem toList_jumpTarget (l : Location) {column : Int64} (hp : p.column = some column) :
    (l.jumpTarget (some p)).toList =
      (l.label.toList ++ ':' :: Decimal.ofInt p.line.toInt) ++ ':' :: Decimal.ofInt column.toInt := by
  simp [jumpTarget, Position.text, hp, Decimal.intText]

/-- Equal targets with a column have equal labels, lines and columns. -/
theorem jumpTarget_eq_iff (hp : p.column.isSome) (hq : q.column.isSome) :
    l.jumpTarget (some p) = r.jumpTarget (some q) ↔ l.label = r.label ∧ p = q := by
  obtain ⟨column, hcolumn⟩ := Option.isSome_iff_exists.1 hp
  obtain ⟨column', hcolumn'⟩ := Option.isSome_iff_exists.1 hq
  constructor
  · intro h
    have hchars := congrArg String.toList h
    rw [toList_jumpTarget l hcolumn, toList_jumpTarget r hcolumn'] at hchars
    obtain ⟨hfront, hback⟩ :=
      eq_of_append_cons_eq (Decimal.colon_not_mem_ofInt _) (Decimal.colon_not_mem_ofInt _) hchars
    obtain ⟨hlabel, hline⟩ :=
      eq_of_append_cons_eq (Decimal.colon_not_mem_ofInt _) (Decimal.colon_not_mem_ofInt _) hfront
    have hlines : p.line = q.line := Int64.toInt_inj.1 (Decimal.ofInt_inj.1 hline)
    have hcolumns : p.column = q.column := by
      rw [hcolumn, hcolumn', Int64.toInt_inj.1 (Decimal.ofInt_inj.1 hback)]
    refine ⟨String.toList_inj.1 hlabel, ?_⟩
    cases p
    cases q
    rw [Position.mk.injEq]
    exact ⟨hlines, hcolumns⟩
  · rintro ⟨hlabel, rfl⟩
    rw [jumpTarget, jumpTarget, hlabel]

end Location

namespace SymbolTable
variable {t t' : SymbolTable} {d d' : Declaration} {target : String}

theorem jumpTarget?_eq_some_iff {p : Position} (hp : d.position = some p) : t.jumpTarget? d = some target ↔
    ∃ file, t.definingLocation? d = some (.source file) ∧ target = (Location.source file).jumpTarget (some p) := by
  cases hl : t.definingLocation? d with
  | none => simp [jumpTarget?, hasJumpTarget, isFromSource, hl]
  | some l => cases l <;> simp [jumpTarget?, hasJumpTarget, isFromSource, hl, hp, Location.isSource, eq_comm]

/-- Jump targets with a column are unambiguous: they are equal just if the labels and the positions are, and
declarations share one just if files with the same name on show define them at the same position. -/
theorem jumpTargets_unambiguous {p q : Position} (hp : p.column.isSome) (hq : q.column.isSome) :
    (∀ l r : Location, l.jumpTarget (some p) = r.jumpTarget (some q) ↔ l.label = r.label ∧ p = q) ∧
    ∀ (t t' : SymbolTable) (d d' : Declaration), d.position = some p → d'.position = some q →
      ((∃ target, t.jumpTarget? d = some target ∧ t'.jumpTarget? d' = some target) ↔
        ∃ file file', t.definingLocation? d = some (.source file) ∧ t'.definingLocation? d' = some (.source file') ∧
          file.filename.getD "" = file'.filename.getD "" ∧ p = q) := by
  refine ⟨fun l r => Location.jumpTarget_eq_iff hp hq, fun t t' d d' hd hd' => ?_⟩
  simp only [jumpTarget?_eq_some_iff hd, jumpTarget?_eq_some_iff hd']
  constructor
  · rintro ⟨target, ⟨file, hfile, rfl⟩, file', hfile', heq⟩
    exact ⟨file, file', hfile, hfile', (Location.jumpTarget_eq_iff hp hq).1 heq⟩
  · rintro ⟨file, file', hfile, hfile', hsame⟩
    exact ⟨_, ⟨file, hfile, rfl⟩, file', hfile', (Location.jumpTarget_eq_iff hp hq).2 hsame⟩

/-- The same digits in a file's name and in a position make different targets, and places of one label share theirs. -/
theorem jumpTargets_unambiguous_colons :
    let p : Position := ⟨2, some 3⟩
    let q : Position := ⟨1, some 23⟩
    let t := empty.run [.insertModule { name := "A", location := some (.source ⟨some "a:1", none⟩) },
      .insertModule { name := "B", location := some (.source ⟨some "a", none⟩) }]
    let f : Declaration := { name := "f", kind := .other, position := some p, owner := some ⟨0⟩ }
    let g : Declaration := { name := "g", kind := .other, position := some q, owner := some ⟨1⟩ }
    ((t.jumpTarget? f).isSome ∧ (t.jumpTarget? g).isSome) ∧
      (¬∃ target, t.jumpTarget? f = some target ∧ t.jumpTarget? g = some target) ∧
      (Location.source ⟨some "a:1", none⟩).jumpTarget (some p) = (Location.other ⟨some "a:1"⟩).jumpTarget (some p) := by
  intro p q t f g
  have hp : p.column.isSome := rfl
  have hq : q.column.isSome := rfl
  refine ⟨by decide +zetaReduce, ?_, ((jumpTargets_unambiguous hp hp).1 _ _).2 ⟨rfl, rfl⟩⟩
  rw [(jumpTargets_unambiguous hp hq).2 t t f g rfl rfl]
  rintro ⟨-, -, -, -, -, heq⟩
  exact absurd heq (by decide)

/-- A position without a column may be taken for a part of the name. -/
example : (Location.source ⟨some "a:1", none⟩).jumpTarget (some ⟨2, none⟩) =
    (Location.source ⟨some "a", none⟩).jumpTarget (some ⟨1, some 2⟩) := by
  cbv

end SymbolTable
end SymbolGraph
