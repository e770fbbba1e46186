import SymbolGraph.Proofs.BufferRuns

/-!
# Several edits of one text

An edit changes nothing before its range, so edits whose ranges stand one behind the other do not get in each
other's way if the last one is carried out first. The outcome is the text with all ranges replaced at once.
-/
namespace SymbolGraph
open Text

/-- The position has the line and the column of the boundary behind `before`; a missing column is the first. -/
def Position.IsBehind (p : Position) (before : List Char) : Prop :=
  p.line.toInt = before.count '\n' ∧ (p.column.getD 0).toInt = columnOf before

instance (p : Position) (before : List Char) : Decidable (p.IsBehind before) := inferInstanceAs (Decidable (_ ∧ _))

structure Edit.IsExact (e : Edit) (cs : List Char) : Prop where
  start : ∃ before, before <+: cs ∧ e.start.IsBehind before
  stop : ∃ before, before <+: cs ∧ e.stop.IsBehind before

namespace TextRange

/-- The ranges stand one behind the other from an offset on; they may touch each other and be empty. -/
def InOrder : Nat → List TextRange → Prop
  | _, [] => True
  | offset, r :: rs => offset ≤ r.start ∧ InOrder r.stop rs

/-- The text from an offset on, with new contents for all ranges and the parts between them as they are. -/
def substitute? (cs : List Char) (offset : Nat) : List (TextRange × List Char) → Option (List Char)
  | [] => Bytes.slice? offset (Bytes.size cs) cs
  | (r, contents) :: rest => do
    let gap ← Bytes.slice? offset r.start cs
    let tail ← substitute? cs r.stop rest
    return gap ++ contents ++ tail

end TextRange

variable {text : String}

theorem Position.IsBehind.point {p : Position} {before : List Char} (h : p.IsBehind before)
    (hbefore : before <+: text.toList) : (LineTable.ofText text).point text p = Bytes.size before := by
  obtain ⟨after, htext⟩ := hbefore
  exact LineTable.offset_of_coordinates htext.symm h.1 h.2

/-- An exact edit cuts out the same part of every text that agrees up to the end of its range. -/
theorem Edit.IsExact.exists_cuts {e : Edit} (h : e.IsExact text.toList) : ∃ before inside after,
    (e.range (.ofText text) text).Cuts text.toList before inside after ∧
      ∀ (other : String) (rest : List Char), other.toList = before ++ inside ++ rest →
        (e.range (.ofText other) other).Cuts other.toList before inside rest := by
  obtain ⟨b, hb, hstart⟩ := h.start
  obtain ⟨b', hb', hstop⟩ := h.stop
  have hrange : ∀ other : String, b <+: other.toList → b' <+: other.toList →
      e.range (.ofText other) other = .between (Bytes.size b) (Bytes.size b') := by
    intro other ho ho'
    rw [Edit.range, hstart.point ho, hstop.point ho']
  obtain ⟨before, inside, after, hcuts⟩ := TextRange.exists_cuts_between hb hb'
  -- both boundaries stand at one of the ends of the range
  have hends : b <+: before ++ inside ∧ b' <+: before ++ inside := by
    have hwhole : before ++ inside <+: text.toList := ⟨after, hcuts.text_eq.symm⟩
    have hstop_eq : max (Bytes.size b) (Bytes.size b') = Bytes.size (before ++ inside) := by
      rw [Bytes.size_append, ← hcuts.stop_eq]
      rfl
    exact ⟨Bytes.prefix_of_size_le hb hwhole (by omega), Bytes.prefix_of_size_le hb' hwhole (by omega)⟩
  refine ⟨before, inside, after, by rwa [hrange text hb hb'], fun other rest hother => ?_⟩
  have hfront : before ++ inside <+: other.toList := ⟨rest, hother.symm⟩
  rw [hrange other (hends.1.trans hfront) (hends.2.trans hfront)]
  exact ⟨hother, hcuts.start_eq, hcuts.stop_eq⟩

namespace Buffer

def replacement (text : String) (e : Edit) : TextRange × List Char :=
  (e.range (.ofText text) text, e.contents.toList)

/-- Edits behind `front` leave it as it is and replace their ranges in the rest. -/
theorem foldrM_edit?_behind (path : Option String) {es : List Edit} (hexact : ∀ e ∈ es, e.IsExact text.toList)
    {front : List Char} (hfront : front <+: text.toList)
    (horder : TextRange.InOrder (Bytes.size front) (es.map fun e => (replacement text e).1)) :
    ∃ tail, TextRange.substitute? text.toList (Bytes.size front) (es.map (replacement text)) = some tail ∧
      es.foldrM (fun e b => b.edit? e) (ofText path text) = some (ofText path (String.ofList (front ++ tail))) := by
  induction es generalizing front with
  | nil =>
    obtain ⟨tail, htext⟩ := hfront
    refine ⟨tail, ?_, ?_⟩
    · have hslice := Bytes.slice?_size_append front tail []
      rwa [List.append_nil, htext, ← Bytes.size_append, htext] at hslice
    · rw [htext, String.ofList_toList]
      rfl
  | cons e es ih =>
    obtain ⟨before, inside, after, hcuts, hother⟩ := (hexact e (by simp)).exists_cuts
    have hstart : (replacement text e).1.start = Bytes.size before := hcuts.start_eq
    have hstop : (replacement text e).1.stop = Bytes.size (before ++ inside) := by
      rw [Bytes.size_append]
      exact hcuts.stop_eq
    obtain ⟨hle, hrest⟩ := horder
    rw [hstart] at hle
    rw [hstop] at hrest
    have hbefore : before <+: text.toList := ⟨inside ++ after, by rw [← List.append_assoc, hcuts.text_eq]⟩
    obtain ⟨gap, rfl⟩ := Bytes.prefix_of_size_le hfront hbefore hle
    -- the edits behind this one have been carried out, and its range is still where it was
    obtain ⟨tail, hsubstitute, hedits⟩ :=
      ih (fun f hf => hexact f (by simp [hf])) ⟨after, hcuts.text_eq.symm⟩ hrest
    have hnow := hother (String.ofList (front ++ gap ++ inside ++ tail)) tail String.toList_ofList
    have hgap : Bytes.slice? (Bytes.size front) (Bytes.size (front ++ gap)) text.toList = some gap := by
      rw [hcuts.text_eq, List.append_assoc (front ++ gap), Bytes.size_append]
      exact Bytes.slice?_size_append front gap (inside ++ after)
    refine ⟨gap ++ e.contents.toList ++ tail, ?_, ?_⟩
    · rw [List.map_cons, TextRange.substitute?, hstart, hstop, hgap, hsubstitute]
      rfl
    · have hedit := edit?_of_cuts (b := ofText path (String.ofList (front ++ gap ++ inside ++ tail))) hnow
      rw [List.foldrM_cons, hedits]
      simpa [ofText] using hedit

/-- Exact edits with ranges one behind the other, carried out from the last to the first, replace all of them
at once. -/
theorem edits_from_last_substitute (path : Option String) (text : String) (es : List Edit)
    (hexact : ∀ e ∈ es, e.IsExact text.toList)
    (horder : TextRange.InOrder 0 (es.map fun e => e.range (.ofText text) text)) :
    ∃ cs, TextRange.substitute? text.toList 0
        (es.map fun e => (e.range (.ofText text) text, e.contents.toList)) = some cs ∧
      es.foldrM (fun e b => b.edit? e) (ofText path text) = some (ofText path (String.ofList cs)) :=
  foldrM_edit?_behind path hexact List.nil_prefix horder

/-- The first edit joins the two lines, the second one is given backwards and opens a new line. -/
theorem edits_from_last_substitute_two_lines :
    let text := "aé\nλx\n"
    let es : List Edit := [{ start := ⟨0, some 1⟩, stop := ⟨1, some 0⟩, contents := "-" },
      { start := ⟨1, some 2⟩, stop := ⟨1, some 1⟩, contents := "y\nz" }]
    (∀ e ∈ es, e.IsExact text.toList) ∧
      TextRange.InOrder 0 (es.map fun e => e.range (.ofText text) text) ∧
      es.foldrM (fun e b => b.edit? e) (ofText none text) = some (ofText none "a-λy\nz\n") := by
  intro text es
  have hexact : ∀ e ∈ es, e.IsExact text.toList := by
    simp only [es, List.mem_cons, List.not_mem_nil, or_false, forall_eq_or_imp, forall_eq]
    exact ⟨⟨⟨['a'], by decide, by decide⟩, ⟨"aé\n".toList, by decide, by decide⟩⟩,
      ⟨"aé\nλx".toList, by decide, by decide⟩, ⟨"aé\nλ".toList, by decide, by decide⟩⟩
  have horder : TextRange.InOrder 0 (es.map fun e => e.range (.ofText text) text) :=
    ⟨by decide, by decide, trivial⟩
  obtain ⟨cs, hcs, hrun⟩ := edits_from_last_substitute none text es hexact horder
  have hresult : TextRange.substitute? text.toList 0
      (es.map fun e => (e.range (.ofText text) text, e.contents.toList)) = some "a-λy\nz\n".toList := by decide
  obtain rfl := Option.some.inj (hcs.symm.trans hresult)
  exact ⟨hexact, horder, by rw [hrun, String.ofList_toList]⟩

end Buffer
end SymbolGraph
