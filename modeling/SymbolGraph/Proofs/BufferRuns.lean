import SymbolGraph.Fix.Marking
import SymbolGraph.Proofs.LineCoordinates

/-!
# Runs of edits and markings on a buffer

The ends of an edit's range are character boundaries of the text, whatever its positions are, so every edit can
be carried out and every range can be cut out. Text, line table and marks change together: after any calls the
table is that of the text, and the marks of fixes are the ranges of their edits in it.
-/
namespace SymbolGraph
open Text

/-! ## Ranges on character boundaries -/

/-- The range cuts a text into what stands before it, in it and behind it. -/
structure TextRange.Cuts (r : TextRange) (cs before inside after : List Char) : Prop where
  text_eq : cs = before ++ inside ++ after
  start_eq : r.start = Bytes.size before
  stop_eq : r.stop = Bytes.size before + Bytes.size inside

namespace TextRange

/-- Between two boundaries of a text there is a part of it, in whichever order they are given. -/
theorem exists_cuts_between {cs b b' : List Char} (hb : b <+: cs) (hb' : b' <+: cs) :
    ∃ before inside after, (between (Bytes.size b) (Bytes.size b')).Cuts cs before inside after := by
  rcases List.prefix_or_prefix_of_prefix hb hb' with ⟨d, rfl⟩ | ⟨d, rfl⟩
  · obtain ⟨after, rfl⟩ := hb'
    exact ⟨b, d, after, rfl, by simp [between], by simp [between]⟩
  · obtain ⟨after, rfl⟩ := hb
    exact ⟨b', d, after, rfl, by simp [between], by simp [between]⟩

variable {r : TextRange} {cs before inside after : List Char}

theorem Cuts.slice? (h : r.Cuts cs before inside after) : Bytes.slice? r.start r.stop cs = some inside := by
  rw [h.text_eq, h.start_eq, h.stop_eq]
  exact Bytes.slice?_size_append before inside after

theorem Cuts.replace? (h : r.Cuts cs before inside after) (contents : List Char) :
    Bytes.replace? r.start r.stop contents cs = some (before ++ contents ++ after) := by
  rw [h.text_eq, h.start_eq, h.stop_eq]
  exact Bytes.replace?_size_append before inside after contents

end TextRange

theorem LineTable.exists_prefix_point (text : String) (p : Position) :
    ∃ before, before <+: text.toList ∧ (LineTable.ofText text).point text p = Bytes.size before := by
  obtain ⟨before, hbefore, hoffset⟩ := exists_denotes text p.line (p.column.getD 0)
  exact ⟨before, hbefore.boundary, hoffset⟩

/-- An edit with any positions denotes a part of the text. -/
theorem Edit.exists_cuts (e : Edit) (text : String) :
    ∃ before inside after, (e.range (.ofText text) text).Cuts text.toList before inside after := by
  obtain ⟨b, hb, hstart⟩ := LineTable.exists_prefix_point text e.start
  obtain ⟨b', hb', hstop⟩ := LineTable.exists_prefix_point text e.stop
  rw [Edit.range, hstart, hstop]
  exact TextRange.exists_cuts_between hb hb'

/-! ## Calls and runs -/

/-- A call on an open buffer. Each marking comes with the canonical forms that paths have at that time. -/
inductive BufferCall (γ : Type) where
  | edit (e : Edit)
  | mark (canonical : String → Option γ) (fixes : List Fix)

namespace Buffer
variable {γ : Type} [DecidableEq γ]

def call? (b : Buffer) : BufferCall γ → Option Buffer
  | .edit e => b.edit? e
  | .mark canonical fixes => some (Fix.markIn canonical fixes b)

def run? (b : Buffer) (calls : List (BufferCall γ)) : Option Buffer := calls.foldlM call? b

/-- The edits that a call leaves marked in a buffer of the file `path`: none after an edit, and those of the
fixes for the file after a marking. -/
def markedAfter (path : Option String) (marked : List Edit) : BufferCall γ → List Edit
  | .edit _ => []
  | .mark canonical fixes =>
    match path with
    | some file => (fixes.filter fun f => Fix.sameFile canonical f.file file).map Fix.edit
    | none => marked

def markedEdits (path : Option String) (calls : List (BufferCall γ)) : List Edit :=
  calls.foldl (markedAfter path) []

/-- The line table is that of the text, and the marks of fixes are the ranges of the edits `marked` in it. -/
structure Current (b : Buffer) (path : Option String) (marked : List Edit) : Prop where
  path_eq : b.path = path
  lines_eq : b.lines = .ofText b.text
  marked_eq : b.marked Fix.markKey = marked.map fun e => e.range (.ofText b.text) b.text

variable {b : Buffer} {path : Option String} {marked : List Edit}

theorem current_ofText (path : Option String) (text : String) : (ofText path text).Current path [] :=
  ⟨rfl, rfl, rfl⟩

theorem edit?_of_cuts {e : Edit} {before inside after : List Char}
    (h : (b.range e).Cuts b.text.toList before inside after) :
    b.edit? e = some (ofText b.path (String.ofList (before ++ e.contents.toList ++ after))) := by
  simp only [edit?, h.replace?, Option.map_some]

namespace Current

theorem range_eq (h : b.Current path marked) (e : Edit) : b.range e = e.range (.ofText b.text) b.text := by
  rw [Buffer.range, h.lines_eq]

theorem exists_cuts (h : b.Current path marked) (e : Edit) :
    ∃ before inside after, (b.range e).Cuts b.text.toList before inside after := by
  rw [h.range_eq]
  exact e.exists_cuts b.text

theorem exists_slice (h : b.Current path marked) {r : TextRange} (hr : r ∈ b.marked Fix.markKey) :
    ∃ s, b.slice? r = some s := by
  rw [h.marked_eq] at hr
  obtain ⟨e, -, rfl⟩ := List.mem_map.1 hr
  obtain ⟨before, inside, after, hcuts⟩ := e.exists_cuts b.text
  exact ⟨String.ofList inside, by rw [Buffer.slice?, hcuts.slice?, Option.map_some]⟩

theorem markIn (h : b.Current path marked) (canonical : String → Option γ) (fixes : List Fix) :
    (Fix.markIn canonical fixes b).Current path (markedAfter path marked (.mark canonical fixes)) := by
  cases hpath : b.path with
  | none =>
    have hsame : Fix.markIn canonical fixes b = b := by simp [Fix.markIn, Fix.highlight?, hpath]
    obtain rfl : path = none := h.path_eq.symm.trans hpath
    rw [hsame]
    exact h
  | some file =>
    obtain rfl : path = some file := h.path_eq.symm.trans hpath
    have hmark : Fix.markIn canonical fixes b = b.mark Fix.markKey
        ((fixes.filter fun f => Fix.sameFile canonical f.file file).map fun f => b.range f.edit) := by
      simp [Fix.markIn, Fix.highlight?, hpath]
    rw [hmark]
    refine ⟨hpath, h.lines_eq, ?_⟩
    simp [Buffer.marked, Buffer.mark, markedAfter, OrderedMap.get?_insert, h.range_eq]

/-- A call can be carried out and leaves the buffer current. -/
theorem call? (h : b.Current path marked) (c : BufferCall γ) :
    ∃ b', b.call? c = some b' ∧ b'.Current path (markedAfter path marked c) := by
  cases c with
  | edit e =>
    obtain ⟨before, inside, after, hcuts⟩ := h.exists_cuts e
    refine ⟨_, edit?_of_cuts hcuts, ?_⟩
    rw [h.path_eq]
    exact current_ofText path _
  | mark canonical fixes => exact ⟨_, rfl, h.markIn canonical fixes⟩

theorem run? (h : b.Current path marked) (calls : List (BufferCall γ)) :
    ∃ b', b.run? calls = some b' ∧ b'.Current path (calls.foldl (markedAfter path) marked) := by
  induction calls generalizing b marked with
  | nil => exact ⟨b, rfl, h⟩
  | cons c calls ih =>
    obtain ⟨b', hcall, hb'⟩ := h.call? c
    obtain ⟨b'', hrun, hb''⟩ := ih hb'
    refine ⟨b'', ?_, hb''⟩
    rw [Buffer.run?, List.foldlM_cons, hcall]
    exact hrun

end Current

/-- After any calls on a new buffer, none of which fails, its line table is that of its text and its marks of
fixes are the ranges of the marked edits in that text, each of which can be cut out of it. Any further edit puts
its contents in the place of its range, keeps the file and leaves no marks. As long as the text is below `2 ^ 32`
bytes, its offsets are words of 32 bits. -/
theorem run?_current (path : Option String) (text : String) (calls : List (BufferCall γ)) :
    ∃ b, (ofText path text).run? calls = some b ∧ b.path = path ∧ b.lines = .ofText b.text ∧
      (∀ e : Edit, ∃ before inside after b', (b.range e).Cuts b.text.toList before inside after ∧
        b.edit? e = some b' ∧ b'.text.toList = before ++ e.contents.toList ++ after ∧ b'.path = path ∧
        b'.lines = .ofText b'.text ∧ ∀ key, b'.marked key = []) ∧
      b.marked Fix.markKey = (markedEdits path calls).map (fun e => e.range (.ofText b.text) b.text) ∧
      (∀ r ∈ b.marked Fix.markKey, ∃ s, b.slice? r = some s) ∧
      (Bytes.size b.text.toList < UInt32.size → b.lines.InWords b.text) := by
  obtain ⟨b, hrun, hb⟩ := (current_ofText path text).run? calls
  refine ⟨b, hrun, hb.path_eq, hb.lines_eq, fun e => ?_, hb.marked_eq, fun r => hb.exists_slice, fun hsize => ?_⟩
  · obtain ⟨before, inside, after, hcuts⟩ := hb.exists_cuts e
    exact ⟨before, inside, after, _, hcuts, edit?_of_cuts hcuts, by simp [ofText], hb.path_eq, rfl, fun _ => rfl⟩
  · rw [hb.lines_eq]
    exact LineTable.inWords_ofText b.text hsize

/-- The ends of the edit are given the wrong way round, and characters of two bytes stand in the text and the contents. -/
theorem run?_current_turned_around :
    let calls : List (BufferCall String) := [.edit { start := ⟨0, some 1⟩, stop := ⟨0, none⟩, contents := "λ\n" }]
    ∃ b, (ofText none "aé").run? calls = some b ∧ b.text = "λ\né" ∧ Bytes.size b.text.toList < UInt32.size ∧
      b.lines.InWords b.text := by
  intro calls
  have hedit : (ofText none "aé").run? calls = some (ofText none "λ\né") := by decide +zetaReduce
  obtain ⟨b, hrun, -, -, -, -, -, hwords⟩ := run?_current none "aé" calls
  obtain rfl := Option.some.inj (hrun.symm.trans hedit)
  have hsize : Bytes.size (ofText none "λ\né").text.toList < UInt32.size := by decide
  exact ⟨_, hedit, rfl, hsize, hwords hsize⟩

end Buffer
end SymbolGraph
