import Mathlib.Data.List.Forall2
import SymbolGraph.Fix.Marking

/-!
# Which fixes a buffer shows

A marking gives every buffer with a file the ranges of just the fixes for that file, in the place of those marked
before, and changes nothing else. Files are told apart by their canonical paths only, so it does not matter how a
path is spelled.
-/
namespace SymbolGraph.Fix
variable {γ : Type} [DecidableEq γ] {canonical : String → Option γ} {fixes fixes' : List Fix} {b b' : Buffer}

theorem sameFile_iff {file path : String} :
    sameFile canonical file path = true ↔ canonical file = canonical path ∧ (canonical path).isSome := by
  cases hf : canonical file <;> cases hp : canonical path <;> simp [sameFile, hf, hp]

/-- The ranges in the buffer of the fixes whose file and `path` have a canonical form and have the same. -/
def rangesFor (canonical : String → Option γ) (fixes : List Fix) (path : String) (b : Buffer) : List TextRange :=
  (fixes.filter fun f => canonical f.file = canonical path ∧ (canonical path).isSome).map fun f => b.range f.edit

/-- `b'` is `b` with the fixes for its file marked and nothing else changed. -/
structure Shows (canonical : String → Option γ) (fixes : List Fix) (b b' : Buffer) : Prop where
  path : b'.path = b.path
  text : b'.text = b.text
  lines : b'.lines = b.lines
  others : ∀ key, key ≠ markKey → b'.marked key = b.marked key
  marked : ∀ path, b.path = some path → b'.marked markKey = rangesFor canonical fixes path b
  pathless : b.path = none → b' = b

/-! ## One buffer -/

theorem markIn_of_pathless (h : b.path = none) : markIn canonical fixes b = b := by
  simp [markIn, highlight?, h]

theorem markIn_of_path {path : String} (h : b.path = some path) :
    markIn canonical fixes b = b.mark markKey (rangesFor canonical fixes path b) := by
  have hranges : (fixes.filter fun f => sameFile canonical f.file path).map (fun f => b.range f.edit) =
      rangesFor canonical fixes path b := by
    refine congrArg (List.map _) (List.filter_congr fun f _ => ?_)
    rw [Bool.eq_iff_iff, sameFile_iff, decide_eq_true_iff]
  simp only [markIn, highlight?, h, Option.map_some, hranges]

theorem shows_markIn (canonical : String → Option γ) (fixes : List Fix) (b : Buffer) :
    Shows canonical fixes b (markIn canonical fixes b) := by
  cases hp : b.path with
  | none =>
    rw [markIn_of_pathless hp]
    exact ⟨rfl, rfl, rfl, fun _ _ => rfl, fun path h => by simp [hp] at h, fun _ => rfl⟩
  | some path =>
    rw [markIn_of_path hp]
    constructor
    case path => rfl
    case text => rfl
    case lines => rfl
    case others =>
      intro key hkey
      rw [Buffer.marked_mark, if_neg (Ne.symm hkey)]
    case marked =>
      intro path' hp'
      obtain rfl : path = path' := Option.some.inj (hp.symm.trans hp')
      rw [Buffer.marked_mark, if_pos rfl]
    case pathless =>
      intro hnone
      rw [hp] at hnone
      cases hnone

theorem markIn_markIn (canonical : String → Option γ) (fixes : List Fix) (b : Buffer) :
    markIn canonical fixes (markIn canonical fixes b) = markIn canonical fixes b := by
  cases hp : b.path with
  | none => rw [markIn_of_pathless hp, markIn_of_pathless hp]
  | some path =>
    rw [markIn_of_path hp]
    have hmarked : (b.mark markKey (rangesFor canonical fixes path b)).path = some path := hp
    rw [markIn_of_path hmarked]
    exact congrArg (fun marks => { b with marks }) (OrderedMap.insert_insert b.marks markKey _ _)

/-! ## Other spellings of paths -/

/-- The same fix, for a file whose path may be spelled in another way. -/
structure Respelled (canonical : String → Option γ) (f f' : Fix) : Prop where
  file : canonical f'.file = canonical f.file
  rest : f' = { f with file := f'.file }

structure BufferRespelled (canonical : String → Option γ) (b b' : Buffer) : Prop where
  path : b'.path.map canonical = b.path.map canonical
  rest : b' = { b with path := b'.path }

theorem rangesFor_respelled {path path' : String} (hfixes : List.Forall₂ (Respelled canonical) fixes fixes')
    (hpath : canonical path' = canonical path) (hb : BufferRespelled canonical b b') :
    rangesFor canonical fixes' path' b' = rangesFor canonical fixes path b := by
  have hrange (e : Edit) : b'.range e = b.range e := by rw [hb.rest]; rfl
  induction hfixes with
  | nil => rfl
  | @cons f f' fs fs' hf _ ih =>
    have hedit : f'.edit = f.edit := by rw [hf.rest]
    simp only [rangesFor, hpath, hrange] at ih ⊢
    simp only [List.filter_cons, hf.file]
    split
    · rw [List.map_cons, List.map_cons, ih, hedit]
    · exact ih

theorem markIn_respelled (hfixes : List.Forall₂ (Respelled canonical) fixes fixes')
    (hb : BufferRespelled canonical b b') :
    BufferRespelled canonical (markIn canonical fixes b) (markIn canonical fixes' b') := by
  cases hp : b.path with
  | none =>
    have hp' : b'.path = none := by simpa [hp] using hb.path
    rw [markIn_of_pathless hp, markIn_of_pathless hp']
    exact hb
  | some path =>
    obtain ⟨path', hp', hpath⟩ : ∃ path', b'.path = some path' ∧ canonical path' = canonical path := by
      simpa [hp] using hb.path
    rw [markIn_of_path hp, markIn_of_path hp', rangesFor_respelled hfixes hpath hb]
    refine ⟨hb.path, ?_⟩
    rw [hb.rest]
    rfl

/-! ## All buffers -/

/-- A marking shows in every buffer the fixes for its file and nothing else. To do it twice is to do it once, and
with paths in other spellings it leaves the same buffers but for the spelling. -/
theorem markAll_exact (canonical : String → Option γ) (fixes : List Fix) (buffers : List Buffer) :
    List.Forall₂ (Shows canonical fixes) buffers (markAll canonical fixes buffers) ∧
    markAll canonical fixes (markAll canonical fixes buffers) = markAll canonical fixes buffers ∧
    ∀ fixes' buffers', List.Forall₂ (Respelled canonical) fixes fixes' →
      List.Forall₂ (BufferRespelled canonical) buffers buffers' →
      List.Forall₂ (BufferRespelled canonical) (markAll canonical fixes buffers)
        (markAll canonical fixes' buffers') := by
  refine ⟨?_, ?_, fun fixes' buffers' hfixes hbuffers => ?_⟩
  · rw [markAll, List.forall₂_map_right_iff, List.forall₂_same]
    exact fun b _ => shows_markIn canonical fixes b
  · rw [markAll, markAll, List.map_map]
    exact List.map_congr_left fun b _ => markIn_markIn canonical fixes b
  · rw [markAll, markAll, List.forall₂_map_left_iff, List.forall₂_map_right_iff]
    exact hbuffers.imp fun b b' hb => markIn_respelled hfixes hb

/-- A fix for `./A.hs` is shown in a buffer of `A.hs`, and so is one for `A.hs` in a buffer of `./A.hs`; a file that
is not there is shown nowhere. -/
theorem markAll_exact_two_spellings :
    let canonical : String → Option String := fun p => if p = "A.hs" ∨ p = "./A.hs" then some "/A.hs" else none
    let fix (file : String) : Fix := ⟨file, .hint, "", { start := ⟨1, none⟩, stop := ⟨0, some 1⟩ }⟩
    let fixes := [fix "./A.hs", fix "B.hs"]
    let buffers := [Buffer.ofText (some "A.hs") "é\nx", Buffer.ofText (some "B.hs") "y", Buffer.ofText none "z"]
    let fixes' := [fix "A.hs", fix "B.hs"]
    let buffers' := [Buffer.ofText (some "./A.hs") "é\nx", Buffer.ofText (some "B.hs") "y", Buffer.ofText none "z"]
    List.Forall₂ (BufferRespelled canonical) (markAll canonical fixes buffers) (markAll canonical fixes' buffers') ∧
      (markAll canonical fixes buffers).map (fun b => (b.marked markKey).map fun r => (r.start, r.stop)) =
        [[(2, 3)], [], []] := by
  intro canonical fix fixes buffers fixes' buffers'
  have hfixes : List.Forall₂ (Respelled canonical) fixes fixes' :=
    .cons ⟨by decide, rfl⟩ (.cons ⟨rfl, rfl⟩ .nil)
  have hbuffers : List.Forall₂ (BufferRespelled canonical) buffers buffers' :=
    .cons ⟨by decide, rfl⟩ (.cons ⟨rfl, rfl⟩ (.cons ⟨rfl, rfl⟩ .nil))
  exact ⟨(markAll_exact canonical fixes buffers).2.2 fixes' buffers' hfixes hbuffers, by decide⟩

end SymbolGraph.Fix
