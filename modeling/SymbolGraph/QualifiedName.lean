import SymbolGraph.Text.Identifier

/-! # Qualified names: capitalised segments, each followed by a dot, and a name -/
namespace SymbolGraph

structure QualifiedName where
  segments : List String
  name : String
  deriving DecidableEq, Repr

namespace QualifiedName
open Text

variable (ident upper : Char → Bool)

/-- A capitalised segment that ends at a dot, and what follows the dot, which is not empty. -/
def segment? (cs : List Char) : Option (List Char × List Char) :=
  match cs.dropWhile ident with
  | '.' :: c :: rest =>
    if (cs.takeWhile ident).head?.any upper then some (cs.takeWhile ident, c :: rest) else none
  | _ => none

theorem segment?_length {cs : List Char} {p : List Char × List Char}
    (h : segment? ident upper cs = some p) : p.2.length < cs.length := by
  have hs := (List.dropWhile_suffix ident (l := cs)).length_le
  unfold segment? at h
  split at h
  · rename_i c rest hd
    simp only [hd, List.length_cons] at hs
    split at h
    · cases h
      simp only [List.length_cons]
      omega
    · exact absurd h (by simp)
  · exact absurd h (by simp)

def splitWith (cs : List Char) : List (List Char) × List Char :=
  match _h : segment? ident upper cs with
  | some p => (p.1 :: (splitWith p.2).1, (splitWith p.2).2)
  | none => ([], cs)
termination_by cs.length
decreasing_by all_goals exact segment?_length ident upper _h

/-- Splits a text for any class of identifier characters and any class of capitals. -/
def ofTextWith (s : String) : QualifiedName :=
  let p := splitWith ident upper s.toList
  ⟨p.1.map String.ofList, String.ofList p.2⟩

def ofText (s : String) : QualifiedName := ofTextWith Identifier.isIdentifierChar Uppercase.isUppercase s

/-- The segments joined by dots, if there are any. -/
def qualifier? (q : QualifiedName) : Option String :=
  match q.segments with
  | [] => none
  | segments => some (".".intercalate segments)

end QualifiedName
end SymbolGraph
