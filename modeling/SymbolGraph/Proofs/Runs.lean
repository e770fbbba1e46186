import SymbolGraph.Report.Basic

/-! # Runs: any sequence of calls that change a table -/
namespace SymbolGraph

/-- A call that changes a table, with its arguments. -/
inductive Operation where
  | insertModule (m : Module)
  | absorbModule (m : Module) (ds : List Declaration)
  | absorbReport (r : ModuleReport) (location : Option Location) (time : UInt64)
  | eraseModule (id : ModuleId)
  | insertDeclaration (id : ModuleId) (d : Declaration)
  | absorbDeclaration (d : Declaration)
  deriving DecidableEq, Repr

namespace SymbolTable

/-- The table as a call leaves it, whether it succeeds or fails. -/
def step (t : SymbolTable) : Operation → SymbolTable
  | .insertModule m => (t.insertModule m).2
  | .absorbModule m ds => (t.absorbModule m ds).2
  | .absorbReport r location time => (t.absorbReport r location time).2
  | .eraseModule id => (t.eraseModule id).2
  | .insertDeclaration id d => (t.insertDeclaration id d).2
  | .absorbDeclaration d => (t.absorbDeclaration d).2

def run (t : SymbolTable) (ops : List Operation) : SymbolTable := ops.foldl step t

/-- What holds at first and is kept by each call of a run holds after the run. -/
theorem run_induction {P : SymbolTable → Prop} {ops : List Operation}
    (hs : ∀ t, ∀ op ∈ ops, P t → P (t.step op)) {t : SymbolTable} (h : P t) : P (t.run ops) := by
  induction ops generalizing t with
  | nil => exact h
  | cons op ops ih =>
    have hop : P (t.step op) := hs t op (by simp) h
    exact ih (fun t op' hm => hs t op' (by simp [hm])) hop

end SymbolTable
end SymbolGraph
