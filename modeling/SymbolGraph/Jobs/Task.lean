import SymbolGraph.Jobs.Queue
import SymbolGraph.Report.Basic

/-! # What jobs do -/
namespace SymbolGraph

/-- A task works on a shared symbol table and may leave notes. `submit` queues another task and goes on. -/
inductive Task where
  | succeed
  | note (text : String)
  | noteThread
  | fail (e : JobError)
  | crash (payload : Option String)
  | failUnreportably
  | load (report : ModuleReport) (location : Option Location) (time : UInt64)
  | declare (id : ModuleId) (d : Declaration)
  | submit (name : String) (task next : Task)
  deriving Repr

inductive Note where
  | text (s : String)
  | moduleId (id : ModuleId)
  | declarationId (id : DeclarationId)
  deriving DecidableEq, Repr

structure Workspace where
  table : SymbolTable := .empty
  notes : List Note := []
  deriving DecidableEq, Repr

def Workspace.note (w : Workspace) (n : Note) : Workspace := { w with notes := w.notes ++ [n] }

namespace Task

/-- The result of a change of the table: the id is noted, an error fails the job. -/
def settle {α : Type} (w : Workspace) (a : Attempt α) (f : α → Note) (log : α → List LogEvent) :
    Performance Workspace Task :=
  match a.1 with
  | .ok v => { state := { w with table := a.2 }.note (f v), notes := log v }
  | .error e => { state := { w with table := a.2 }, outcome := .failed (.other e.message) }

def perform (thread : String) : Task → Workspace → Performance Workspace Task
  | succeed, w => { state := w }
  | note s, w => { state := w.note (.text s) }
  | noteThread, w => { state := w.note (.text thread) }
  | fail e, w => { state := w, outcome := .failed e }
  | crash payload, w => { state := w, outcome := .failed (.ofCrash payload) }
  | failUnreportably, w => { state := w, outcome := .unreportable }
  | load r location time, w =>
    settle w (w.table.absorbReport r location time) .moduleId fun id =>
      [.absorbing w.table (r.toModule location time), .reportLoaded r.name id]
  | declare id d, w => settle w (w.table.insertDeclaration id d) .declarationId fun _ => []
  | submit name task next, w =>
    let p := perform thread next (w.note (.text "ok"))
    { p with submitted := ⟨name, task⟩ :: p.submitted, notes := .queueing name :: p.notes }

def weight : Task → Nat
  | submit _ task next => weight task + weight next + 1
  | _ => 1

def jobsWeight : List (Job Task) → Nat
  | [] => 0
  | j :: js => j.task.weight + jobsWeight js

theorem weight_pos (t : Task) : 0 < t.weight := by cases t <;> simp [weight]

theorem jobsWeight_submitted_settle {α : Type} (w : Workspace) (a : Attempt α) (f : α → Note)
    (log : α → List LogEvent) : jobsWeight (settle w a f log).submitted = 0 := by
  unfold settle
  split <;> rfl

theorem jobsWeight_submitted (thread : String) (t : Task) (w : Workspace) :
    jobsWeight (perform thread t w).submitted < t.weight := by
  induction t generalizing w with
  | submit name task next _ ih =>
    have := ih (w.note (.text "ok"))
    simp only [perform, jobsWeight, weight]
    omega
  | load => simp [perform, jobsWeight_submitted_settle, weight]
  | declare => simp [perform, jobsWeight_submitted_settle, weight]
  | _ => simp [perform, jobsWeight, weight]

end Task
end SymbolGraph
