import SymbolGraph.Symbol.Table

/-! # The job queue: one consumer runs named jobs in the order of their submission and logs what it does -/
namespace SymbolGraph

inductive LogLevel where
  | trace
  | debug
  | warn
  deriving DecidableEq, Repr

structure LogEvent where
  level : LogLevel
  message : String
  fields : List (String × String) := []
  deriving DecidableEq, Repr

def LogLevel.name : LogLevel → String
  | trace => "TRACE"
  | debug => "DEBUG"
  | warn => "WARN"

namespace LogEvent

def workerStarted (thread : String) : LogEvent := ⟨.debug, "worker started", [("thread", thread)]⟩

def workerStopped : LogEvent := ⟨.debug, "worker stopped", []⟩

def queueing (job : String) : LogEvent := ⟨.trace, "queueing job", [("job", job)]⟩

def running (job : String) : LogEvent := ⟨.trace, "running job", [("job", job)]⟩

def done (job : String) : LogEvent := ⟨.trace, "job done", [("job", job)]⟩

def failed (job error : String) : LogEvent := ⟨.warn, "job failed", [("job", job), ("error", error)]⟩

def discarded (job : String) : LogEvent := ⟨.warn, "worker shutting down, job discarded", [("job", job)]⟩

def absorbing (t : SymbolTable) (m : Module) : LogEvent :=
  match t.moduleTwin? m with
  | some id => ⟨.debug, "replacing previously inspected module", [("module", m.name), ("id", id.text)]⟩
  | none => ⟨.debug, "adding new module", [("module", m.name)]⟩

def reportLoaded (name : String) (id : ModuleId) : LogEvent :=
  ⟨.trace, "loaded inspection facts", [("module", name), ("id", id.text)]⟩

end LogEvent

inductive JobError where
  | failed (message : String)
  | inputOutput (message : String)
  | other (message : String)
  | crashed (message : String)
  deriving DecidableEq, Repr

namespace JobError

def message : JobError → String
  | failed s => s
  | inputOutput s => s
  | other s => s
  | crashed s => "panicked: " ++ s

/-- The error of a job that broke off, with the text that it gave, if it gave one. -/
def ofCrash (payload : Option String) : JobError := crashed (payload.getD "unknown panic payload")

end JobError

/-- How a job ended. An unreportable error breaks the consumer when it is logged. -/
inductive Outcome where
  | done
  | failed (e : JobError)
  | unreportable
  deriving DecidableEq, Repr

structure Job (τ : Type) where
  name : String
  task : τ
  deriving DecidableEq, Repr

inductive Message (τ : Type) where
  | run (job : Job τ)
  | shutdown
  deriving DecidableEq, Repr

/-- What a task did: the state after it, the jobs it submitted, the events it logged, and how it ended. -/
structure Performance (σ τ : Type) where
  state : σ
  submitted : List (Job τ) := []
  notes : List LogEvent := []
  outcome : Outcome := .done
  deriving DecidableEq, Repr

inductive Status where
  | waiting
  | stopped
  | dead
  deriving DecidableEq, Repr

/-- What the consumer did with the messages it found: the state after them, the messages that came in
meanwhile, and its log. -/
structure Consumption (σ τ : Type) where
  state : σ
  backlog : List (Message τ)
  log : List LogEvent
  status : Status
  deriving DecidableEq, Repr

namespace Queue
variable {σ τ : Type}

def discard? : Message τ → Option LogEvent
  | .run job => some (.discarded job.name)
  | .shutdown => none

variable (perform : τ → σ → Performance σ τ)

/-- Runs the jobs up to the first shutdown, each once and in order whatever the others came to, and discards
those behind it. -/
def consume (s : σ) (backlog : List (Message τ)) : List (Message τ) → Consumption σ τ
  | [] => ⟨s, backlog, [], .waiting⟩
  | .shutdown :: rest => ⟨s, [], (rest ++ backlog).filterMap discard? ++ [.workerStopped], .stopped⟩
  | .run job :: rest =>
    let p := perform job.task s
    let start := .running job.name :: p.notes
    let goOn (event : LogEvent) : Consumption σ τ :=
      let r := consume p.state (backlog ++ p.submitted.map .run) rest
      { r with log := start ++ event :: r.log }
    match p.outcome with
    | .done => goOn (.done job.name)
    | .failed e => goOn (.failed job.name e.message)
    | .unreportable => ⟨p.state, [], start, .dead⟩

/-- What a consumer logs when nobody can send to it any more. -/
def closing : Status → List LogEvent
  | .waiting => [.workerStopped]
  | _ => []

end Queue
end SymbolGraph
