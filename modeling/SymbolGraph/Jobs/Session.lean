import SymbolGraph.Jobs.Task

/-! # Sessions with a worker: submitting jobs, shutting down and letting go -/
namespace SymbolGraph

inductive WorkerError where
  | disconnected (job : String)
  | crashed
  deriving DecidableEq, Repr

def WorkerError.message : WorkerError → String
  | disconnected job => "worker is not running, job `" ++ job ++ "` was not queued"
  | crashed => "worker thread panicked"

namespace Worker

def messageWeight : Message Task → Nat
  | .run job => job.task.weight
  | .shutdown => 1

def weight : List (Message Task) → Nat
  | [] => 0
  | m :: ms => messageWeight m + weight ms

theorem weight_append (ms ns : List (Message Task)) : weight (ms ++ ns) = weight ms + weight ns := by
  induction ms with
  | nil => simp [weight]
  | cons m ms ih => simp [weight, ih, Nat.add_assoc]

theorem weight_map_run (js : List (Job Task)) : weight (js.map .run) = Task.jobsWeight js := by
  induction js with
  | nil => rfl
  | cons j js ih => simp [weight, messageWeight, Task.jobsWeight, ih]

theorem length_le_weight (ms : List (Message Task)) : ms.length ≤ weight ms := by
  induction ms with
  | nil => exact Nat.le_refl 0
  | cons m ms ih =>
    have : 0 < messageWeight m := by
      cases m with
      | run job => exact job.task.weight_pos
      | shutdown => exact Nat.one_pos
    rw [List.length_cons, weight]
    omega

/-- Each message that was consumed weighs more than what came in through it. -/
theorem weight_backlog_consume (thread : String) (w : Workspace) (backlog ms : List (Message Task)) :
    weight (Queue.consume (Task.perform thread) w backlog ms).backlog + ms.length ≤
      weight backlog + weight ms := by
  induction ms generalizing w backlog with
  | nil => simp [Queue.consume, weight]
  | cons m rest ih =>
    cases m with
    | shutdown =>
      have := length_le_weight rest
      simp only [Queue.consume, weight, messageWeight, List.length_cons]
      omega
    | run job =>
      have hs := Task.jobsWeight_submitted thread job.task w
      have hl := length_le_weight rest
      have hr := ih (job.task.perform thread w).state
        (backlog ++ (job.task.perform thread w).submitted.map .run)
      rw [weight_append, weight_map_run] at hr
      rw [weight, messageWeight, List.length_cons, Queue.consume]
      simp only
      split
      · simp only
        omega
      · simp only
        omega
      · simp only [weight]
        omega

def drain (thread : String) (w : Workspace) (ms : List (Message Task)) : Consumption Workspace Task :=
  let r := Queue.consume (Task.perform thread) w [] ms
  if _h : r.backlog = [] then r
  else
    let q := drain thread r.state r.backlog
    { q with log := r.log ++ q.log }
termination_by weight ms
decreasing_by
  have hb := weight_backlog_consume thread w [] ms
  cases ms with
  | nil => exact absurd rfl _h
  | cons m rest =>
    simp only [List.length_cons, weight] at hb
    rw [weight]
    omega

end Worker

structure Session where
  thread : String
  held : Bool := true
  status : Status := .waiting
  workspace : Workspace := {}
  callerLog : List LogEvent
  workerLog : List LogEvent := []
  deriving DecidableEq, Repr

inductive Reply where
  | ok
  | failed (e : WorkerError)
  | noWorker
  deriving DecidableEq, Repr

namespace Session

def defaultThread : String := "hsym-worker"

/-- Starts a worker on a thread of this name, in which no NUL may stand. -/
def start? (thread : String) : Option Session :=
  if thread.toList.contains '\x00' then none else some { thread, callerLog := [.workerStarted thread] }

def logCaller (s : Session) (e : LogEvent) : Session := { s with callerLog := s.callerLog ++ [e] }

/-- Lets a running worker consume messages; one that is gone does nothing. -/
def send (s : Session) (ms : List (Message Task)) : Session :=
  match s.status with
  | .waiting =>
    let r := Worker.drain s.thread s.workspace ms
    { s with status := r.status, workspace := r.state, workerLog := s.workerLog ++ r.log }
  | _ => s

def submit (s : Session) (name : String) (task : Task) : Reply × Session :=
  let s := s.logCaller (.queueing name)
  match s.status with
  | .waiting => (.ok, s.send [.run ⟨name, task⟩])
  | _ => (.failed (.disconnected name), s)

/-- The task that submits jobs of these names while the worker shuts down. -/
def gate (late : List String) : Task := late.foldr (fun name next => .submit name .succeed next) .succeed

/-- Shuts the worker down and waits for it. Late jobs are submitted by a job that runs when the shutdown is
already queued. -/
def shutdown (s : Session) (late : List String) : Reply × Session :=
  if s.held then
    let s := { s with held := false }
    let s :=
      match late with
      | [] => s.send [.shutdown]
      | late => (s.logCaller (.queueing "gate")).send [.run ⟨"gate", gate late⟩, .shutdown]
    match s.status with
    | .dead => (.failed .crashed, s)
    | _ => (.ok, s)
  else (.noWorker, s)

def drop (s : Session) : Reply × Session := (.ok, { s with held := false })

/-- A worker that nobody can send to any more stops. -/
def finish (s : Session) : Session := { s with workerLog := s.workerLog ++ Queue.closing s.status }

end Session
end SymbolGraph
