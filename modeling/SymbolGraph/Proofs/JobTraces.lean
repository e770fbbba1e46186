import SymbolGraph.Jobs.Session

/-!
# What becomes of every job in the queue

The jobs before the first shutdown run in their order, whatever the others come to, and the jobs behind it are
discarded. Each leaves its own events in the log and no other job's events depend on how it ends. An error that cannot
be written to the log ends the consumer instead. What goes out of use on the way, the payload of a crash, an error or a
discarded job, is taken to do so without a crash of its own.
-/
namespace SymbolGraph

/-- The event that a job's end is logged with; an error that cannot be reported has none. -/
def Outcome.event? (name : String) : Outcome → Option LogEvent
  | .done => some (.done name)
  | .failed e => some (.failed name e.message)
  | .unreportable => none

def Message.job? {τ : Type} : Message τ → Option (Job τ)
  | .run job => some job
  | .shutdown => none

namespace Queue
variable {σ τ : Type}

def accepted : List (Message τ) → List (Job τ)
  | .run job :: rest => job :: accepted rest
  | _ => []

def late : List (Message τ) → List (Job τ)
  | [] => []
  | .run _ :: rest => late rest
  | .shutdown :: rest => rest.filterMap Message.job?

def jobEvents (x : Job τ × Performance σ τ) : List LogEvent :=
  .running x.1.name :: x.2.notes ++ (x.2.outcome.event? x.1.name).toList

variable (perform : τ → σ → Performance σ τ)

def performances (s : σ) : List (Job τ) → List (Job τ × Performance σ τ)
  | [] => []
  | job :: jobs => (job, perform job.task s) :: performances (perform job.task s).state jobs

def stateAfter (s : σ) (jobs : List (Job τ)) : σ := jobs.foldl (fun s job => (perform job.task s).state) s

def submissions (s : σ) (jobs : List (Job τ)) : List (Job τ) :=
  (performances perform s jobs).flatMap (·.2.submitted)

def Reportable (s : σ) (jobs : List (Job τ)) : Prop :=
  ∀ x ∈ performances perform s jobs, x.2.outcome ≠ .unreportable

/-- The two tasks do the same and differ in how they end at most. -/
structure Alike (x y : τ) : Prop where
  state : ∀ s, (perform y s).state = (perform x s).state
  submitted : ∀ s, (perform y s).submitted = (perform x s).submitted
  notes : ∀ s, (perform y s).notes = (perform x s).notes

variable {perform} {s : σ} {job : Job τ} {jobs : List (Job τ)} {backlog rest ms : List (Message τ)}

/-! ## Messages around the first shutdown -/

@[simp] theorem accepted_shutdown (rest : List (Message τ)) : accepted (.shutdown :: rest) = [] := rfl

theorem accepted_jobs_append (jobs : List (Job τ)) (ms : List (Message τ)) :
    accepted (jobs.map .run ++ ms) = jobs ++ accepted ms := by
  induction jobs with
  | nil => rfl
  | cons job jobs ih => simp [accepted, ih]

theorem late_jobs_append (jobs : List (Job τ)) (ms : List (Message τ)) :
    late (jobs.map .run ++ ms) = late ms := by
  induction jobs with
  | nil => rfl
  | cons job jobs ih => simp [late, ih]

theorem accepted_jobs (jobs : List (Job τ)) : accepted (jobs.map .run) = jobs := by
  simpa [accepted] using accepted_jobs_append jobs []

theorem late_jobs (jobs : List (Job τ)) : late (jobs.map .run) = [] := by
  simpa [late] using late_jobs_append jobs []

/-- A sequence of messages is jobs only, or jobs, a shutdown and anything behind it. -/
theorem messages_cases (ms : List (Message τ)) :
    (∃ jobs : List (Job τ), ms = jobs.map .run) ∨
      ∃ (jobs : List (Job τ)) (rest : List (Message τ)), ms = jobs.map .run ++ .shutdown :: rest := by
  induction ms with
  | nil => exact .inl ⟨[], rfl⟩
  | cons m ms ih =>
    cases m with
    | shutdown => exact .inr ⟨[], ms, rfl⟩
    | run job =>
      rcases ih with ⟨jobs, rfl⟩ | ⟨jobs, rest, rfl⟩
      · exact .inl ⟨job :: jobs, rfl⟩
      · exact .inr ⟨job :: jobs, rest, rfl⟩

theorem filterMap_discard? (ms : List (Message τ)) :
    ms.filterMap discard? = (ms.filterMap Message.job?).map fun job => .discarded job.name := by
  induction ms with
  | nil => rfl
  | cons m ms ih =>
    cases m with
    | run job => simp [discard?, Message.job?, ih]
    | shutdown => exact ih

/-! ## The consumer -/

/-- A job whose error can be reported, if it fails, leaves its events and what it did, and the queue moves on. -/
theorem consume_run (job : Job τ) (h : (perform job.task s).outcome ≠ .unreportable) :
    consume perform s backlog (.run job :: rest) =
      let r := consume perform (perform job.task s).state
        (backlog ++ (perform job.task s).submitted.map .run) rest
      { r with log := jobEvents (job, perform job.task s) ++ r.log } := by
  rw [consume]
  cases ho : (perform job.task s).outcome with
  | done => simp [jobEvents, Outcome.event?, ho]
  | failed e => simp [jobEvents, Outcome.event?, ho]
  | unreportable => exact absurd ho h

theorem consume_run_unreportable (h : (perform job.task s).outcome = .unreportable) :
    consume perform s backlog (.run job :: rest) =
      ⟨(perform job.task s).state, [], .running job.name :: (perform job.task s).notes, .dead⟩ := by
  simp [consume, h]

theorem reportable_cons : Reportable perform s (job :: jobs) ↔
    (perform job.task s).outcome ≠ .unreportable ∧ Reportable perform (perform job.task s).state jobs := by
  simp [Reportable, performances]

theorem consume_jobs (h : Reportable perform s jobs) (backlog rest : List (Message τ)) :
    consume perform s backlog (jobs.map .run ++ rest) =
      let r := consume perform (stateAfter perform s jobs)
        (backlog ++ (submissions perform s jobs).map .run) rest
      { r with log := (performances perform s jobs).flatMap jobEvents ++ r.log } := by
  induction jobs generalizing s backlog with
  | nil => simp [performances, submissions, stateAfter]
  | cons job jobs ih =>
    obtain ⟨hjob, hjobs⟩ := reportable_cons.1 h
    rw [List.map_cons, List.cons_append, consume_run job hjob, ih hjobs]
    simp [performances, submissions, stateAfter]

theorem performances_append (s : σ) (jobs more : List (Job τ)) : performances perform s (jobs ++ more) =
    performances perform s jobs ++ performances perform (stateAfter perform s jobs) more := by
  induction jobs generalizing s with
  | nil => rfl
  | cons job jobs ih => simp [performances, stateAfter, ih]

theorem reportable_append {more : List (Job τ)} : Reportable perform s (jobs ++ more) ↔
    Reportable perform s jobs ∧ Reportable perform (stateAfter perform s jobs) more := by
  simp only [Reportable, performances_append, List.forall_mem_append]

theorem performances_eq_append {before after : List (Job τ × Performance σ τ)} {p : Performance σ τ}
    (h : performances perform s jobs = before ++ (job, p) :: after) :
    ∃ front behind, jobs = front ++ job :: behind ∧ performances perform s front = before ∧
      p = perform job.task (stateAfter perform s front) := by
  induction before generalizing s jobs with
  | nil =>
    cases jobs with
    | nil => cases h
    | cons first jobs =>
      obtain ⟨heq, -⟩ := List.cons.inj h
      obtain ⟨rfl, rfl⟩ := Prod.mk.inj heq
      exact ⟨[], jobs, rfl, rfl, rfl⟩
  | cons x before ih =>
    cases jobs with
    | nil => cases h
    | cons first jobs =>
      obtain ⟨rfl, hrest⟩ := List.cons.inj h
      obtain ⟨front, behind, rfl, hfront, hp⟩ := ih hrest
      exact ⟨first :: front, behind, rfl, by rw [performances, hfront], hp⟩

/-- The consumption of messages whose errors can all be reported. -/
theorem consume_of_reportable (h : Reportable perform s (accepted ms)) :
    let r := consume perform s [] ms
    let submitted := (submissions perform s (accepted ms)).map Message.run
    r.state = stateAfter perform s (accepted ms) ∧
      (.shutdown ∈ ms → r.backlog = []) ∧ (.shutdown ∉ ms → r.backlog = submitted) ∧
      r.log ++ closing r.status = (performances perform s (accepted ms)).flatMap jobEvents ++
        (late (ms ++ submitted)).map (fun job => .discarded job.name) ++ [.workerStopped] := by
  rcases messages_cases ms with ⟨jobs, rfl⟩ | ⟨jobs, rest, rfl⟩
  · rw [accepted_jobs] at h
    have hrun := consume_jobs h [] []
    rw [List.append_nil] at hrun
    simp only [accepted_jobs, hrun, ← List.map_append, late_jobs]
    simp [consume, closing]
  · rw [accepted_jobs_append] at h
    have hrun := consume_jobs (List.append_nil jobs ▸ h) [] (.shutdown :: rest)
    simp only [accepted_jobs_append, accepted_shutdown, List.append_nil, hrun, List.append_assoc, List.cons_append,
      late_jobs_append, late, consume, filterMap_discard?]
    simp [closing]

theorem consume_of_unreportable {before after : List (Job τ × Performance σ τ)} {p : Performance σ τ}
    (h : performances perform s (accepted ms) = before ++ (job, p) :: after)
    (hbefore : ∀ x ∈ before, x.2.outcome ≠ .unreportable) (hp : p.outcome = .unreportable) :
    consume perform s [] ms = ⟨p.state, [], before.flatMap jobEvents ++ .running job.name :: p.notes, .dead⟩ := by
  obtain ⟨front, behind, hjobs, rfl, rfl⟩ := performances_eq_append h
  obtain ⟨rest, rfl⟩ : ∃ rest, ms = (front ++ job :: behind).map .run ++ rest := by
    rcases messages_cases ms with ⟨jobs, rfl⟩ | ⟨jobs, rest, rfl⟩
    · rw [accepted_jobs] at hjobs
      exact ⟨[], by rw [hjobs, List.append_nil]⟩
    · rw [accepted_jobs_append, accepted_shutdown, List.append_nil] at hjobs
      exact ⟨_, by rw [hjobs]⟩
  rw [List.map_append, List.append_assoc, consume_jobs hbefore, List.map_cons, List.cons_append,
    consume_run_unreportable hp]

/-- How a job ends shows in one event of the log only. -/
theorem consume_alike {front rest : List (Message τ)} {name : String} {x y : τ} (halike : Alike perform x y)
    (hx : Reportable perform s (accepted (front ++ .run ⟨name, x⟩ :: rest)))
    (hy : (perform y (stateAfter perform s (accepted front))).outcome ≠ .unreportable) :
    let r := consume perform s [] (front ++ .run ⟨name, x⟩ :: rest)
    let r' := consume perform s [] (front ++ .run ⟨name, y⟩ :: rest)
    let before := stateAfter perform s (accepted front)
    (.shutdown ∈ front → r' = r) ∧
      (.shutdown ∉ front → ∃ log log', r.log = log ++ ((perform x before).outcome.event? name).toList ++ log' ∧
        r' = { r with log := log ++ ((perform y before).outcome.event? name).toList ++ log' }) := by
  rcases messages_cases front with ⟨jobs, rfl⟩ | ⟨jobs, behind, rfl⟩
  · -- The job runs after `jobs`, in the same state whichever of the two tasks it has.
    refine ⟨fun hmem => by simp at hmem, fun _ => ?_⟩
    rw [accepted_jobs_append, accepted, reportable_append, reportable_cons] at hx
    obtain ⟨hjobs, hx, -⟩ := hx
    rw [accepted_jobs] at hy ⊢
    refine ⟨(performances perform s jobs).flatMap jobEvents ++
        .running name :: (perform x (stateAfter perform s jobs)).notes,
      (consume perform (perform x (stateAfter perform s jobs)).state ((submissions perform s jobs).map .run ++
        (perform x (stateAfter perform s jobs)).submitted.map .run) rest).log, ?_, ?_⟩
    · simp [consume_jobs hjobs, consume_run ⟨name, x⟩ hx, jobEvents]
    · simp [consume_jobs hjobs, consume_run ⟨name, x⟩ hx, consume_run ⟨name, y⟩ hy, jobEvents, halike.state,
        halike.submitted, halike.notes]
  · -- The job is behind a shutdown, and its name alone is read.
    refine ⟨fun _ => ?_, fun hnot => by simp at hnot⟩
    rw [List.append_assoc, accepted_jobs_append, List.cons_append, accepted_shutdown, List.append_nil] at hx
    simp only [List.append_assoc, List.cons_append, consume_jobs hx, consume, List.filterMap_append,
      List.filterMap_cons, discard?]

/-- The jobs before the first shutdown run once each and in order, those behind it are discarded, with those that
were submitted meanwhile, and the stop of the worker is logged last; how one job ends shows in its own event only.
An error that cannot be reported ends the consumer on the spot, with nothing logged of it or of the jobs behind
it. -/
theorem jobs_accounted_for (perform : τ → σ → Performance σ τ) (s : σ) (ms : List (Message τ)) :
    let r := consume perform s [] ms
    let ran := performances perform s (accepted ms)
    let submitted := (submissions perform s (accepted ms)).map Message.run
    (Reportable perform s (accepted ms) →
      r.state = stateAfter perform s (accepted ms) ∧
      (.shutdown ∈ ms → r.backlog = []) ∧ (.shutdown ∉ ms → r.backlog = submitted) ∧
      r.log ++ closing r.status = ran.flatMap jobEvents ++
        (late (ms ++ submitted)).map (fun job => .discarded job.name) ++ [.workerStopped]) ∧
    (∀ before after job p, ran = before ++ (job, p) :: after → (∀ x ∈ before, x.2.outcome ≠ .unreportable) →
      p.outcome = .unreportable →
      r = ⟨p.state, [], before.flatMap jobEvents ++ .running job.name :: p.notes, .dead⟩) ∧
    (∀ front rest name x y, ms = front ++ .run ⟨name, x⟩ :: rest → Alike perform x y →
      Reportable perform s (accepted ms) →
      let before := stateAfter perform s (accepted front)
      (perform y before).outcome ≠ .unreportable →
      let r' := consume perform s [] (front ++ .run ⟨name, y⟩ :: rest)
      (.shutdown ∈ front → r' = r) ∧
        (.shutdown ∉ front → ∃ log log', r.log = log ++ ((perform x before).outcome.event? name).toList ++ log' ∧
          r' = { r with log := log ++ ((perform y before).outcome.event? name).toList ++ log' })) := by
  refine ⟨consume_of_reportable, fun before after job p => consume_of_unreportable, ?_⟩
  rintro front rest name x y rfl halike hx before hy
  exact consume_alike halike hx hy

/-- One job does its work, one fails, one breaks off, and one comes too late. -/
theorem jobs_accounted_for_break_off :
    let perform := Task.perform Session.defaultThread
    let ms : List (Message Task) := [.run ⟨"a", .note "seen"⟩, .run ⟨"b", .fail (.failed "no")⟩,
      .run ⟨"c", .crash (some "boom")⟩, .shutdown, .run ⟨"d", .note "late"⟩, .shutdown]
    let r := consume perform {} [] ms
    Reportable perform {} (accepted ms) ∧ r.backlog = [] ∧ r.state.notes = [.text "seen"] ∧
      r.log ++ closing r.status = [.running "a", .done "a", .running "b", .failed "b" "no", .running "c",
        .failed "c" "panicked: boom", .discarded "d", .workerStopped] := by
  intro perform ms r
  have hreportable : Reportable perform {} (accepted ms) := by
    simp [Reportable, accepted, performances, perform, ms, Task.perform]
  obtain ⟨hstate, hbacklog, -, hlog⟩ := (jobs_accounted_for perform {} ms).1 hreportable
  refine ⟨hreportable, hbacklog (by simp [ms]), by rw [hstate]; rfl, ?_⟩
  rw [hlog]
  rfl

/-- An error that cannot be reported is not logged, and neither the job behind it nor the shutdown is met. -/
theorem unreportable_error_ends_consumer :
    let ms : List (Message Task) := [.run ⟨"b", .failUnreportably⟩, .run ⟨"next", .note "seen"⟩, .shutdown]
    let r := consume (Task.perform Session.defaultThread) {} [] ms
    r.log ++ closing r.status = [.running "b"] ∧ r.state.notes = [] ∧ r.status = .dead := by
  decide

end Queue
end SymbolGraph
