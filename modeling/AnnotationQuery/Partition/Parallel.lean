import AnnotationQuery.Partition.Sequential

/-!
# Parallel execution

Every partition is a task of its own. A task looks at the cancellation, then at the earliest failure
noted so far, executes its statement and notes its failure if it failed. A task that stands behind a
noted failure skips its statement. The steps of different tasks may follow one another in any order,
which a schedule lays down: each entry lets one task take one step.

* `Board.step`: one step of one task.
* `Store.runParallel`: runs a schedule and collects the results in listing order.
* `Schedule.inTurn`: the schedule in which each task finishes before the next one starts.
-/

namespace AnnotationQuery

/-- How far a task has come. -/
inductive Stage where
  | waiting
  /-- The cancellation was looked at and not set. -/
  | admitted
  /-- No earlier failure was noted. -/
  | cleared
  /-- The statement failed and the failure is not noted yet. -/
  | failing (e : QueryError)
  | finished (result : Except QueryError Table)
  | skipped

/-- A partition with its stage. -/
structure Task where
  value : String
  statement : CompiledStatement
  stage : Stage

/-- What all tasks share. -/
structure Board (σ : Type) where
  tasks : List Task
  /-- The position of the earliest failure noted so far. -/
  firstFailure : Option Nat
  state : σ
  cancelled : Bool

namespace Board

/-- The board before any task has started. -/
def initial (partitions : List Partition) (state : σ) (cancelled : Bool) : Board σ :=
  ⟨partitions.map fun p => ⟨p.1, p.2, .waiting⟩, none, state, cancelled⟩

/-- Sets the stage of a task. -/
def setStage (b : Board σ) (i : Nat) (stage : Stage) : Board σ :=
  { b with tasks := b.tasks.modify i fun t => { t with stage } }

/-- Notes that a task has failed. -/
def noteFailure (b : Board σ) (i : Nat) : Board σ :=
  { b with firstFailure := some ((b.firstFailure.getD i).min i) }

/-- Does the task stand behind a noted failure? -/
def isBehindFailure (b : Board σ) (i : Nat) : Bool :=
  match b.firstFailure with
  | some first => first < i
  | none => false

/-- Lets a task take one step; a finished task stays as it is. -/
def step (store : Store σ) (b : Board σ) (i : Nat) : Board σ :=
  match b.tasks[i]? with
  | none => b
  | some task =>
    match task.stage with
    | .waiting =>
      if b.cancelled then b.setStage i (.finished (.error (.cancelled task.value)))
      else b.setStage i .admitted
    | .admitted => b.setStage i (if b.isBehindFailure i then .skipped else .cleared)
    | .cleared =>
      let answer := store.execute task.statement b.state
      let b := { b with state := answer.state, cancelled := b.cancelled || answer.cancels }
      match answer.result with
      | .ok table => b.setStage i (.finished (.ok table))
      | .error e => b.setStage i (.failing e)
    | .failing e =>
      (b.noteFailure i).setStage i (.finished (.error (.partition task.value e)))
    | .finished _ | .skipped => b

/-- The tables of the tasks in listing order, or the first failure. A task that was skipped or has
not finished has no table. -/
def collect : List Task → Except QueryError (List Table)
  | [] => .ok []
  | task :: tasks =>
    match task.stage with
    | .finished (.ok table) => (collect tasks).map (table :: ·)
    | .finished (.error e) => .error e
    | _ => collect tasks

end Board

/-- The tasks that take a step, one after another. -/
abbrev Schedule := List Nat

/-- Each of `count` tasks takes all its steps before the next one starts. -/
def Schedule.inTurn (count : Nat) : Schedule :=
  (List.range count).flatMap (List.replicate 4)

/-- Executes partitions as tasks under a schedule and gives their tables (`execute_parallel`). -/
def Store.runParallel (store : Store σ) (schedule : Schedule) (partitions : List Partition)
    (state : σ) (cancelled : Bool) : Outcome σ (List Table) :=
  let board := schedule.foldl (Board.step store) (.initial partitions state cancelled)
  ⟨Board.collect board.tasks, board.state, board.cancelled⟩

end AnnotationQuery
