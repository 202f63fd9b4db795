import AnnotationQuery.Partition.Basic
import AnnotationQuery.Proofs.Resolution

/-!
# Parallel execution gives what sequential execution gives

A task skips its statement only behind a failure that has been noted, and only tasks whose statement
failed note a failure. So neither the first partition that fails nor any partition in front of it is
skipped, in whatever order the tasks take their steps: the first error in listing order is that of
the first partition that fails, and without a failure every task has its table.

Results:
* `Partition.leads_result`: what partitions lead to, by their first failure.
* `Store.result_runSequential`: sequential execution leads to it.
* `Board.Sound.step`, `Board.sound_run`: what a step keeps and what holds behind every schedule.
* `Schedule.completes_of_turns`: every task ends when each one has four turns.
* `Store.runParallel_eq_runSequential`: parallel and sequential execution agree.
* `PartitionedQuery.result_run`: the configuration does not change the tables.
-/

namespace AnnotationQuery

variable {σ : Type} {store : Store σ} {answer : CompiledStatement → Except QueryError Table}
  {partitions : List Partition} {cancelled : Bool}

/-- The result of a statement does not depend on the state of the store, and nobody cancels the
execution while a statement is executed. -/
structure Store.Steady (store : Store σ)
    (answer : CompiledStatement → Except QueryError Table) : Prop where
  result_eq : ∀ statement state, (store.execute statement state).result = answer statement
  not_cancels : ∀ statement state, (store.execute statement state).cancels = false

/-! ## What partitions lead to -/

namespace Partition

/-- The partitions, with the execution cancelled beforehand or not, lead to a result: to the tables
of all partitions in listing order, to the failure of the first partition that fails, or to the
cancellation of the first partition. -/
inductive Leads (answer : CompiledStatement → Except QueryError Table) :
    Bool → List Partition → Except QueryError (List Table) → Prop
  | tables {cancelled : Bool} {ps : List Partition} {tables : List Table} :
    (cancelled = true → ps = []) → List.Forall₂ (fun p t => answer p.2 = .ok t) ps tables →
    Leads answer cancelled ps (.ok tables)
  | failure {before after : List Partition} {p : Partition} {e : QueryError} :
    (∀ b ∈ before, ∃ t, answer b.2 = .ok t) → answer p.2 = .error e →
    Leads answer false (before ++ p :: after) (.error (.partition p.1 e))
  | cancelled {p : Partition} {ps : List Partition} :
    Leads answer true (p :: ps) (.error (.cancelled p.1))

/-- The result of one partition. -/
def outcome (answer : CompiledStatement → Except QueryError Table) (cancelled : Bool)
    (p : Partition) : Except QueryError Table :=
  if cancelled then .error (.cancelled p.1) else (answer p.2).mapError (.partition p.1)

/-- The tables of all partitions, or the first error in listing order. -/
def result (answer : CompiledStatement → Except QueryError Table) (cancelled : Bool)
    (ps : List Partition) : Except QueryError (List Table) :=
  ps.mapM (outcome answer cancelled)

theorem outcome_eq_ok {p : Partition} {t : Table} (h : answer p.2 = .ok t) :
    outcome answer false p = .ok t := by
  simp [outcome, h, Except.mapError]

theorem outcome_eq_error {p : Partition} {e : QueryError} (h : answer p.2 = .error e) :
    outcome answer false p = .error (.partition p.1 e) := by
  simp [outcome, h, Except.mapError]

theorem result_cons_of_ok {p : Partition} {ps : List Partition} {t : Table}
    (h : outcome answer cancelled p = .ok t) :
    result answer cancelled (p :: ps) = (result answer cancelled ps).map (t :: ·) := by
  simp only [result, List.mapM_cons, h]
  cases ps.mapM (outcome answer cancelled) <;> rfl

theorem result_cons_of_error {p : Partition} {ps : List Partition} {e : QueryError}
    (h : outcome answer cancelled p = .error e) :
    result answer cancelled (p :: ps) = .error e := by
  simp only [result, List.mapM_cons, h]
  rfl

/-- A partition with a table goes in front of what later partitions lead to. -/
theorem Leads.cons {p : Partition} {ps : List Partition} {t : Table}
    {r : Except QueryError (List Table)} (ht : answer p.2 = .ok t) (h : Leads answer false ps r) :
    Leads answer false (p :: ps) (r.map (t :: ·)) := by
  cases h with
  | tables _ h => exact .tables nofun (.cons ht h)
  | @failure before after p' e hbefore he =>
    rw [← List.cons_append]
    exact .failure (List.forall_mem_cons.2 ⟨⟨t, ht⟩, hbefore⟩) he

theorem leads_result : Leads answer cancelled partitions (result answer cancelled partitions) := by
  induction partitions with
  | nil => exact .tables (fun _ => rfl) .nil
  | cons p ps ih =>
    cases cancelled with
    | true => exact .cancelled
    | false =>
      cases ht : answer p.2 with
      | ok t =>
        rw [result_cons_of_ok (outcome_eq_ok ht)]
        exact ih.cons ht
      | error e =>
        rw [result_cons_of_error (outcome_eq_error ht)]
        rw [← List.nil_append (p :: ps)]
        exact .failure nofun ht

end Partition

namespace Store

theorem result_runSequential (hs : store.Steady answer) (partitions : List Partition) (state : σ)
    (cancelled : Bool) :
    (store.runSequential partitions state cancelled).result =
      Partition.result answer cancelled partitions := by
  induction partitions generalizing state cancelled with
  | nil => rfl
  | cons p ps ih =>
    cases cancelled with
    | true => rfl
    | false =>
      have hr := hs.result_eq p.2 state
      simp only [runSequential, Bool.false_eq_true, if_false]
      cases ht : answer p.2 with
      | ok t =>
        rw [ht] at hr
        simp only [hr, hs.not_cancels, Outcome.map, ih]
        exact (Partition.result_cons_of_ok (Partition.outcome_eq_ok ht)).symm
      | error e =>
        rw [ht] at hr
        simp only [hr]
        exact (Partition.result_cons_of_error (Partition.outcome_eq_error ht)).symm

end Store

/-! ## What tasks know -/

/-- The partition that a task executes. -/
def Task.partition (t : Task) : Partition :=
  (t.value, t.statement)

/-- The statement of the partition at a position fails. -/
def Partition.FailsAt (answer : CompiledStatement → Except QueryError Table)
    (partitions : List Partition) (i : Nat) : Prop :=
  ∃ p e, partitions[i]? = some p ∧ answer p.2 = .error e

/-- The stage of the task at a position is one that its partition can lead to. A task is only
skipped behind a partition that fails. -/
def Task.Sound (answer : CompiledStatement → Except QueryError Table) (partitions : List Partition)
    (cancelled : Bool) (i : Nat) (t : Task) : Prop :=
  match t.stage with
  | .waiting => True
  | .admitted | .cleared => cancelled = false
  | .failing e => cancelled = false ∧ answer t.statement = .error e
  | .finished result => result = t.partition.outcome answer cancelled
  | .skipped => cancelled = false ∧ ∃ j < i, Partition.FailsAt answer partitions j

namespace Board

/-- The tasks are those of the partitions, and every failure that was noted is one. -/
structure Sound (answer : CompiledStatement → Except QueryError Table)
    (partitions : List Partition) (cancelled : Bool) (b : Board σ) : Prop where
  partitions_eq : b.tasks.map Task.partition = partitions
  cancelled_eq : b.cancelled = cancelled
  task : ∀ (i : Nat) (t : Task), b.tasks[i]? = some t → t.Sound answer partitions cancelled i
  failure : ∀ i, b.firstFailure = some i → Partition.FailsAt answer partitions i

variable {b : Board σ}

theorem map_partition_initial (partitions : List Partition) (state : σ) (cancelled : Bool) :
    (initial partitions state cancelled).tasks.map Task.partition = partitions := by
  simp only [initial, List.map_map]
  exact List.map_id partitions

theorem sound_initial (partitions : List Partition) (state : σ) (cancelled : Bool) :
    (initial partitions state cancelled).Sound answer partitions cancelled where
  partitions_eq := map_partition_initial partitions state cancelled
  cancelled_eq := rfl
  task i t ht := by
    simp only [initial, List.getElem?_map, Option.map_eq_some_iff] at ht
    obtain ⟨p, -, rfl⟩ := ht
    trivial
  failure i hi := nomatch hi

theorem getElem?_setStage (b : Board σ) (i j : Nat) (stage : Stage) :
    (b.setStage i stage).tasks[j]? =
      if i = j then b.tasks[j]?.map fun t => { t with stage } else b.tasks[j]? := by
  simp only [setStage, List.getElem?_modify]
  split <;> simp

/-- Setting a stage leaves the partitions of the tasks as they are. -/
theorem map_partition_setStage (b : Board σ) (i : Nat) (stage : Stage) :
    (b.setStage i stage).tasks.map Task.partition = b.tasks.map Task.partition := by
  refine List.ext_getElem? fun j => ?_
  rw [List.getElem?_map, List.getElem?_map, getElem?_setStage]
  split
  · cases b.tasks[j]? <;> rfl
  · rfl

namespace Sound

theorem failsAt (h : b.Sound answer partitions cancelled) {i : Nat} {t : Task}
    (ht : b.tasks[i]? = some t) {e : QueryError} (he : answer t.statement = .error e) :
    Partition.FailsAt answer partitions i := by
  refine ⟨t.partition, e, ?_, he⟩
  rw [← h.partitions_eq, List.getElem?_map, ht]
  rfl

theorem setStage (h : b.Sound answer partitions cancelled) {i : Nat} {t : Task}
    (ht : b.tasks[i]? = some t) {stage : Stage}
    (hstage : Task.Sound answer partitions cancelled i { t with stage }) :
    (b.setStage i stage).Sound answer partitions cancelled where
  partitions_eq := (map_partition_setStage b i stage).trans h.partitions_eq
  cancelled_eq := h.cancelled_eq
  task j t' ht' := by
    rw [getElem?_setStage] at ht'
    split at ht'
    · subst j
      rw [ht] at ht'
      exact Option.some.inj ht' ▸ hstage
    · exact h.task j t' ht'
  failure := h.failure

theorem noteFailure (h : b.Sound answer partitions cancelled) {i : Nat}
    (hi : Partition.FailsAt answer partitions i) :
    (b.noteFailure i).Sound answer partitions cancelled where
  partitions_eq := h.partitions_eq
  cancelled_eq := h.cancelled_eq
  task := h.task
  failure j hj := by
    have hmin : j = (b.firstFailure.getD i).min i := (Option.some.inj hj).symm
    cases hb : b.firstFailure with
    | none =>
      rw [hb] at hmin
      rw [hmin, show (none.getD i).min i = i from Nat.min_self i]
      exact hi
    | some k =>
      rw [hb] at hmin
      rcases Nat.le_total k i with hle | hle
      · rw [hmin, show ((some k).getD i).min i = k from Nat.min_eq_left hle]
        exact h.failure k hb
      · rw [hmin, show ((some k).getD i).min i = i from Nat.min_eq_right hle]
        exact hi

/-- A task that stands behind a noted failure stands behind a partition that fails. -/
theorem of_isBehindFailure (h : b.Sound answer partitions cancelled) {i : Nat}
    (hi : b.isBehindFailure i = true) : ∃ j < i, Partition.FailsAt answer partitions j := by
  unfold isBehindFailure at hi
  split at hi
  · rename_i j hj
    exact ⟨j, of_decide_eq_true hi, h.failure j hj⟩
  · cases hi

/-- One step of one task keeps what the tasks know. -/
theorem step (h : b.Sound answer partitions cancelled) (hs : store.Steady answer) (i : Nat) :
    (b.step store i).Sound answer partitions cancelled := by
  unfold Board.step
  split
  · exact h
  · rename_i t ht
    have htask := h.task i t ht
    unfold Task.Sound at htask
    split <;> rename_i hstage <;> rw [hstage] at htask
    · -- The task looks at the cancellation.
      rw [h.cancelled_eq]
      cases cancelled with
      | true => exact h.setStage ht rfl
      | false => exact h.setStage ht rfl
    · -- The task looks at the noted failure.
      cases hi : b.isBehindFailure i with
      | true => exact h.setStage ht ⟨htask, h.of_isBehindFailure hi⟩
      | false => exact h.setStage ht htask
    · -- The task executes its statement.
      have hr := hs.result_eq t.statement b.state
      have hb : ({ b with
          state := (store.execute t.statement b.state).state
          cancelled := b.cancelled || (store.execute t.statement b.state).cancels } :
            Board σ).Sound answer partitions cancelled := by
        refine ⟨h.partitions_eq, ?_, h.task, h.failure⟩
        rw [hs.not_cancels, Bool.or_false, h.cancelled_eq]
      subst htask
      simp only [hr]
      split
      · rename_i table heq
        exact hb.setStage ht (Partition.outcome_eq_ok heq).symm
      · rename_i e heq
        exact hb.setStage ht ⟨rfl, heq⟩
    · -- The task notes its failure.
      obtain ⟨rfl, he⟩ := htask
      have houtcome := Partition.outcome_eq_error (p := t.partition) he
      exact (h.noteFailure (h.failsAt ht he)).setStage ht houtcome.symm
    · exact h
    · exact h

end Sound

/-- Behind every schedule the tasks know the right things. -/
theorem sound_run (hs : store.Steady answer) (schedule : Schedule)
    (h : b.Sound answer partitions cancelled) :
    (schedule.foldl (Board.step store) b).Sound answer partitions cancelled := by
  induction schedule generalizing b with
  | nil => exact h
  | cons i schedule ih => exact ih (h.step hs i)

end Board

/-! ## Schedules that complete -/

/-- The task takes no further steps. -/
def Stage.Ended : Stage → Prop
  | finished _ | skipped => True
  | _ => False

/-- Under the schedule every task ends. -/
def Schedule.Completes (schedule : Schedule) (store : Store σ) (partitions : List Partition)
    (state : σ) (cancelled : Bool) : Prop :=
  ∀ t ∈ (schedule.foldl (Board.step store) (.initial partitions state cancelled)).tasks,
    t.stage.Ended

/-- The number of turns after which a task can be at this stage; a task that has ended may have
taken fewer. -/
def Stage.turns : Stage → Nat
  | waiting => 0
  | admitted => 1
  | cleared => 2
  | failing _ => 3
  | finished _ | skipped => 4

theorem Stage.ended_of_turns {stage : Stage} (h : 4 ≤ stage.turns) : stage.Ended := by
  cases stage with
  | finished _ | skipped => trivial
  | waiting | admitted | cleared | failing _ => simp [turns] at h

namespace Board

theorem setStage_turns {b : Board σ} {i j : Nat} {t t' : Task} {stage : Stage}
    (ht : b.tasks[i]? = some t) (hturns : min 4 (t.stage.turns + 1) ≤ stage.turns)
    (ht' : (b.setStage i stage).tasks[j]? = some t') :
    ∃ t₀, b.tasks[j]? = some t₀ ∧
      min 4 (t₀.stage.turns + if i = j then 1 else 0) ≤ t'.stage.turns := by
  rw [getElem?_setStage] at ht'
  split at ht'
  · subst j
    rw [ht] at ht'
    obtain rfl := Option.some.inj ht'
    exact ⟨t, ht, by simpa using hturns⟩
  · rename_i hne
    exact ⟨t', ht', by simp [hne]⟩

/-- A turn brings the task that takes it forward and no task back. -/
theorem step_turns (b : Board σ) (i j : Nat) {t' : Task}
    (ht' : (b.step store i).tasks[j]? = some t') :
    ∃ t, b.tasks[j]? = some t ∧
      min 4 (t.stage.turns + if i = j then 1 else 0) ≤ t'.stage.turns := by
  unfold Board.step at ht'
  split at ht'
  · rename_i hnone
    refine ⟨t', ht', ?_⟩
    have hne : i ≠ j := by
      rintro rfl
      rw [hnone] at ht'
      cases ht'
    simp [hne]
  · rename_i t ht
    split at ht' <;> rename_i hstage
    · split at ht' <;> exact setStage_turns ht (by simp [hstage, Stage.turns]) ht'
    · refine setStage_turns ht ?_ ht'
      split <;> simp [hstage, Stage.turns]
    · simp only at ht'
      split at ht' <;> refine setStage_turns (b := { b with .. }) ht ?_ ht' <;>
        simp [hstage, Stage.turns]
    · exact setStage_turns (b := b.noteFailure i) ht (by simp [hstage, Stage.turns]) ht'
    all_goals
      refine ⟨t', ht', ?_⟩
      by_cases hij : i = j
      · subst j
        obtain rfl := Option.some.inj (ht.symm.trans ht')
        simp [hstage, Stage.turns]
      · simp [hij]

theorem run_turns (schedule : Schedule) (b : Board σ) (j : Nat) {t' : Task}
    (ht' : (schedule.foldl (Board.step store) b).tasks[j]? = some t') :
    ∃ t, b.tasks[j]? = some t ∧
      min 4 (t.stage.turns + schedule.count j) ≤ t'.stage.turns := by
  induction schedule generalizing b with
  | nil => exact ⟨t', ht', Nat.min_le_right _ _⟩
  | cons i schedule ih =>
    obtain ⟨t₁, ht₁, hrun⟩ := ih (b.step store i) ht'
    obtain ⟨t, ht, hstep⟩ := step_turns b i j ht₁
    refine ⟨t, ht, ?_⟩
    have hcount : (i :: schedule).count j = schedule.count j + if i = j then 1 else 0 := by
      simp [List.count_cons]
    omega

end Board

namespace Schedule

/-- Every task ends when each one has four turns, in whatever order. -/
theorem completes_of_turns {schedule : Schedule} {state : σ}
    (h : ∀ i < partitions.length, 4 ≤ schedule.count i) :
    schedule.Completes store partitions state cancelled := by
  intro t ht
  obtain ⟨i, hi⟩ := List.mem_iff_getElem?.1 ht
  obtain ⟨t₀, ht₀, hturns⟩ := Board.run_turns schedule _ i hi
  have hlt : i < partitions.length := by
    obtain ⟨hlt, -⟩ := List.getElem?_eq_some_iff.1 ht₀
    simpa [Board.initial] using hlt
  have hcount := h i hlt
  exact Stage.ended_of_turns (by omega)

theorem completes_inTurn {state : σ} :
    (inTurn partitions.length).Completes store partitions state cancelled := by
  refine completes_of_turns fun i hi => ?_
  have hmem : i ∈ List.range partitions.length := List.mem_range.2 hi
  obtain ⟨before, after, heq⟩ := List.append_of_mem hmem
  rw [inTurn, heq]
  simp only [List.flatMap_append, List.flatMap_cons, List.count_append, List.count_replicate_self]
  omega

end Schedule

/-! ## Agreement -/

namespace Board

/-- When every task has ended and no partition in front fails, the tasks give what their partitions
lead to. -/
theorem collect_behind {tasks : List Task} {before : List Partition}
    (hbefore : ∀ b ∈ before, ∃ t, answer b.2 = .ok t)
    (htasks : ∀ (i : Nat) (t : Task), tasks[i]? = some t →
      t.Sound answer (before ++ tasks.map Task.partition) cancelled (before.length + i))
    (hended : ∀ t ∈ tasks, t.stage.Ended) :
    collect tasks = Partition.result answer cancelled (tasks.map Task.partition) := by
  induction tasks generalizing before with
  | nil => rfl
  | cons t tasks ih =>
    have htask := htasks 0 t rfl
    have hend := hended t List.mem_cons_self
    unfold Task.Sound at htask
    cases hstage : t.stage with
    | waiting | admitted | cleared | failing _ =>
      rw [hstage] at hend
      exact hend.elim
    | skipped =>
      -- A partition in front would fail.
      rw [hstage] at htask
      obtain ⟨-, j, hj, p, e, hp, he⟩ := htask
      rw [Nat.add_zero] at hj
      rw [List.getElem?_append_left hj] at hp
      obtain ⟨table, ht⟩ := hbefore p (List.mem_of_getElem? hp)
      cases ht.symm.trans he
    | finished result =>
      rw [hstage] at htask
      cases hresult : t.partition.outcome answer cancelled with
      | error e =>
        have hcollect : collect (t :: tasks) = .error e := by
          simp only [collect, hstage, htask, hresult]
        rw [hcollect, List.map_cons, Partition.result_cons_of_error hresult]
      | ok table =>
        have hcollect : collect (t :: tasks) = (collect tasks).map (table :: ·) := by
          simp only [collect, hstage, htask, hresult]
        have hok : ∃ t', answer t.partition.2 = .ok t' := by
          unfold Partition.outcome at hresult
          split at hresult
          · cases hresult
          · exact ⟨table, mapError_eq_ok.1 hresult⟩
        rw [hcollect, List.map_cons, Partition.result_cons_of_ok hresult]
        have hbefore' := List.forall_mem_append.2 ⟨hbefore, List.forall_mem_singleton.2 hok⟩
        rw [ih hbefore']
        · intro i t' ht'
          have h := htasks (i + 1) t' ht'
          rwa [List.map_cons, ← List.singleton_append, ← List.append_assoc,
            show before.length + (i + 1) = (before ++ [t.partition]).length + i by
              rw [List.length_append, List.length_singleton]; omega] at h
        · exact fun t' ht' => hended t' (List.mem_cons_of_mem _ ht')

theorem Sound.collect_eq {b : Board σ} (h : b.Sound answer partitions cancelled)
    (hended : ∀ t ∈ b.tasks, t.stage.Ended) :
    collect b.tasks = Partition.result answer cancelled partitions := by
  have hnil : ∀ p ∈ ([] : List Partition), ∃ t, answer p.2 = .ok t := nofun
  have htasks : ∀ (i : Nat) (t : Task), b.tasks[i]? = some t → t.Sound answer
      ([] ++ b.tasks.map Task.partition) cancelled (([] : List Partition).length + i) := by
    intro i t ht
    rw [h.partitions_eq, List.nil_append, List.length_nil, Nat.zero_add]
    exact h.task i t ht
  rw [collect_behind hnil htasks hended, h.partitions_eq]

end Board

namespace Store

theorem result_runParallel (hs : store.Steady answer) {schedule : Schedule} {state : σ}
    (hc : schedule.Completes store partitions state cancelled) :
    (store.runParallel schedule partitions state cancelled).result =
      Partition.result answer cancelled partitions := by
  have hsound := Board.sound_run hs schedule (Board.sound_initial partitions state cancelled)
  exact hsound.collect_eq hc

/-- Parallel execution gives what sequential execution gives, in whatever order the tasks take their
steps: the tables of all partitions, the failure of the first partition that fails, or the
cancellation of the first partition. -/
theorem runParallel_eq_runSequential (hs : store.Steady answer) {schedule : Schedule} {state : σ}
    (hc : schedule.Completes store partitions state cancelled) :
    (store.runParallel schedule partitions state cancelled).result =
        (store.runSequential partitions state cancelled).result ∧
      Partition.Leads answer cancelled partitions
        (store.runParallel schedule partitions state cancelled).result := by
  rw [result_runParallel hs hc, result_runSequential hs]
  exact ⟨rfl, Partition.leads_result⟩

end Store

/-- A store that counts the statements it has executed and fails on those without columns. -/
def Store.counting : Store Nat where
  names _ := .ok []
  execute statement count :=
    { result := if statement.columns = [] then .error (.store "no columns")
        else .ok (.ofColumns statement.columns)
      state := count + 1
      cancels := false }

/-- The second and the third of four partitions fail. -/
def Partition.failing : List Partition :=
  let statement columns : CompiledStatement := ⟨⟨[]⟩, [], columns, .read⟩
  [("d1", statement ["a"]), ("d2", statement []), ("d3", statement []), ("d4", statement ["a"])]

/-- The third partition fails first, so that the fourth is skipped; the first starts early and
finishes late. -/
theorem Store.runParallel_eq_runSequential_failing :
    (counting.runParallel [2, 0, 2, 2, 2, 3, 3, 1, 1, 1, 1, 0, 0, 0, 3, 3] Partition.failing 0
      false).result = .error (.partition "d2" (.store "no columns")) := by
  have hs : counting.Steady fun statement => if statement.columns = [] then
      .error (.store "no columns") else .ok (.ofColumns statement.columns) :=
    ⟨fun _ _ => rfl, fun _ _ => rfl⟩
  have hc : Schedule.Completes [2, 0, 2, 2, 2, 3, 3, 1, 1, 1, 1, 0, 0, 0, 3, 3] counting
      Partition.failing 0 false := Schedule.completes_of_turns (by decide)
  rw [(runParallel_eq_runSequential hs hc).1]
  rfl

/-- Whether partitions are executed in parallel or one after another makes no difference to their
tables. -/
theorem PartitionedQuery.result_run (hs : store.Steady answer) (c : Corpus)
    (partitions : List Partition) (state : σ) (cancelled : Bool) :
    (run c store partitions state cancelled).result =
      Partition.result answer cancelled partitions := by
  unfold run
  split
  · exact Store.result_runParallel hs Schedule.completes_inTurn
  · exact Store.result_runSequential hs partitions state cancelled

end AnnotationQuery
