import AnnotationQuery.Proofs.PartitionStatement

/-!
# Sequential execution

Partitions that are executed one after another are executed in listing order, up to the first one
that fails or in front of which the execution is found cancelled. The calls of a store are made
visible by a store that records them beside its own state. Nothing is executed before everything has
been compiled, and the base query decides on that.

Results:
* `Store.forget_runSequential`: recording changes nothing else.
* `Store.ends_runSequential`: which calls a run makes, and how it ends behind them.
* `Store.runSequential_of_executes`: a run in which every call succeeds gives all tables.
* `PartitionedQuery.compile_partitions_ok`, `PartitionedQuery.compile_partitions_error`: the
  partitions compile if the base query does.
* `PartitionedQuery.execute_sequential`: these together.
-/

namespace AnnotationQuery

variable {σ τ α β : Type}

/-! ## Recording calls -/

namespace Outcome

/-- The outcome without what was recorded. -/
def forget (o : Outcome (σ × τ) α) : Outcome σ α :=
  ⟨o.result, o.state.1, o.cancelled⟩

theorem result_map (f : α → β) (o : Outcome σ α) : (o.map f).result = o.result.map f :=
  rfl

theorem forget_map (f : α → β) (o : Outcome (σ × τ) α) : (o.map f).forget = o.forget.map f :=
  rfl

end Outcome

namespace Store

/-- The store with the statements that it has executed. -/
def recording (store : Store σ) : Store (σ × List CompiledStatement) where
  names := store.names
  execute statement state :=
    let answer := store.execute statement state.1
    ⟨answer.result, (answer.state, state.2 ++ [statement]), answer.cancels⟩

variable {store : Store σ} {p : Partition} {ps : List Partition} {state : σ}

theorem runSequential_cons_of_ok {table : Table}
    (h : (store.execute p.2 state).result = .ok table) :
    store.runSequential (p :: ps) state false =
      (store.runSequential ps (store.execute p.2 state).state
        (store.execute p.2 state).cancels).map (table :: ·) := by
  simp only [runSequential, Bool.false_eq_true, if_false, h]

theorem runSequential_cons_of_error {e : QueryError}
    (h : (store.execute p.2 state).result = .error e) :
    store.runSequential (p :: ps) state false =
      ⟨.error (.partition p.1 e), (store.execute p.2 state).state,
        (store.execute p.2 state).cancels⟩ := by
  simp only [runSequential, Bool.false_eq_true, if_false, h]

/-- Recording changes nothing else. -/
theorem forget_runSequential (store : Store σ) (partitions : List Partition)
    (state : σ) (log : List CompiledStatement) (cancelled : Bool) :
    (store.recording.runSequential partitions (state, log) cancelled).forget =
      store.runSequential partitions state cancelled := by
  induction partitions generalizing state log cancelled with
  | nil => rfl
  | cons p ps ih =>
    cases cancelled with
    | true => rfl
    | false =>
      cases h : (store.execute p.2 state).result with
      | error e =>
        -- The recording store answers like the store that it records.
        have hrecorded : (store.recording.execute p.2 (state, log)).result = .error e := h
        rw [runSequential_cons_of_error h, runSequential_cons_of_error hrecorded]
        rfl
      | ok table =>
        have hrecorded : (store.recording.execute p.2 (state, log)).result = .ok table := h
        rw [runSequential_cons_of_ok h, runSequential_cons_of_ok hrecorded, Outcome.forget_map]
        exact congrArg _ (ih _ _ _)

/-! ## How a run ends -/

/-- The statements of partitions are executed in order, each with the cancellation not set before
it, and give tables. -/
inductive Executes (store : Store σ) :
    σ → Bool → List Partition → List Table → σ → Bool → Prop
  | nil {state : σ} {cancelled : Bool} : Executes store state cancelled [] [] state cancelled
  | cons {p : Partition} {ps : List Partition} {state state' : σ} {cancelled' : Bool}
    {table : Table} {tables : List Table} :
    (store.execute p.2 state).result = .ok table →
    Executes store (store.execute p.2 state).state (store.execute p.2 state).cancels ps tables
      state' cancelled' →
    Executes store state false (p :: ps) (table :: tables) state' cancelled'

/-- A run over partitions makes calls and ends with an outcome: all partitions are executed; the
last call fails; or the execution is found cancelled before the next call. -/
inductive Ends (store : Store σ) (state : σ) (cancelled : Bool) :
    List Partition → List Partition → Outcome σ (List Table) → Prop
  | tables {calls : List Partition} {tables : List Table} {state' : σ} {cancelled' : Bool} :
    store.Executes state cancelled calls tables state' cancelled' →
    Ends store state cancelled calls calls ⟨.ok tables, state', cancelled'⟩
  | failure {before after : List Partition} {p : Partition} {tables : List Table} {state' : σ}
    {e : QueryError} :
    store.Executes state cancelled before tables state' false →
    (store.execute p.2 state').result = .error e →
    Ends store state cancelled (before ++ p :: after) (before ++ [p])
      ⟨.error (.partition p.1 e), (store.execute p.2 state').state,
        (store.execute p.2 state').cancels⟩
  | cancelled {calls after : List Partition} {p : Partition} {tables : List Table} {state' : σ} :
    store.Executes state cancelled calls tables state' true →
    Ends store state cancelled (calls ++ p :: after) calls ⟨.error (.cancelled p.1), state', true⟩

section Ends

variable {calls : List Partition} {cancelled : Bool} {o : Outcome σ (List Table)}

/-- A call that succeeds goes in front of the others. -/
theorem Ends.cons {table : Table} (ht : (store.execute p.2 state).result = .ok table)
    (h : store.Ends (store.execute p.2 state).state (store.execute p.2 state).cancels ps calls o) :
    store.Ends state false (p :: ps) (p :: calls) (o.map (table :: ·)) := by
  cases h with
  | tables hall => exact .tables (.cons ht hall)
  | failure hbefore he =>
    rw [← List.cons_append, ← List.cons_append]
    exact .failure (.cons ht hbefore) he
  | cancelled hbefore =>
    rw [← List.cons_append]
    exact .cancelled (.cons ht hbefore)

theorem Ends.isPrefix (h : store.Ends state cancelled ps calls o) : calls <+: ps := by
  cases h with
  | tables _ => exact List.prefix_refl _
  | @failure before after p _ _ _ _ _ => exact ⟨after, List.append_assoc before [p] after⟩
  | @cancelled _ after p _ _ _ => exact ⟨p :: after, rfl⟩

theorem Ends.executes {tables : List Table} (h : store.Ends state cancelled ps calls o)
    (ho : o.result = .ok tables) :
    calls = ps ∧ store.Executes state cancelled ps tables o.state o.cancelled := by
  cases h with
  | tables hall =>
    obtain rfl := Except.ok.inj ho
    exact ⟨rfl, hall⟩
  | failure _ _ => cases ho
  | cancelled _ => cases ho

/-- The error of a run names a partition, so it did not arise in compiling. -/
theorem Ends.isCompileError {e : QueryError} (h : store.Ends state cancelled ps calls o)
    (ho : o.result = .error e) : e.isCompileError = false := by
  cases h with
  | tables _ => cases ho
  | failure _ _ =>
    obtain rfl := Except.error.inj ho
    rfl
  | cancelled _ =>
    obtain rfl := Except.error.inj ho
    rfl

end Ends

/-- The recorded calls, and how the run ends behind them. -/
theorem ends_runSequential (store : Store σ) (partitions : List Partition) (state : σ)
    (log : List CompiledStatement) (cancelled : Bool) :
    ∃ calls, (store.recording.runSequential partitions (state, log) cancelled).state.2 =
        log ++ calls.map (·.2) ∧
      store.Ends state cancelled partitions calls
        (store.runSequential partitions state cancelled) := by
  -- The first call leaves another state, a longer log and maybe a cancellation to the others.
  induction partitions generalizing state log cancelled with
  | nil => exact ⟨[], (List.append_nil log).symm, .tables .nil⟩
  | cons p ps ih =>
    cases cancelled with
    | true =>
      refine ⟨[], (List.append_nil log).symm, ?_⟩
      rw [← List.nil_append (p :: ps)]
      exact .cancelled .nil
    | false =>
      cases h : (store.execute p.2 state).result with
      | error e =>
        have hrecorded : (store.recording.execute p.2 (state, log)).result = .error e := h
        refine ⟨[p], ?_, ?_⟩
        · rw [runSequential_cons_of_error hrecorded]
          rfl
        · rw [runSequential_cons_of_error h, ← List.nil_append (p :: ps), ← List.nil_append [p]]
          exact .failure .nil h
      | ok table =>
        have hrecorded : (store.recording.execute p.2 (state, log)).result = .ok table := h
        obtain ⟨calls, hlog, hends⟩ := ih (store.execute p.2 state).state (log ++ [p.2])
          (store.execute p.2 state).cancels
        refine ⟨p :: calls, ?_, ?_⟩
        · rw [runSequential_cons_of_ok hrecorded, List.map_cons, ← List.singleton_append,
            ← List.append_assoc]
          exact hlog
        · rw [runSequential_cons_of_ok h]
          exact hends.cons h

/-- A run in which every call succeeds gives all tables. -/
theorem runSequential_of_executes {partitions : List Partition} {cancelled cancelled' : Bool}
    {tables : List Table} {state' : σ}
    (h : store.Executes state cancelled partitions tables state' cancelled') :
    store.runSequential partitions state cancelled = ⟨.ok tables, state', cancelled'⟩ := by
  induction h with
  | nil => rfl
  | cons ht _ ih =>
    rw [runSequential_cons_of_ok ht, ih]
    rfl

end Store

/-! ## Compiling before executing -/

namespace PartitionedQuery

variable {c : Corpus} {p : PartitionedQuery}

/-- A listed value with the partition that its query is compiled to. -/
def Compiles (p : PartitionedQuery) (c : Corpus) (value : String) (partition : Partition) : Prop :=
  partition.1 = value ∧ c.compile (p.partition value) = .ok partition.2

/-- Without partitions, the base query is compiled in their place. -/
theorem compile_partitions_error {e : QueryError} (h : c.compile p.base = .error e)
    (values : List String) : p.compile c (p.partitions values) = .error e := by
  cases values with
  | nil =>
    simp only [partitions, compile, List.map_nil, List.mapM_nil, h]
    rfl
  | cons value values =>
    have hvalue : c.compile (p.partition value) = .error e :=
      (compile_partition_error .arrival .arrival c p value e).2 h
    simp only [partitions, compile, List.map_cons, List.mapM_cons, hvalue]
    rfl

/-- The partitions compile, with the columns of the base query. -/
theorem compile_partitions_ok {s : CompiledStatement} (h : c.compile p.base = .ok s)
    (values : List String) : ∃ partitions, List.Forall₂ (p.Compiles c) values partitions ∧
      p.compile c (p.partitions values) = .ok (partitions, s.columns) := by
  choose s' hs' hcolumns _ using narrowed_partition h .arrival
  refine ⟨values.map fun value => (value, s' value), ?_, ?_⟩
  · rw [List.forall₂_map_right_iff]
    exact List.forall₂_same.2 fun value _ => ⟨rfl, hs' value⟩
  · have hall : ((p.partitions values).mapM fun q => (c.compile q.2).map (q.1, ·)) =
        Except.ok (values.map fun value => (value, s' value)) := by
      rw [mapM_eq_ok, partitions, List.forall₂_map_left_iff, List.forall₂_map_right_iff]
      exact List.forall₂_same.2 fun value _ => congrArg (Except.map (value, ·)) (hs' value)
    refine bind_eq_ok.2 ⟨values.map fun value => (value, s' value), ?_, ?_⟩
    · rw [← hall]
      rfl
    · cases values with
      | nil =>
        simp only [List.map_nil, h]
        rfl
      | cons value _ => exact congrArg (fun columns => Except.ok (_, columns)) (hcolumns value)

/-! ## Executing a partitioned query -/

variable {σ : Type} {store : Store σ} {state : σ} {cancelled : Bool}

theorem bind_expand {values : List String} {compiled : List Partition × List String}
    (hvalues : store.names p.key = .ok values)
    (h : p.compile c (p.partitions values) = .ok compiled) :
    (p.expand store).bind (p.compile c) = .ok compiled := by
  rw [expand, hvalues]
  exact h

theorem execute_of_error {e : QueryError} (h : (p.expand store).bind (p.compile c) = .error e) :
    p.execute c store state cancelled = ⟨.error e, state, cancelled⟩ := by
  rw [execute, h]

theorem execute_of_ok {partitions : List Partition} {columns : List String}
    (hc : c.config.parallelPartitions = false)
    (h : (p.expand store).bind (p.compile c) = .ok (partitions, columns)) :
    p.execute c store state cancelled =
      (store.runSequential partitions state cancelled).map (Table.merge · columns) := by
  rw [execute, h]
  simp only [run, hc, Bool.false_eq_true, if_false]

theorem execute_of_listing_error {e : QueryError} (h : store.names p.key = .error e) :
    p.execute c store state cancelled = ⟨.error e, state, cancelled⟩ := by
  refine execute_of_error ?_
  rw [expand, h]
  rfl

theorem execute_of_compile_error {values : List String} {e : QueryError}
    (hvalues : store.names p.key = .ok values) (h : c.compile p.base = .error e) :
    p.execute c store state cancelled = ⟨.error e, state, cancelled⟩ := by
  refine execute_of_error ?_
  rw [expand, hvalues]
  exact compile_partitions_error h values

/-- Recording changes nothing else. -/
theorem forget_execute (hc : c.config.parallelPartitions = false) (log : List CompiledStatement) :
    (p.execute c store.recording (state, log) cancelled).forget =
      p.execute c store state cancelled := by
  cases h : (p.expand store).bind (p.compile c) with
  | error e =>
    have hrecorded : (p.expand store.recording).bind (p.compile c) = .error e := h
    rw [execute_of_error h, execute_of_error hrecorded]
    rfl
  | ok compiled =>
    have hrecorded : (p.expand store.recording).bind (p.compile c) = .ok compiled := h
    rw [execute_of_ok hc h, execute_of_ok hc hrecorded, Outcome.forget_map,
      Store.forget_runSequential]

/-- A query whose base compiles makes the calls of a run over its partitions, and ends as the run
ends behind them. -/
theorem ends_execute (hc : c.config.parallelPartitions = false) {values : List String}
    {s : CompiledStatement} (hvalues : store.names p.key = .ok values)
    (hs : c.compile p.base = .ok s) (state : σ) (cancelled : Bool) :
    ∃ partitions calls run, List.Forall₂ (p.Compiles c) values partitions ∧
      (p.execute c store.recording (state, []) cancelled).state.2 = calls.map (·.2) ∧
      store.Ends state cancelled partitions calls run ∧
      p.execute c store state cancelled = run.map (Table.merge · s.columns) ∧
      ((∃ tables, run.result = .ok tables) ↔ calls = partitions ∧ ∃ tables state' cancelled',
        store.Executes state cancelled partitions tables state' cancelled') := by
  obtain ⟨partitions, hcompiles, hcompiled⟩ := compile_partitions_ok hs values
  have hok : (p.expand store).bind (p.compile c) = .ok (partitions, s.columns) :=
    bind_expand hvalues hcompiled
  have hrecorded : (p.expand store.recording).bind (p.compile c) = .ok (partitions, s.columns) :=
    hok
  obtain ⟨calls, hlog, hends⟩ := store.ends_runSequential partitions state [] cancelled
  refine ⟨partitions, calls, _, hcompiles, ?_, hends, execute_of_ok hc hok, ?_, ?_⟩
  · rw [execute_of_ok hc hrecorded]
    exact hlog
  · rintro ⟨tables, htables⟩
    obtain ⟨hcalls, hall⟩ := hends.executes htables
    exact ⟨hcalls, tables, _, _, hall⟩
  · rintro ⟨-, tables, state', cancelled', hall⟩
    rw [Store.runSequential_of_executes hall]
    exact ⟨tables, rfl⟩

/-- An error that arises in compiling, or in listing, leaves the store without a call. -/
theorem calls_of_isCompileError (hc : c.config.parallelPartitions = false) {e : QueryError}
    (he : (p.execute c store state cancelled).result = .error e) (hkind : e.isCompileError = true) :
    (p.execute c store.recording (state, []) cancelled).state.2 = [] := by
  cases hvalues : store.names p.key with
  | error listingError =>
    have hlisting : store.recording.names p.key = .error listingError := hvalues
    rw [execute_of_listing_error hlisting]
  | ok values =>
    cases hs : c.compile p.base with
    | error compileError =>
      have hlisting : store.recording.names p.key = .ok values := hvalues
      rw [execute_of_compile_error hlisting hs]
    | ok s =>
      obtain ⟨partitions, calls, run, -, -, hends, hrun, -⟩ :=
        ends_execute hc hvalues hs state cancelled
      rw [hrun, Outcome.result_map, map_eq_error] at he
      rw [hends.isCompileError he] at hkind
      cases hkind

end PartitionedQuery

/-- A store of three speakers that counts the statements it has executed. Someone cancels the
execution during the second. -/
def Store.interrupted : Store Nat where
  names _ := .ok ["a", "b", "c"]
  execute statement count := ⟨.ok (.ofColumns statement.columns), count + 1, count == 1⟩

end AnnotationQuery
