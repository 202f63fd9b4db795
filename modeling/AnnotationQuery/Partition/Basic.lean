import AnnotationQuery.Partition.Parallel

/-!
# Partitioned queries

A query can be executed once for each speaker or discourse of the corpus, so that the store never
has to match more than one of them at a time. Each partition is the query with one more condition;
the tables are merged in listing order.

* `PartitionedQuery.partition`, `PartitionedQuery.expand`: the queries of the partitions.
* `PartitionedQuery.execute`: executes all partitions. Everything is compiled before anything is
  executed.
-/

namespace AnnotationQuery

/-- A query to be executed once for each speaker or discourse (`PartitionedQueryIntent`). -/
structure PartitionedQuery where
  base : Query
  key : EntityKind
deriving Repr

namespace PartitionedQuery

/-- The query for one speaker or discourse (`partition`). -/
def partition (p : PartitionedQuery) (value : String) : Query :=
  p.base.apply (.filter (p.base.entityFilter p.key value))

/-- The queries for listed speakers or discourses. -/
def partitions (p : PartitionedQuery) (values : List String) : List (String × Query) :=
  values.map fun value => (value, p.partition value)

/-- The queries for all speakers or discourses of a store, in listing order (`expand`). -/
def expand (p : PartitionedQuery) (store : Store σ) : Except QueryError (List (String × Query)) :=
  (store.names p.key).map p.partitions

/-- Compiles the partitions, and finds the columns of the result for the case that no partition
returns rows. -/
def compile (p : PartitionedQuery) (c : Corpus) (queries : List (String × Query)) :
    Except QueryError (List Partition × List String) := do
  let partitions ← queries.mapM fun (value, q) => return (value, ← c.compile q)
  match partitions with
  | [] => return ([], (← c.compile p.base).columns)
  | (value, statement) :: rest => return ((value, statement) :: rest, statement.columns)

/-- Executes compiled partitions one after another, or as parallel tasks if the configuration says
so. -/
def run (c : Corpus) (store : Store σ) (partitions : List Partition) (state : σ)
    (cancelled : Bool) : Outcome σ (List Table) :=
  if c.config.parallelPartitions then
    store.runParallel (.inTurn partitions.length) partitions state cancelled
  else store.runSequential partitions state cancelled

/-- Executes all partitions and merges their tables (`execute`). -/
def execute (p : PartitionedQuery) (c : Corpus) (store : Store σ) (state : σ) (cancelled : Bool) :
    Outcome σ Table :=
  match (p.expand store).bind (p.compile c) with
  | .error e => ⟨.error e, state, cancelled⟩
  | .ok (partitions, fallback) =>
    (run c store partitions state cancelled).map (Table.merge · fallback)

end PartitionedQuery

end AnnotationQuery
