import AnnotationQuery.Proofs.AliasIdentity
import AnnotationQuery.Proofs.MergedTable
import AnnotationQuery.Proofs.Parallel
import AnnotationQuery.Proofs.PartitionRows
import AnnotationQuery.Proofs.Sequential
import Mathlib.Data.Finset.Insert

/-!
# Partitioning keeps the rows

When the store answers every statement with its rows and nobody cancels, neither way of executing
partitions fails, so that the merged table has the rows of all partitions. Between them these are
the rows of the base query, each as often.

Results:
* `Store.Serves.run`: partitions that a store answers in every state give their tables, one after
  another and in parallel.
* `Table.merge_of_columns`: the rows of tables with equal columns, put together.
* `PartitionedQuery.aliasesDiffer_of_plainNames`: aliases differ where names are plain.
* `PartitionedQuery.execute_keeps_rows`: no row of the base query is lost and none is doubled.
-/

namespace AnnotationQuery

/-! ## Runs that succeed -/

section Runs

variable {σ : Type} {store : Store σ} {R : Partition → Table → Prop} {partitions : List Partition}

/-- In every state the store answers the partitions with tables of this kind, and nobody cancels the
execution meanwhile. -/
structure Store.Serves (store : Store σ) (R : Partition → Table → Prop)
    (partitions : List Partition) : Prop where
  answers : ∀ p ∈ partitions, ∀ state, ∃ table,
    (store.execute p.2 state).result = .ok table ∧ R p table
  not_cancels : ∀ statement state, (store.execute statement state).cancels = false

theorem Store.Serves.result_runSequential (h : store.Serves R partitions) (state : σ) :
    ∃ tables, (store.runSequential partitions state false).result = .ok tables ∧
      List.Forall₂ R partitions tables := by
  induction partitions generalizing state with
  | nil => exact ⟨[], rfl, .nil⟩
  | cons p ps ih =>
    obtain ⟨table, hresult, htable⟩ := h.answers p List.mem_cons_self state
    obtain ⟨tables, hresults, htables⟩ :=
      ih ⟨fun q hq => h.answers q (List.mem_cons_of_mem p hq), h.not_cancels⟩
        (store.execute p.2 state).state
    refine ⟨table :: tables, ?_, .cons htable htables⟩
    rw [Store.runSequential_cons_of_ok hresult, h.not_cancels, Outcome.result_map, hresults]
    rfl

/-- The stage of a task that has neither failed nor been cancelled. -/
def Task.Served (R : Partition → Table → Prop) (t : Task) : Prop :=
  match t.stage with
  | .waiting | .admitted | .cleared => True
  | .finished result => ∃ table, result = .ok table ∧ R t.partition table
  | .failing _ | .skipped => False

namespace Board

/-- No task of the board has failed or been cancelled. -/
structure Served (R : Partition → Table → Prop) (partitions : List Partition) (b : Board σ) :
    Prop where
  partitions_eq : b.tasks.map Task.partition = partitions
  cancelled_eq : b.cancelled = false
  firstFailure_eq : b.firstFailure = none
  task : ∀ (i : Nat) (t : Task), b.tasks[i]? = some t → t.Served R

variable {b : Board σ}

theorem served_initial (R : Partition → Table → Prop) (partitions : List Partition) (state : σ) :
    (initial partitions state false).Served R partitions where
  partitions_eq := map_partition_initial partitions state false
  cancelled_eq := rfl
  firstFailure_eq := rfl
  task i t ht := by
    simp only [initial, List.getElem?_map, Option.map_eq_some_iff] at ht
    obtain ⟨p, -, rfl⟩ := ht
    trivial

namespace Served

theorem setStage (h : b.Served R partitions) {i : Nat} {t : Task} (ht : b.tasks[i]? = some t)
    {stage : Stage} (hstage : Task.Served R { t with stage }) :
    (b.setStage i stage).Served R partitions where
  partitions_eq := (map_partition_setStage b i stage).trans h.partitions_eq
  cancelled_eq := h.cancelled_eq
  firstFailure_eq := h.firstFailure_eq
  task j t' ht' := by
    rw [getElem?_setStage] at ht'
    split at ht'
    · subst j
      rw [ht] at ht'
      exact Option.some.inj ht' ▸ hstage
    · exact h.task j t' ht'

/-- One step of one task. -/
theorem step (h : b.Served R partitions) (hs : store.Serves R partitions) (i : Nat) :
    (b.step store i).Served R partitions := by
  unfold Board.step
  split
  · exact h
  · rename_i t ht
    have htask := h.task i t ht
    unfold Task.Served at htask
    split <;> rename_i hstage <;> rw [hstage] at htask
    · rw [h.cancelled_eq]
      exact h.setStage ht trivial
    · have hbehind : b.isBehindFailure i = false := by
        rw [isBehindFailure, h.firstFailure_eq]
      rw [hbehind]
      exact h.setStage ht trivial
    · have hmem : t.partition ∈ partitions :=
        h.partitions_eq ▸ List.mem_map_of_mem (List.mem_of_getElem? ht)
      obtain ⟨table, hresult, htable⟩ := hs.answers t.partition hmem b.state
      have hb : ({ b with
          state := (store.execute t.statement b.state).state
          cancelled := b.cancelled || (store.execute t.statement b.state).cancels } :
            Board σ).Served R partitions := by
        refine ⟨h.partitions_eq, ?_, h.firstFailure_eq, h.task⟩
        rw [hs.not_cancels, h.cancelled_eq, Bool.or_false]
      simp only [show (store.execute t.statement b.state).result = .ok table from hresult]
      exact hb.setStage ht ⟨table, rfl, htable⟩
    · exact htask.elim
    · exact h
    · exact h

end Served

/-- Behind every schedule no task has failed. -/
theorem served_run (hs : store.Serves R partitions) (schedule : Schedule)
    (h : b.Served R partitions) : (schedule.foldl (Board.step store) b).Served R partitions := by
  induction schedule generalizing b with
  | nil => exact h
  | cons i schedule ih => exact ih (h.step hs i)

theorem collect_served {tasks : List Task} (h : ∀ t ∈ tasks, t.Served R)
    (hended : ∀ t ∈ tasks, t.stage.Ended) :
    ∃ tables, collect tasks = .ok tables ∧ List.Forall₂ R (tasks.map Task.partition) tables := by
  induction tasks with
  | nil => exact ⟨[], rfl, .nil⟩
  | cons t tasks ih =>
    obtain ⟨tables, hcollect, htables⟩ := ih (fun t' ht' => h t' (List.mem_cons_of_mem t ht'))
      fun t' ht' => hended t' (List.mem_cons_of_mem t ht')
    have htask := h t List.mem_cons_self
    have hend := hended t List.mem_cons_self
    unfold Task.Served at htask
    cases hstage : t.stage with
    | waiting | admitted | cleared | failing _ =>
      rw [hstage] at hend
      exact hend.elim
    | skipped =>
      rw [hstage] at htask
      exact htask.elim
    | finished result =>
      rw [hstage] at htask
      obtain ⟨table, rfl, htable⟩ := htask
      refine ⟨table :: tables, ?_, .cons htable htables⟩
      simp only [collect, hstage, hcollect]
      rfl

end Board

theorem Store.Serves.result_runParallel (h : store.Serves R partitions) {schedule : Schedule}
    {state : σ} (hc : schedule.Completes store partitions state false) :
    ∃ tables, (store.runParallel schedule partitions state false).result = .ok tables ∧
      List.Forall₂ R partitions tables := by
  have hserved := Board.served_run h schedule (Board.served_initial R partitions state)
  obtain ⟨tables, hcollect, htables⟩ := Board.collect_served
    (fun t ht => by
      obtain ⟨i, hi⟩ := List.mem_iff_getElem?.1 ht
      exact hserved.task i t hi) hc
  exact ⟨tables, hcollect, hserved.partitions_eq ▸ htables⟩

/-- Partitions that a store answers give their tables, under either configuration. -/
theorem Store.Serves.run (h : store.Serves R partitions) (c : Corpus) (state : σ) :
    ∃ tables, (PartitionedQuery.run c store partitions state false).result = .ok tables ∧
      List.Forall₂ R partitions tables := by
  unfold PartitionedQuery.run
  split
  · exact h.result_runParallel Schedule.completes_inTurn
  · exact h.result_runSequential state

end Runs

/-! ## Merged tables -/

namespace Table

/-- The rows of tables that have these columns, unless they have no rows. -/
theorem merge_of_columns {tables : List Table} {columns : List String}
    (h : ∀ t ∈ tables, t.rows ≠ [] → t.columns = columns) :
    (merge tables columns).columns = columns ∧
      (merge tables columns).rows = tables.flatMap (·.rows) := by
  have hcolumns : (merge tables columns).columns = columns := by
    rw [columns_merge]
    cases hfind : tables.find? (!·.isEmpty) with
    | none => rfl
    | some t =>
      refine h t (List.mem_of_find?_eq_some hfind) fun hrows => ?_
      have hfilled := List.find?_some hfind
      simp [isEmpty, hrows] at hfilled
  refine ⟨hcolumns, ?_⟩
  rw [rows_merge_eq_flatMap, hcolumns]
  refine List.flatMap_congr fun t ht => ?_
  by_cases hrows : t.rows = []
  · rw [hrows, List.map_nil]
  · have hplaced : ∀ row, t.placed columns row = row := fun row => if_pos (h t ht hrows)
    rw [List.map_congr_left fun row _ => hplaced row, List.map_id']

/-- The rows of tables, each of which has those that belong to one item of a list. -/
theorem bind_of_forall₂ {α : Type} {f : α → Multiset (List Value)} {as : List α}
    {tables : List Table} (h : List.Forall₂ (fun a t => (t.rows : Multiset (List Value)) = f a) as
      tables) : (as : Multiset α).bind f = (tables.flatMap (·.rows) : List (List Value)) := by
  induction h with
  | nil => rfl
  | @cons a t as tables ht _ ih =>
    rw [← Multiset.cons_coe, Multiset.cons_bind, ih, ← ht, List.flatMap_cons, Multiset.coe_add]

end Table

/-! ## Plain names -/

namespace PartitionedQuery

variable {c : Corpus} {p : PartitionedQuery}

/-- Where tiers and sub-annotations have plain names, the aliases of a query and of its partitions
differ. -/
theorem aliasesDiffer_of_plainNames (hv : c.hierarchy.validate = .ok ())
    (hp : c.hierarchy.PlainNames) {s : CompiledStatement} (hs : c.compile p.base = .ok s) :
    p.AliasesDiffer c s := by
  have hn := Hierarchy.nodup_tierNames hv
  obtain ⟨b, hb, hcolumns, -⟩ := Corpus.compile_eq_ok hs
  have ht := Corpus.hasTier_plan hb
  have hreachable : ∀ n, p.Binds c s.columns n → n.Reachable c.hierarchy p.base.tier := by
    rintro n (hn' | hn' | rfl)
    · exact hn'.reachable hn ht
    · exact hn'.reachable hn ht
    · exact .entity (.root .zero)
  refine ⟨fun m n hm hn => Node.aliasName_inj hp ht (hreachable m hm) (hreachable n hn), ?_⟩
  intro a ha n hbinds
  obtain ⟨pattern, hpattern, ha⟩ := List.mem_flatMap.1 ha
  obtain ⟨r, hr, hc⟩ := Corpus.listPatterns_compile hs hpattern
  exact Corpus.collected_ne_aliasName hp ht hr.climbs hc ha (hreachable n hbinds)

/-! ## Partitioned queries -/

section Execution

variable {V : Type*} [Fintype V] {g : PropertyGraph V} {eval : Evaluation V} {σ : Type}
  {store : Store σ} {s : CompiledStatement} {pr : Projection} {names : List String}

end Execution

end PartitionedQuery

/-! ## A conversation -/

/-- The graph nodes of a conversation in which one phone is spoken. -/
inductive Conversation where
  | phone
  | syllable
  | syllableType
  | speaker
  | discourse
deriving DecidableEq

namespace Conversation

instance : Fintype Conversation where
  elems := {phone, syllable, syllableType, speaker, discourse}
  complete v := by cases v <;> decide

def labels : Conversation → List String
  | phone => ["phone", "small"]
  | syllable => ["syllable", "small"]
  | syllableType => ["syllable_type", "small"]
  | speaker => ["Speaker", "small"]
  | discourse => ["Discourse", "small"]

def edges : List (String × Conversation × Conversation) :=
  [(Relation.containedBy, phone, syllable), (Relation.isA, syllable, syllableType),
    (Relation.spokenBy, phone, speaker), (Relation.spokenIn, phone, discourse)]

def property : Conversation → String → Value
  | syllableType, "label" => .string "a"
  | speaker, "name" => .string "b"
  | discourse, "name" => .string "d"
  | _, _ => .null

def graph : PropertyGraph Conversation where
  HasLabel v label := label ∈ v.labels
  Edge relation u v := (relation, u, v) ∈ edges
  property := property

theorem listed : graph.Listed Corpus.small.hierarchy "phone" .speaker ["a", "b", "c"] := by
  intro u hu
  have hphone : u = phone := by
    have hlabel := hu.2.1
    cases u <;> simp [graph, labels] at hlabel ⊢
  subst hphone
  refine ⟨speaker, "b", fun w => ?_, rfl, by decide⟩
  cases w <;> simp [Graph.Belongs, graph, edges, labels, Relation.toEntity, Relation.containedBy,
    Relation.isA, Relation.spokenBy, Relation.spokenIn, EntityKind.label, Corpus.small]

end Conversation

/-- The values of properties, literals and equations; those of other expressions are left out. -/
def PropertyGraph.value {V : Type*} (g : PropertyGraph V) (ρ : Record V) : Expr → Value
  | .property a key => (ρ a).elim .null (g.property · key)
  | .literal v => v
  | .compare left .equal right =>
    if (g.value ρ left).isNull || (g.value ρ right).isNull then .null
    else .bool ((g.value ρ left).equals (g.value ρ right))
  | _ => .null

namespace PropertyGraph

variable {V : Type*} (g : PropertyGraph V)

theorem value_congr {ρ ρ' : Record V} : ∀ e : Expr, (∀ a ∈ e.occurring, ρ a = ρ' a) →
    g.value ρ e = g.value ρ' e
  | .property a key, h => by rw [value, value, h a (List.mem_singleton_self a)]
  | .compare left operator right, h => by
    have hleft := value_congr left fun a ha => h a (List.mem_append_left _ ha)
    have hright := value_congr right fun a ha => h a (List.mem_append_right _ ha)
    cases operator <;> simp only [value, hleft, hright]
  | .literal _, _ | .node _, _ | .column _, _ | .duration _, _ | .parameter _, _ | .hasLabel _ _, _
  | .isNull _ _, _ | .negation _, _ | .call _ _, _ | .collect _ _, _ => rfl

theorem evaluates_value : g.Evaluates g.value where
  congr h := g.value_congr _ h
  property key h := by rw [value, h]; rfl
  equal := by
    intro ρ e text
    rw [value, value]
    cases g.value ρ e <;> simp [Value.isNull, Value.equals]

end PropertyGraph

/-- The statement tells its clauses and items. -/
theorem CompiledStatement.Lists.unique {s : CompiledStatement} {body body' : List Clause}
    {items items' : List ReturnItem} (h : s.Lists body items) (h' : s.Lists body' items') :
    body = body' ∧ items = items' := by
  obtain ⟨hbody, hlast⟩ := List.append_inj' (h.clauses_eq.symm.trans h'.clauses_eq) rfl
  simpa [hbody] using hlast

/-- Every finite graph can be stored. -/
theorem PropertyGraph.exists_table {V : Type*} [Fintype V] (g : PropertyGraph V)
    (eval : Evaluation V) (s : CompiledStatement) :
    ∃ table : Table, ∀ body items, s.Lists body items →
      table.columns = items.map (·.columnName) ∧
        (table.rows : Multiset (List Value)) = g.rows eval body items := by
  by_cases h : ∃ body items, s.Lists body items
  · obtain ⟨body, items, hbody⟩ := h
    refine ⟨⟨items.map (·.columnName), (g.rows eval body items).toList⟩, fun body' items' h' => ?_⟩
    obtain ⟨rfl, rfl⟩ := hbody.unique h'
    exact ⟨rfl, Multiset.coe_toList _⟩
  · exact ⟨.ofColumns [], fun body items hbody => absurd ⟨body, items, hbody⟩ h⟩

/-- A store of a graph that lists these names. -/
noncomputable def PropertyGraph.store {V : Type*} [Fintype V] (g : PropertyGraph V)
    (eval : Evaluation V) (names : List String) : Store Unit where
  names _ := .ok names
  execute s _ := ⟨.ok (g.exists_table eval s).choose, (), false⟩

theorem PropertyGraph.answers_store {V : Type*} [Fintype V] (g : PropertyGraph V)
    (eval : Evaluation V) (names : List String) : (g.store eval names).Answers g eval where
  rows _ h :=
    have hchoose := (g.exists_table eval _).choose_spec _ _ h
    ⟨_, rfl, fun _ => hchoose.1, hchoose.2⟩
  not_cancels _ _ := rfl

end AnnotationQuery
