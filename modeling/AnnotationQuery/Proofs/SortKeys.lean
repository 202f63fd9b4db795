import AnnotationQuery.Proofs.FilterOrder
import AnnotationQuery.Proofs.Outputs
import AnnotationQuery.Proofs.PartitionFilter

/-!
# Sort keys

The rows of a projection are sorted by keys, each of which is a path. A path of one step that is the
name of a result column stands for that column, and a path that is the path of a column for the
first such column. Any other path is sorted by its own value, for which its nodes are bound like
those of the columns; but where rows are grouped or made distinct only the result columns are left
behind `RETURN`, and there is no such key.

Results:
* `Projection.orderExpr_eq_ok_iff`, `Projection.orderExpr_eq_error_iff`: what a key is sorted by,
  and why it may not be a key.
* `Projection.map_columnName_items`: the result columns.
* `Corpus.compile_orderBy`: when the keys of a projection compile, and what they become.
-/

namespace AnnotationQuery

/-! ## What keys stand for -/

namespace Projection

variable (c : Corpus) (tier : String) (p : Projection)

/-- The names of the result columns: those of the columns and aggregates. Without any the anchor is
returned under its alias. -/
def resultColumns : List String :=
  if p.columns = [] ∧ p.aggregates = [] then
    [ReturnItem.columnName ⟨.node (c.anchor tier).aliasName, none⟩]
  else p.columns.map (·.name) ++ p.aggregates.map (·.name)

/-- The path has one step, the name of a result column. -/
def Names (path : Path) (name : String) : Prop :=
  path.steps = [name] ∧ name ∈ p.resultColumns c tier

/-- The path stands for no result column. -/
structure Unlisted (path : Path) : Prop where
  not_names : ∀ name, ¬p.Names c tier path name
  path_ne : ∀ column ∈ p.columns, column.path ≠ path

/-- What a path is sorted by: the result column that it names, else the first column with the path,
else, where rows are neither grouped nor made distinct, its own value. -/
inductive Sorts (path : Path) : Expr → Prop
  | named {name : String} : p.Names c tier path name → Sorts path (.column name)
  | column {before after : List Column} {column : Column} :
    (∀ name, ¬p.Names c tier path name) → p.columns = before ++ column :: after →
    column.path = path → (∀ other ∈ before, other.path ≠ path) → Sorts path (.column column.name)
  | value {term : Term} :
    p.Unlisted c tier path → p.aggregates = [] → p.distinct = false →
    c.outputTerm tier path = .ok term → Sorts path term.expr

/-- Why rows can not be sorted by a path: only the result columns are left, or the path does not
resolve. -/
inductive Rejects (path : Path) : QueryError → Prop
  | notGrouped : p.Unlisted c tier path → p.aggregates ≠ [] →
    Rejects path (.invalidPath path .orderNotGrouped)
  | notReturned : p.Unlisted c tier path → p.aggregates = [] → p.distinct = true →
    Rejects path (.invalidPath path .orderNotReturned)
  | unresolved {e : QueryError} : p.Unlisted c tier path → p.aggregates = [] → p.distinct = false →
    c.outputTerm tier path = .error e → Rejects path e

end Projection

namespace Projection

variable {l : Listing} {c : Corpus} {tier : String} {p : Projection}

variable {key : OrderKey}

/-- A path names a result column, or is the path of a first column, or stands for none. -/
theorem sortKey_cases (c : Corpus) (tier : String) (p : Projection) (path : Path) :
    (∃ name, p.Names c tier path name) ∨
      ((∀ name, ¬p.Names c tier path name) ∧ ∃ before column after,
        p.columns = before ++ column :: after ∧ column.path = path ∧
          ∀ other ∈ before, other.path ≠ path) ∨
      p.Unlisted c tier path := by
  by_cases hnames : ∃ name, p.Names c tier path name
  · exact .inl hnames
  have hnames : ∀ name, ¬p.Names c tier path name := not_exists.1 hnames
  cases hfind : p.columns.find? (·.path == path) with
  | some column =>
    obtain ⟨hpath, before, after, hcolumns, hbefore⟩ := List.find?_eq_some_iff_append.1 hfind
    exact .inr (.inl ⟨hnames, before, column, after, hcolumns, by simpa using hpath,
      by simpa using hbefore⟩)
  | none => exact .inr (.inr ⟨hnames, by simpa using hfind⟩)

theorem orderColumn?_of_names {name : String} (h : p.Names c tier key.path name) :
    p.orderColumn? (p.resultColumns c tier) key = some name := by
  obtain ⟨hsteps, hmem⟩ := h
  simp only [orderColumn?, hsteps, if_pos hmem, Option.some_or]

theorem orderColumn?_of_not_names (h : ∀ name, ¬p.Names c tier key.path name) :
    p.orderColumn? (p.resultColumns c tier) key =
      (p.columns.find? (·.path == key.path)).map (·.name) := by
  unfold orderColumn?
  split
  · rename_i name hsteps
    rw [if_neg fun hmem => h name ⟨hsteps, hmem⟩, Option.none_or]
  · rw [Option.none_or]

theorem orderColumn?_of_column {before after : List Column} {column : Column}
    (h : ∀ name, ¬p.Names c tier key.path name) (hcolumns : p.columns = before ++ column :: after)
    (hpath : column.path = key.path) (hbefore : ∀ other ∈ before, other.path ≠ key.path) :
    p.orderColumn? (p.resultColumns c tier) key = some column.name := by
  rw [orderColumn?_of_not_names h, Option.map_eq_some_iff]
  refine ⟨column, List.find?_eq_some_iff_append.2 ⟨?_, before, after, hcolumns, ?_⟩, rfl⟩
  · exact beq_iff_eq.2 hpath
  · simpa using hbefore

theorem orderColumn?_of_unlisted (h : p.Unlisted c tier key.path) :
    p.orderColumn? (p.resultColumns c tier) key = none := by
  rw [orderColumn?_of_not_names h.not_names, Option.map_eq_none_iff, List.find?_eq_none]
  simpa using h.path_ne

/-- The expression of a key that stands for no result column. -/
theorem orderExpr_of_unlisted (h : p.Unlisted c tier key.path) :
    p.orderExpr c tier (p.resultColumns c tier) key =
      if p.aggregates ≠ [] then .error (.invalidPath key.path .orderNotGrouped)
      else if p.distinct then .error (.invalidPath key.path .orderNotReturned)
      else c.outputExpr tier key.path := by
  have haggregate : p.isAggregate = true ↔ p.aggregates ≠ [] := by
    simp [isAggregate]
  simp only [orderExpr, orderColumn?_of_unlisted h, haggregate]

theorem orderExpr_of_orderColumn? {name : String}
    (h : p.orderColumn? (p.resultColumns c tier) key = some name) :
    p.orderExpr c tier (p.resultColumns c tier) key = .ok ⟨[], .column name⟩ := by
  simp only [orderExpr, h]

/-- What a key is sorted by. -/
theorem orderExpr_eq_ok_iff {e : Expr} :
    (∃ o, p.orderExpr c tier (p.resultColumns c tier) key = .ok o ∧ o.expr = e) ↔
      p.Sorts c tier key.path e := by
  constructor
  · rintro ⟨o, ho, rfl⟩
    rcases p.sortKey_cases c tier key.path with ⟨name, h⟩ | ⟨h, before, column, after, hsplit⟩ | h
    · rw [orderExpr_of_orderColumn? (orderColumn?_of_names h)] at ho
      cases ho
      exact .named h
    · obtain ⟨hcolumns, hpath, hbefore⟩ := hsplit
      rw [orderExpr_of_orderColumn? (orderColumn?_of_column h hcolumns hpath hbefore)] at ho
      cases ho
      exact .column h hcolumns hpath hbefore
    · rw [orderExpr_of_unlisted h] at ho
      split at ho
      · cases ho
      · rename_i haggregates
        split at ho
        · cases ho
        · rename_i hdistinct
          obtain ⟨term, hterm, rfl⟩ := Corpus.outputExpr_eq_ok ho
          exact .value h (not_not.1 haggregates) (Bool.eq_false_of_not_eq_true hdistinct) hterm
  · intro h
    cases h with
    | named h => exact ⟨_, orderExpr_of_orderColumn? (orderColumn?_of_names h), rfl⟩
    | column h hcolumns hpath hbefore =>
      have hcolumn := orderColumn?_of_column h hcolumns hpath hbefore
      exact ⟨_, orderExpr_of_orderColumn? hcolumn, rfl⟩
    | @value term h haggregates hdistinct hterm =>
      refine ⟨⟨[term.node], term.expr⟩, ?_, rfl⟩
      rw [orderExpr_of_unlisted h, if_neg (not_not_intro haggregates), hdistinct,
        Corpus.outputExpr, hterm]
      rfl

/-- Why a key is none. -/
theorem orderExpr_eq_error_iff {e : QueryError} :
    p.orderExpr c tier (p.resultColumns c tier) key = .error e ↔ p.Rejects c tier key.path e := by
  have houtput : c.outputExpr tier key.path = .error e ↔ c.outputTerm tier key.path = .error e := by
    simp only [Corpus.outputExpr, bind_eq_error, pure_eq_error, and_false, exists_false, or_false]
  constructor
  · intro he
    rcases p.sortKey_cases c tier key.path with ⟨name, h⟩ | ⟨h, before, column, after, hsplit⟩ | h
    · rw [orderExpr_of_orderColumn? (orderColumn?_of_names h)] at he
      cases he
    · obtain ⟨hcolumns, hpath, hbefore⟩ := hsplit
      rw [orderExpr_of_orderColumn? (orderColumn?_of_column h hcolumns hpath hbefore)] at he
      cases he
    · rw [orderExpr_of_unlisted h] at he
      split at he
      · rename_i haggregates
        cases he
        exact .notGrouped h haggregates
      · rename_i haggregates
        split at he
        · rename_i hdistinct
          cases he
          exact .notReturned h (not_not.1 haggregates) hdistinct
        · rename_i hdistinct
          exact .unresolved h (not_not.1 haggregates) (Bool.eq_false_of_not_eq_true hdistinct)
            (houtput.1 he)
  · intro h
    cases h with
    | notGrouped h haggregates => rw [orderExpr_of_unlisted h, if_pos haggregates]
    | notReturned h haggregates hdistinct =>
      rw [orderExpr_of_unlisted h, if_neg (not_not_intro haggregates), if_pos hdistinct]
    | unresolved h haggregates hdistinct hterm =>
      rw [orderExpr_of_unlisted h, if_neg (not_not_intro haggregates), hdistinct]
      exact houtput.2 hterm

/-! ## Items of `ORDER BY` -/

theorem orderItem_eq_error_iff {e : QueryError} :
    p.orderItem c tier (p.resultColumns c tier) key = .error e ↔ p.Rejects c tier key.path e := by
  simp only [orderItem, bind_eq_error, pure_eq_error, and_false, exists_false, or_false,
    orderExpr_eq_error_iff]

theorem sorts_of_orderItem {item : List Node × OrderItem}
    (h : p.orderItem c tier (p.resultColumns c tier) key = .ok item) :
    p.Sorts c tier key.path item.2.expr ∧ item.2.descending = key.descending := by
  simp only [orderItem, bind_eq_ok, pure_eq_ok] at h
  obtain ⟨o, ho, rfl⟩ := h
  exact ⟨orderExpr_eq_ok_iff.1 ⟨o, ho, rfl⟩, rfl⟩

theorem exists_orderItem_iff :
    (∃ item, p.orderItem c tier (p.resultColumns c tier) key = .ok item) ↔
      ∃ e, p.Sorts c tier key.path e := by
  constructor
  · rintro ⟨item, hitem⟩
    exact ⟨_, (sorts_of_orderItem hitem).1⟩
  · rintro ⟨e, he⟩
    obtain ⟨o, ho, -⟩ := orderExpr_eq_ok_iff.2 he
    exact ⟨_, bind_eq_ok.2 ⟨o, ho, rfl⟩⟩

/-- Where rows are grouped or made distinct, they are sorted by result columns only. -/
theorem Sorts.exists_column {path : Path} {e : Expr} (h : p.Sorts c tier path e)
    (hlimited : p.aggregates ≠ [] ∨ p.distinct = true) :
    ∃ name ∈ p.resultColumns c tier, e = .column name := by
  cases h with
  | named h => exact ⟨_, h.2, rfl⟩
  | @column before after column _ hcolumns _ _ =>
    refine ⟨column.name, ?_, rfl⟩
    have hmem : column ∈ p.columns := by
      rw [hcolumns]
      exact List.mem_append_right _ List.mem_cons_self
    rw [resultColumns, if_neg fun hempty => by simp [hempty.1] at hmem]
    exact List.mem_append_left _ (List.mem_map_of_mem hmem)
  | value _ haggregates hdistinct _ =>
    rw [haggregates, hdistinct] at hlimited
    simp at hlimited

/-! ## The returned items -/

theorem map_columnName_columns {items : List (List Node × ReturnItem)}
    (h : p.columns.mapM (c.columnItem tier) = .ok items) :
    items.map (fun item => item.2.columnName) = p.columns.map (·.name) := by
  refine map_eq_map_of_mapM h fun column item hitem => ?_
  obtain ⟨term, -, rfl⟩ := Corpus.columnItem_eq_ok hitem
  rfl

theorem map_columnName_aggregates {items : List (List Node × ReturnItem)}
    (h : p.aggregates.mapM (c.aggregateItem tier) = .ok items) :
    items.map (fun item => item.2.columnName) = p.aggregates.map (·.name) := by
  refine map_eq_map_of_mapM h fun aggregate item hitem => ?_
  rcases Corpus.aggregateItem_eq_ok hitem with ⟨path, term, -, -, rfl⟩ | ⟨-, rfl⟩ <;> rfl

/-- The returned items are named like the result columns. -/
theorem map_columnName_items {items : List (List Node × ReturnItem)}
    (h : p.items c tier = .ok items) :
    items.map (fun item => item.2.columnName) = p.resultColumns c tier := by
  simp only [Projection.items, bind_eq_ok] at h
  obtain ⟨columns, hcolumns, aggregates, haggregates, h⟩ := h
  have hempty : (columns ++ aggregates).isEmpty = true ↔ p.columns = [] ∧ p.aggregates = [] := by
    rw [List.isEmpty_iff, List.append_eq_nil_iff, ← List.length_eq_zero_iff,
      ← List.length_eq_zero_iff, ← List.length_eq_zero_iff, ← List.length_eq_zero_iff,
      (mapM_eq_ok.1 hcolumns).length_eq, (mapM_eq_ok.1 haggregates).length_eq]
  unfold resultColumns
  split at h
  · rename_i hnil
    rw [if_pos (hempty.1 hnil), ← pure_eq_ok.1 h]
    rfl
  · rename_i hne
    rw [if_neg (hempty.not.1 hne), ← pure_eq_ok.1 h, List.map_append,
      map_columnName_columns hcolumns, map_columnName_aggregates haggregates]

end Projection

/-! ## Projections -/

/-- The clause that returns the rows of a projection, what they are sorted by and the nodes that are
bound for it. -/
structure CompiledStatement.Sorted (s : CompiledStatement) (c : Corpus) (q : Query) (p : Projection)
    (required : List PathPattern) (filters carried : List Clause) (optional : List PathPattern)
    (items : List ReturnItem) (orderBy : List OrderItem) : Prop where
  stages : s.statement.Stages required filters carried optional
    [.returning p.distinct items orderBy (if p.aggregates = [] then p.limit else none)]
  columns_eq : s.columns = p.resultColumns c q.tier
  items_eq : items.map (·.columnName) = s.columns
  orderBy_eq : List.Forall₂ (fun key item => p.Sorts c q.tier key.path item.expr ∧
    item.descending = key.descending) p.orderBy orderBy
  columns_only : p.aggregates ≠ [] ∨ p.distinct = true →
    ∀ item ∈ orderBy, ∃ name ∈ s.columns, item.expr = .column name
  bound : ∀ key ∈ p.orderBy, p.Unlisted c q.tier key.path →
    ∀ term, c.outputTerm q.tier key.path = .ok term → ∀ n, term.node.Needs n →
      c.Requires q n ∧ n.nodePattern ∈ required.flatMap PathPattern.introduced ∨
        ¬c.Requires q n ∧ n.nodePattern ∈ optional.flatMap PathPattern.introduced

namespace Corpus

variable {l : Listing} {c : Corpus} {q : Query} {p : Projection}

/-- Apart from its sort keys, a projection compiles. -/
structure Selects (c : Corpus) (q : Query) (p : Projection) : Prop where
  intent_eq : q.intent = .project p
  hasTier : c.hierarchy.hasTier q.tier = true
  conditions : ∃ conditions, c.conditions q.tier q.effectiveFilters = .ok conditions
  columns : ∀ column ∈ p.columns, ∃ term, c.outputTerm q.tier column.path = .ok term
  aggregates : ∀ aggregate ∈ p.aggregates, ∀ path, aggregate.path = some path →
    ∃ term, c.outputTerm q.tier path = .ok term

theorem Selects.items (h : c.Selects q p) : ∃ items, p.items c q.tier = .ok items := by
  have hexpr {path : Path} (hterm : ∃ term, c.outputTerm q.tier path = .ok term) :
      ∃ o, c.outputExpr q.tier path = .ok o := by
    obtain ⟨term, hterm⟩ := hterm
    exact ⟨_, bind_eq_ok.2 ⟨term, hterm, rfl⟩⟩
  obtain ⟨columns, hcolumns⟩ : ∃ items, p.columns.mapM (c.columnItem q.tier) = .ok items := by
    refine exists_mapM_eq_ok.2 fun column hmem => ?_
    obtain ⟨o, ho⟩ := hexpr (h.columns column hmem)
    exact ⟨_, bind_eq_ok.2 ⟨o, ho, rfl⟩⟩
  obtain ⟨aggregates, haggregates⟩ :
      ∃ items, p.aggregates.mapM (c.aggregateItem q.tier) = .ok items := by
    refine exists_mapM_eq_ok.2 fun aggregate hmem => ?_
    unfold aggregateItem
    cases hpath : aggregate.path with
    | none => exact ⟨_, rfl⟩
    | some path =>
      obtain ⟨o, ho⟩ := hexpr (h.aggregates aggregate hmem path hpath)
      exact ⟨_, bind_eq_ok.2 ⟨o, ho, rfl⟩⟩
  simp only [Projection.items, hcolumns, haggregates]
  show ∃ items, (if (columns ++ aggregates).isEmpty then _ else _) = Except.ok items
  split <;> exact ⟨_, rfl⟩

/-- What is wrong with a projection that compiles apart from its sort keys is wrong with them. -/
theorem Selects.compile_eq_error_iff (h : c.Selects q p) {e : QueryError} :
    c.compileIn l q = .error e ↔
      p.orderBy.mapM (p.orderItem c q.tier (p.resultColumns c q.tier)) = .error e := by
  obtain ⟨items, hitems⟩ := h.items
  obtain ⟨conditions, hconditions⟩ := h.conditions
  obtain ⟨t, ht⟩ := Hierarchy.exists_tier h.hasTier
  have hfault : q.intent.mutationFault? = none := by
    rw [h.intent_eq]
    rfl
  have hdemand : c.demand q.tier q.intent = .error e ↔
      p.orderBy.mapM (p.orderItem c q.tier (p.resultColumns c q.tier)) = .error e := by
    rw [← Projection.map_columnName_items hitems, h.intent_eq]
    simp only [demand, Output.ofProjection, hitems, bind_eq_error, pure_eq_error, reduceCtorEq,
      and_false, exists_false, or_false, false_or, Except.ok.injEq, exists_eq_left']
    rfl
  simp only [compile_eq_error, plan_eq_error, hfault, ht, hconditions, hdemand, reduceCtorEq,
    false_and, exists_false, false_or, true_and, Except.ok.injEq, exists_eq_left']

/-- The nodes of a key that is sorted by its own value are bound. -/
theorem bound_of_unlisted {plan : Plan} (hp : c.plan l q = .ok plan) (hi : q.intent = .project p)
    (hcolumns : plan.ending.columns = p.resultColumns c q.tier) {key : OrderKey}
    (hkey : key ∈ p.orderBy) (hunlisted : p.Unlisted c q.tier key.path) {term : Term}
    (hterm : c.outputTerm q.tier key.path = .ok term) {n : Node} (hn : term.node.Needs n) :
    c.Requires q n ∧ n ∈ plan.required ∨ ¬c.Requires q n ∧ n ∈ plan.optional := by
  have hpath : key.path ∈ q.outputPaths plan.ending.columns := by
    rw [Query.outputPaths, hi, hcolumns]
    refine List.mem_append_right _ (List.mem_map_of_mem (List.mem_filter.2 ⟨hkey, ?_⟩))
    rw [Projection.orderColumn?_of_unlisted hunlisted, Option.isNone_none]
  have hshown : c.Shows q plan.ending.columns n :=
    (Shows.output hpath ((refers_of_outputTerm hterm).2 rfl)).needs hn
  by_cases hrequired : c.Requires q n
  · exact .inl ⟨hrequired, (mem_required hp).2 hrequired⟩
  · exact .inr ⟨hrequired, (mem_optional hp).2 ⟨hshown, hrequired⟩⟩

theorem sorted_compile {s : CompiledStatement} (hi : q.intent = .project p)
    (hs : c.compileIn l q = .ok s) : ∃ required filters carried optional items orderBy,
      s.Sorted c q p required filters carried optional items orderBy := by
  obtain ⟨plan, n, hp, hcolumns, hstages, -⟩ := compile_stages hs
  obtain ⟨output, ho, hending⟩ := ending_plan_project hp hi
  obtain ⟨items, keys, hitems, hkeys, -, houtput, horder⟩ := Output.ofProjection_eq_ok ho
  have hplain : q.intent.Plain := by
    rw [hi]
    trivial
  have hlimit : p.effectiveLimit = if p.aggregates = [] then p.limit else none := by
    cases haggregates : p.aggregates <;>
      simp [Projection.effectiveLimit, Projection.isAggregate, haggregates]
  have hreturning : plan.endingClauses = [.returning p.distinct output.items output.orderBy
      (if p.aggregates = [] then p.limit else none)] := by
    rw [Plan.endingClauses, hending, hlimit]
  have hresult : plan.ending.columns = p.resultColumns c q.tier := by
    rw [hending, ← Projection.map_columnName_items hitems]
    exact Output.map_columnName houtput
  have hnames : output.items.map (·.columnName) = s.columns := by
    rw [hcolumns, hending]
    rfl
  have horderBy : List.Forall₂ (fun key item => p.Sorts c q.tier key.path item.expr ∧
      item.descending = key.descending) p.orderBy output.orderBy := by
    rw [Projection.map_columnName_items hitems] at hkeys
    rw [horder, List.forall₂_map_right_iff]
    exact (mapM_eq_ok.1 hkeys).imp fun key item => Projection.sorts_of_orderItem
  rw [lifted_of_plain (plain_ending hp hplain), hreturning] at hstages
  refine ⟨plan.required.patterns c.hierarchy plan.required, (c.lifted 0 plan.filterClauses).1,
    plan.carryingClauses, plan.optional.patterns c.hierarchy (plan.required ++ plan.optional),
    output.items, output.orderBy, ?_⟩
  constructor
  case stages => exact hstages
  case columns_eq => exact hcolumns.trans hresult
  case items_eq => exact hnames
  case orderBy_eq => exact horderBy
  case columns_only =>
    intro hlimited item hitem
    obtain ⟨key, -, hkey, -⟩ := exists_left_of_forall₂ horderBy hitem
    rw [hcolumns, hresult]
    exact hkey.exists_column hlimited
  case bound =>
    intro key hkey hunlisted term hterm n hn
    exact (bound_of_unlisted hp hi hresult hkey hunlisted hterm hn).imp
      (And.imp_right (Group.nodePattern_mem_introduced _ _))
      (And.imp_right (Group.nodePattern_mem_introduced _ _))

/-- A projection whose filters, columns and aggregates compile does so if and only if its rows can
be sorted by each of its keys. Otherwise the first key by which they can not is at fault. The rows
that the statement returns are sorted by what the keys stand for, in their order and directions. -/
theorem compile_orderBy (h : c.Selects q p) :
    ((∃ s, c.compileIn l q = .ok s) ↔ ∀ key ∈ p.orderBy, ∃ e, p.Sorts c q.tier key.path e) ∧
      (∀ e, c.compileIn l q = .error e ↔ ∃ before key after, p.orderBy = before ++ key :: after ∧
        (∀ other ∈ before, ∃ e', p.Sorts c q.tier other.path e') ∧
          p.Rejects c q.tier key.path e) ∧
      ∀ s, c.compileIn l q = .ok s → ∃ required filters carried optional items orderBy,
        s.Sorted c q p required filters carried optional items orderBy := by
  refine ⟨?_, fun e => ?_, fun s hs => sorted_compile h.intent_eq hs⟩
  · rw [exists_ok_congr fun e => h.compile_eq_error_iff, exists_mapM_eq_ok]
    simp only [Projection.exists_orderItem_iff]
  · rw [h.compile_eq_error_iff, mapM_eq_error]
    simp only [Projection.exists_orderItem_iff, Projection.orderItem_eq_error_iff]

/-- Three phone labels, sorted by a named column, by the path of a column and by the word's
label. -/
def phoneLabels (distinct : Bool) : Projection :=
  { columns := [⟨⟨["phone", "label"]⟩, "label"⟩]
    aggregates := []
    orderBy := [⟨⟨["label"]⟩, false⟩, ⟨⟨["phone", "label"]⟩, true⟩,
      ⟨⟨["phone", "word", "label"]⟩, false⟩]
    limit := some 3
    distinct }

theorem selects_phoneLabels (distinct : Bool) :
    small.Selects (.ofSyllable (.project (phoneLabels distinct))) (phoneLabels distinct) := by
  constructor
  case intent_eq => rfl
  case hasTier => rfl
  case conditions => exact exists_eq_ok rfl
  case columns =>
    intro column hcolumn
    rw [List.mem_singleton.1 hcolumn]
    exact exists_eq_ok rfl
  case aggregates => nofun

/-- Labels are sorted by all three keys; distinct ones can not be sorted by the word's label. -/
theorem compile_orderBy_small :
    (∀ distinct, small.Selects (.ofSyllable (.project (phoneLabels distinct)))
      (phoneLabels distinct)) ∧
      (∃ s required filters carried optional items orderBy,
        small.compile (.ofSyllable (.project (phoneLabels false))) = .ok s ∧
          s.Sorted small (.ofSyllable (.project (phoneLabels false))) (phoneLabels false) required
            filters carried optional items orderBy ∧ orderBy.length = 3) ∧
      ∃ before key after, (phoneLabels true).orderBy = before ++ key :: after ∧
        (phoneLabels true).Rejects small "phone" key.path
          (.invalidPath ⟨["phone", "word", "label"]⟩ .orderNotReturned) := by
  refine ⟨selects_phoneLabels, ?_, ?_⟩
  · have hok : (small.compile (.ofSyllable (.project (phoneLabels false)))).toOption.isSome := by
      decide
    obtain ⟨s, hs⟩ := exists_eq_ok hok
    obtain ⟨-, -, hsorted⟩ := compile_orderBy (selects_phoneLabels false)
    obtain ⟨required, filters, carried, optional, items, orderBy, h⟩ := hsorted s hs
    have hlength : orderBy.length = 3 := h.orderBy_eq.length_eq.symm
    exact ⟨s, required, filters, carried, optional, items, orderBy, hs, h, hlength⟩
  · obtain ⟨-, herror, -⟩ := compile_orderBy (l := .arrival) (selects_phoneLabels true)
    obtain ⟨before, key, after, hsplit, -, hrejects⟩ := (herror _).1 rfl
    exact ⟨before, key, after, hsplit, hrejects⟩

end Corpus

end AnnotationQuery
