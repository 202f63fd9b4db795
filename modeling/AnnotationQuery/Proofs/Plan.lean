import AnnotationQuery.Compiled.Plan
import AnnotationQuery.Proofs.Containment
import AnnotationQuery.Proofs.Worklist

/-!
# What a plan is made of

A query that compiles has a plan. The plan requires the anchor, the nodes that filters refer to and
the type node that a mutation changes, with all that these need; it binds optionally what only the
output refers to.

Results:
* `Corpus.plan_eq_ok`, `Corpus.plan_eq_error`: the parts of a plan, and why a query has none.
* `Corpus.condition_eq_ok`, `Corpus.demand_eq_ok`: the same for filters and intents.
* `Corpus.mem_required`, `Corpus.mem_optional`: the two groups of a plan.
* `Corpus.closed_required`, `Corpus.closed_bound`: they are closed under dependencies.
-/

namespace AnnotationQuery

/-! ## Conditions -/

/-- A test for null takes no value, every other comparison takes one. -/
theorem Condition.writeValue_cases (term : Term) (operator : Operator) (value : Value) :
    (∃ negated, ∀ b parameters, writeValue b parameters term operator value =
      (⟨[term.node], .isNull term.expr negated⟩, parameters)) ∨
    ∀ b parameters, writeValue b parameters term operator value =
      let (operand, parameters) := Parameters.value b parameters value
      (⟨[term.node], .comparison term.expr operator operand⟩, parameters) := by
  cases operator with
  | equal | notEqual =>
    cases value with
    | null => exact .inl ⟨_, fun _ _ => rfl⟩
    | _ => exact .inr fun _ _ => rfl
  | _ => exact .inr fun _ _ => rfl

theorem Condition.ofValue_cases (term : Term) (operator : Operator) (value : Value) :
    (∃ negated, ofValue term operator value = ⟨[term.node], .isNull term.expr negated⟩) ∨
      ofValue term operator value =
        ⟨[term.node], .comparison term.expr operator (.literal value)⟩ := by
  rcases writeValue_cases term operator value with ⟨negated, h⟩ | h
  · exact .inl ⟨negated, congrArg Prod.fst (h false [])⟩
  · exact .inr (congrArg Prod.fst (h false []))

namespace Corpus

variable {c : Corpus} {tier : String}

theorem filterTerm_eq_ok {path : Path} {term : Term} :
    c.filterTerm tier path = .ok term ↔
      ∃ resolved, c.resolve tier path = .ok resolved ∧ resolved.term = .ok term := by
  simp only [filterTerm, bind_eq_ok, mapError_eq_ok]

theorem refers_of_resolved {path : Path} {resolved : Resolved} {m : Node}
    (hr : c.resolve tier path = .ok resolved) (hm : resolved.node? = some m) {n : Node} :
    c.Refers tier path n ↔ n = m := by
  constructor
  · rintro ⟨resolved', hr', hn⟩
    obtain rfl := Except.ok.inj (hr.symm.trans hr')
    exact Option.some.inj (hn.symm.trans hm)
  · rintro rfl
    exact ⟨resolved, hr, hm⟩

theorem refers_of_filterTerm {path : Path} {term : Term} (h : c.filterTerm tier path = .ok term)
    {n : Node} : c.Refers tier path n ↔ n = term.node := by
  obtain ⟨resolved, hr, ht⟩ := filterTerm_eq_ok.1 h
  exact refers_of_resolved hr (Resolved.node?_of_term ht)

theorem refers_of_outputTerm {path : Path} {term : Term} (h : c.outputTerm tier path = .ok term)
    {n : Node} : c.Refers tier path n ↔ n = term.node := by
  obtain ⟨resolved, hr, ht⟩ := outputTerm_eq_ok.1 h
  exact refers_of_resolved hr (Resolved.node?_of_outputTerm ht)

/-- The forms that the condition of a filter can take. -/
inductive ConditionOf (c : Corpus) (tier : String) (f : Filter) : Condition → Prop
  | terms {other : Path} {left right : Term} :
    f.operand = .path other → c.filterTerm tier f.path = .ok left →
    c.filterTerm tier other = .ok right → ConditionOf c tier f (.ofTerms left f.operator right)
  | value {value : Value} {left : Term} :
    f.operand = .literal value → c.filterTerm tier f.path = .ok left →
    ConditionOf c tier f (.ofValue left f.operator value)
  | subset {r : Reference} {name : String} {side : Side} {e : Expr} :
    c.resolve tier f.path = .ok (.subset r) → f.operand = .literal (.string name) →
    (c.hierarchy.tier? r.tier).bind (·.subsetSide? name) = some side →
    e = .hasLabel (Node.ofSide r side).aliasName name ∨
      e = .negation (.hasLabel (Node.ofSide r side).aliasName name) →
    ConditionOf c tier f ⟨[.ofSide r side], e⟩

theorem ofSubset_eq_ok {f : Filter} {r : Reference} {value : Value} {k : Condition}
    (h : Condition.ofSubset c.hierarchy f r value = .ok k) :
    ∃ name side, value = .string name ∧
      (c.hierarchy.tier? r.tier).bind (·.subsetSide? name) = some side ∧
      ∃ e, k = ⟨[.ofSide r side], e⟩ ∧
        (e = .hasLabel (Node.ofSide r side).aliasName name ∨
          e = .negation (.hasLabel (Node.ofSide r side).aliasName name)) := by
  unfold Condition.ofSubset at h
  split at h
  · rename_i name
    split at h
    · cases h
    · rename_i side hside
      refine ⟨name, side, rfl, hside, ?_⟩
      simp only at h
      split at h
      · exact ⟨_, (Except.ok.inj h).symm, .inl rfl⟩
      · exact ⟨_, (Except.ok.inj h).symm, .inr rfl⟩
      · cases h
  · cases h

theorem condition_eq (f : Filter) :
    c.condition tier f = do
      f.validate
      let resolved ← c.resolve tier f.path
      match f.operand with
      | .path other =>
        let otherResolved ← c.resolve tier other
        let left ← resolved.term.mapError (.invalidPath f.path)
        let right ← otherResolved.term.mapError (.invalidPath other)
        return .ofTerms left f.operator right
      | .literal value =>
        match resolved with
        | .subset r => (Condition.ofSubset c.hierarchy f r value).mapError .invalidFilter
        | resolved =>
          let left ← resolved.term.mapError (.invalidPath f.path)
          return .ofValue left f.operator value := by
  simp only [condition, writeCondition, bind_assoc]
  refine bind_congr fun _ => bind_congr fun resolved => ?_
  cases f.operand with
  | path other => simp only [bind_assoc, pure_bind]
  | literal value =>
    cases resolved <;> simp only [bind_assoc, pure_bind, bind_pure, Condition.ofValue]

theorem condition_eq_ok {f : Filter} {k : Condition} (h : c.condition tier f = .ok k) :
    c.ConditionOf tier f k := by
  simp only [condition_eq, bind_eq_ok] at h
  obtain ⟨-, -, resolved, hr, h⟩ := h
  split at h
  · rename_i other hop
    simp only [bind_eq_ok, mapError_eq_ok, pure_eq_ok] at h
    obtain ⟨resolved', hr', left, hl, right, hr'', rfl⟩ := h
    exact .terms hop (filterTerm_eq_ok.2 ⟨_, hr, hl⟩) (filterTerm_eq_ok.2 ⟨_, hr', hr''⟩)
  · rename_i value hop
    split at h
    · rename_i r
      rw [mapError_eq_ok] at h
      obtain ⟨name, side, rfl, hside, e, rfl, he⟩ := ofSubset_eq_ok h
      exact .subset hr hop hside he
    · simp only [bind_eq_ok, mapError_eq_ok, pure_eq_ok] at h
      obtain ⟨left, hl, rfl⟩ := h
      exact .value hop (filterTerm_eq_ok.2 ⟨_, hr, hl⟩)

theorem nodes_ofTerms (left : Term) (operator : Operator) (right : Term) :
    (Condition.ofTerms left operator right).nodes = [left.node, right.node] := by
  unfold Condition.ofTerms
  split
  · simp only
    split <;> rfl
  · rfl

theorem nodes_ofValue (term : Term) (operator : Operator) (value : Value) :
    (Condition.ofValue term operator value).nodes = [term.node] := by
  rcases Condition.ofValue_cases term operator value with ⟨negated, h⟩ | h <;> rw [h]

/-- The nodes of a condition are those that its filter refers to. -/
theorem mem_condition_nodes {f : Filter} {k : Condition} (h : c.condition tier f = .ok k)
    {n : Node} : n ∈ k.nodes ↔ c.FilterRefers tier f n := by
  have hcases := condition_eq_ok h
  constructor
  · intro hn
    cases hcases with
    | terms hop hl hr =>
      rw [nodes_ofTerms] at hn
      rcases List.mem_pair.1 hn with rfl | rfl
      · exact .path ((refers_of_filterTerm hl).2 rfl)
      · exact .operand hop ((refers_of_filterTerm hr).2 rfl)
    | value hop hl =>
      rw [nodes_ofValue] at hn
      obtain rfl := List.mem_singleton.1 hn
      exact .path ((refers_of_filterTerm hl).2 rfl)
    | subset hr hop hside _ =>
      obtain rfl := List.mem_singleton.1 hn
      exact .subset hr hop hside
  · intro hn
    cases hcases with
    | terms hop hl hr =>
      rw [nodes_ofTerms]
      cases hn with
      | path hn => simp [(refers_of_filterTerm hl).1 hn]
      | operand hop' hn =>
        obtain rfl : _ = _ := Operand.path.inj (hop.symm.trans hop')
        simp [(refers_of_filterTerm hr).1 hn]
      | subset _ hop' _ => cases hop.symm.trans hop'
    | value hop hl =>
      rw [nodes_ofValue]
      cases hn with
      | path hn => exact List.mem_singleton.2 ((refers_of_filterTerm hl).1 hn)
      | operand hop' _ => cases hop.symm.trans hop'
      | subset hr' _ _ =>
        obtain ⟨resolved, hr, ht⟩ := filterTerm_eq_ok.1 hl
        obtain rfl := Except.ok.inj (hr'.symm.trans hr)
        cases ht
    | subset hr hop hside _ =>
      cases hn with
      | path hn =>
        obtain ⟨resolved, hr', hn⟩ := hn
        obtain rfl := Except.ok.inj (hr.symm.trans hr')
        cases hn
      | operand hop' _ => cases hop.symm.trans hop'
      | subset hr' hop' hside' =>
        cases Except.ok.inj (hr.symm.trans hr')
        cases hop.symm.trans hop'
        cases hside.symm.trans hside'
        exact List.mem_singleton.2 rfl

/-! ## Output -/

theorem outputExpr_eq_ok {path : Path} {o : OutputExpr} (h : c.outputExpr tier path = .ok o) :
    ∃ term, c.outputTerm tier path = .ok term ∧ o = ⟨[term.node], term.expr⟩ := by
  simp only [outputExpr, bind_eq_ok, pure_eq_ok] at h
  obtain ⟨term, ht, rfl⟩ := h
  exact ⟨term, ht, rfl⟩

theorem columnItem_eq_ok {column : Column} {item : List Node × ReturnItem}
    (h : c.columnItem tier column = .ok item) :
    ∃ term, c.outputTerm tier column.path = .ok term ∧
      item = ([term.node], ⟨term.expr, some column.name⟩) := by
  simp only [columnItem, bind_eq_ok, pure_eq_ok] at h
  obtain ⟨o, ho, rfl⟩ := h
  obtain ⟨term, ht, rfl⟩ := outputExpr_eq_ok ho
  exact ⟨term, ht, rfl⟩

theorem aggregateItem_eq_ok {a : Aggregate} {item : List Node × ReturnItem}
    (h : c.aggregateItem tier a = .ok item) :
    (∃ path term, a.path = some path ∧ c.outputTerm tier path = .ok term ∧
      item = ([term.node], ⟨.call a.function.statementName [term.expr], some a.name⟩)) ∨
    (a.path = none ∧ item = ([],
      ⟨.call a.function.statementName [.node (c.anchor tier).aliasName], some a.name⟩)) := by
  unfold aggregateItem at h
  split at h
  · rename_i path hp
    simp only [bind_eq_ok, pure_eq_ok] at h
    obtain ⟨o, ho, rfl⟩ := h
    obtain ⟨term, ht, rfl⟩ := outputExpr_eq_ok ho
    exact .inl ⟨path, term, hp, ht, rfl⟩
  · rename_i hp
    simp only [bind_eq_ok, pure_eq_ok] at h
    obtain ⟨o, rfl, rfl⟩ := h
    exact .inr ⟨hp, rfl⟩

/-- The forms that a returned item can take, with the nodes that it refers to. -/
inductive ItemOf (c : Corpus) (tier : String) : List Node × ReturnItem → Prop
  | anchor {name : Option String} : ItemOf c tier ([], ⟨.node (c.anchor tier).aliasName, name⟩)
  | value {path : Path} {term : Term} {name : Option String} :
    c.outputTerm tier path = .ok term → ItemOf c tier ([term.node], ⟨term.expr, name⟩)
  | callAnchor {function : String} {name : Option String} :
    ItemOf c tier ([], ⟨.call function [.node (c.anchor tier).aliasName], name⟩)
  | call {path : Path} {term : Term} {function : String} {name : Option String} :
    c.outputTerm tier path = .ok term →
    ItemOf c tier ([term.node], ⟨.call function [term.expr], name⟩)

end Corpus

namespace Projection

variable {c : Corpus} {tier : String} {p : Projection}

/-- The paths whose values the rows show: those of columns and aggregates, and those of sort keys
that are not result columns. -/
def outputPaths (p : Projection) (columns : List String) : List Path :=
  p.columns.map (·.path) ++ p.aggregates.filterMap (·.path) ++
    (p.orderBy.filter fun key => (p.orderColumn? columns key).isNone).map (·.path)

theorem items_eq_ok {items : List (List Node × ReturnItem)} (h : p.items c tier = .ok items) :
    ∃ columns aggregates, p.columns.mapM (c.columnItem tier) = .ok columns ∧
      p.aggregates.mapM (c.aggregateItem tier) = .ok aggregates ∧
      ((columns ++ aggregates = [] ∧
          items = [([], ⟨.node (c.anchor tier).aliasName, none⟩)]) ∨
        items = columns ++ aggregates) := by
  simp only [Projection.items, bind_eq_ok] at h
  obtain ⟨columns, hc, aggregates, ha, h⟩ := h
  refine ⟨columns, aggregates, hc, ha, ?_⟩
  split at h
  · rename_i he
    exact .inl ⟨List.isEmpty_iff.1 he, (pure_eq_ok.1 h).symm⟩
  · exact .inr (pure_eq_ok.1 h).symm

theorem itemOf_items {items : List (List Node × ReturnItem)} (h : p.items c tier = .ok items)
    {item : List Node × ReturnItem} (hi : item ∈ items) : c.ItemOf tier item := by
  obtain ⟨columns, aggregates, hc, ha, hitems⟩ := items_eq_ok h
  rcases hitems with ⟨-, rfl⟩ | rfl
  · rw [List.mem_singleton.1 hi]
    exact .anchor
  · rcases List.mem_append.1 hi with hi | hi
    · obtain ⟨column, -, heq⟩ := (mem_mapM hc).1 hi
      obtain ⟨term, ht, rfl⟩ := Corpus.columnItem_eq_ok heq
      exact .value ht
    · obtain ⟨a, -, heq⟩ := (mem_mapM ha).1 hi
      rcases Corpus.aggregateItem_eq_ok heq with ⟨path, term, -, ht, rfl⟩ | ⟨-, rfl⟩
      · exact .call ht
      · exact .callAnchor

theorem orderExpr_eq_ok {columns : List String} {key : OrderKey} {o : OutputExpr}
    (h : p.orderExpr c tier columns key = .ok o) :
    (∃ name, p.orderColumn? columns key = some name ∧ o = ⟨[], .column name⟩) ∨
    (p.orderColumn? columns key = none ∧
      ∃ term, c.outputTerm tier key.path = .ok term ∧ o = ⟨[term.node], term.expr⟩) := by
  unfold orderExpr at h
  split at h
  · rename_i name hname
    exact .inl ⟨name, hname, (Except.ok.inj h).symm⟩
  · rename_i hname
    split at h
    · cases h
    · split at h
      · cases h
      · exact .inr ⟨hname, Corpus.outputExpr_eq_ok h⟩

theorem mem_item_nodes {items : List (List Node × ReturnItem)} (h : p.items c tier = .ok items)
    {n : Node} : (∃ item ∈ items, n ∈ item.1) ↔
      ∃ path ∈ p.columns.map (·.path) ++ p.aggregates.filterMap (·.path), c.Refers tier path n := by
  obtain ⟨columns, aggregates, hc, ha, hitems⟩ := items_eq_ok h
  have hmem : (∃ item ∈ items, n ∈ item.1) ↔ ∃ item ∈ columns ++ aggregates, n ∈ item.1 := by
    rcases hitems with ⟨hempty, rfl⟩ | rfl
    · simp [hempty]
    · rfl
  rw [hmem]
  constructor
  · rintro ⟨item, hitem, hn⟩
    rcases List.mem_append.1 hitem with hitem | hitem
    · obtain ⟨column, hcol, heq⟩ := (mem_mapM hc).1 hitem
      obtain ⟨term, ht, rfl⟩ := Corpus.columnItem_eq_ok heq
      refine ⟨column.path, List.mem_append_left _ (List.mem_map_of_mem hcol), ?_⟩
      exact (Corpus.refers_of_outputTerm ht).2 (List.mem_singleton.1 hn)
    · obtain ⟨a, hagg, heq⟩ := (mem_mapM ha).1 hitem
      rcases Corpus.aggregateItem_eq_ok heq with ⟨path, term, hp, ht, rfl⟩ | ⟨-, rfl⟩
      · refine ⟨path, List.mem_append_right _ (List.mem_filterMap.2 ⟨a, hagg, hp⟩), ?_⟩
        exact (Corpus.refers_of_outputTerm ht).2 (List.mem_singleton.1 hn)
      · cases hn
  · rintro ⟨path, hpath, hn⟩
    rcases List.mem_append.1 hpath with hpath | hpath
    · obtain ⟨column, hcol, rfl⟩ := List.mem_map.1 hpath
      obtain ⟨item, hitem, heq⟩ := exists_mem_of_mapM hc hcol
      refine ⟨item, List.mem_append_left _ hitem, ?_⟩
      obtain ⟨term, ht, rfl⟩ := Corpus.columnItem_eq_ok heq
      exact List.mem_singleton.2 ((Corpus.refers_of_outputTerm ht).1 hn)
    · obtain ⟨a, hagg, hp⟩ := List.mem_filterMap.1 hpath
      obtain ⟨item, hitem, heq⟩ := exists_mem_of_mapM ha hagg
      refine ⟨item, List.mem_append_right _ hitem, ?_⟩
      rcases Corpus.aggregateItem_eq_ok heq with ⟨path', term, hp', ht, rfl⟩ | ⟨hp', -⟩
      · obtain rfl := Option.some.inj (hp.symm.trans hp')
        exact List.mem_singleton.2 ((Corpus.refers_of_outputTerm ht).1 hn)
      · cases hp.symm.trans hp'

/-- A sort key with the nodes that it refers to. -/
def orderItem (c : Corpus) (tier : String) (p : Projection) (columns : List String)
    (key : OrderKey) : Except QueryError (List Node × OrderItem) := do
  let o ← p.orderExpr c tier columns key
  return (o.nodes, ⟨o.expr, key.descending⟩)

theorem orderItem_eq_ok {columns : List String} {key : OrderKey} {item : List Node × OrderItem}
    (h : p.orderItem c tier columns key = .ok item) :
    (∃ name, p.orderColumn? columns key = some name ∧
      item = ([], ⟨.column name, key.descending⟩)) ∨
    (p.orderColumn? columns key = none ∧ ∃ term, c.outputTerm tier key.path = .ok term ∧
      item = ([term.node], ⟨term.expr, key.descending⟩)) := by
  simp only [orderItem, bind_eq_ok, pure_eq_ok] at h
  obtain ⟨o, ho, rfl⟩ := h
  rcases orderExpr_eq_ok ho with ⟨name, hname, rfl⟩ | ⟨hname, term, ht, rfl⟩
  · exact .inl ⟨name, hname, rfl⟩
  · exact .inr ⟨hname, term, ht, rfl⟩

theorem mem_orderItem_nodes {columns : List String} {items : List (List Node × OrderItem)}
    (h : p.orderBy.mapM (p.orderItem c tier columns) = .ok items) {n : Node} :
    (∃ item ∈ items, n ∈ item.1) ↔
      ∃ path ∈ (p.orderBy.filter fun key => (p.orderColumn? columns key).isNone).map (·.path),
        c.Refers tier path n := by
  constructor
  · rintro ⟨item, hitem, hn⟩
    obtain ⟨key, hkey, heq⟩ := (mem_mapM h).1 hitem
    rcases orderItem_eq_ok heq with ⟨name, -, rfl⟩ | ⟨hname, term, ht, rfl⟩
    · cases hn
    · refine ⟨key.path, List.mem_map_of_mem (List.mem_filter.2 ⟨hkey, by simp [hname]⟩), ?_⟩
      exact (Corpus.refers_of_outputTerm ht).2 (List.mem_singleton.1 hn)
  · rintro ⟨path, hpath, hn⟩
    obtain ⟨key, hkey, rfl⟩ := List.mem_map.1 hpath
    obtain ⟨hkey, hnone⟩ := List.mem_filter.1 hkey
    obtain ⟨item, hitem, heq⟩ := exists_mem_of_mapM h hkey
    refine ⟨item, hitem, ?_⟩
    rcases orderItem_eq_ok heq with ⟨name, hname, -⟩ | ⟨-, term, ht, rfl⟩
    · simp [hname] at hnone
    · exact List.mem_singleton.2 ((Corpus.refers_of_outputTerm ht).1 hn)

end Projection

/-- The returned items and the sort keys of a projection. -/
theorem Output.ofProjection_eq_ok {c : Corpus} {tier : String} {p : Projection} {output : Output}
    (h : ofProjection c tier p = .ok output) :
    ∃ items keys, p.items c tier = .ok items ∧
      p.orderBy.mapM (p.orderItem c tier (items.map fun item => item.2.columnName)) = .ok keys ∧
      output.nodes = items.flatMap (fun item => item.1) ++ keys.flatMap (fun key => key.1) ∧
      output.items = items.map (fun item => item.2) ∧
      output.orderBy = keys.map (fun key => key.2) := by
  simp only [ofProjection, bind_eq_ok, pure_eq_ok] at h
  obtain ⟨items, hi, keys, hk, rfl⟩ := h
  exact ⟨items, keys, hi, hk, rfl, rfl, rfl⟩

theorem Output.map_columnName {output : Output} {items : List (List Node × ReturnItem)}
    (h : output.items = items.map fun item => item.2) :
    output.items.map (·.columnName) = items.map fun item => item.2.columnName := by
  rw [h, List.map_map]
  rfl

/-- The nodes of an output are those that the shown paths refer to. -/
theorem Output.mem_nodes {c : Corpus} {tier : String} {p : Projection} {output : Output}
    (h : ofProjection c tier p = .ok output) {n : Node} :
    n ∈ output.nodes ↔
      ∃ path ∈ p.outputPaths (output.items.map (·.columnName)), c.Refers tier path n := by
  obtain ⟨items, keys, hi, hk, hnodes, hitems, -⟩ := ofProjection_eq_ok h
  rw [hnodes, map_columnName hitems, List.mem_append, List.mem_flatMap, List.mem_flatMap,
    Projection.mem_item_nodes hi, Projection.mem_orderItem_nodes hk]
  simp only [Projection.outputPaths, List.mem_append, or_and_right, exists_or]

/-! ## Plans -/

/-- Does the intent change the type node of the anchor? -/
def Intent.changesType : Intent → Prop
  | setProperties u => u.type ≠ []
  | setLabels u | removeLabels u => u.type ≠ []
  | project _ | delete | cache => False

namespace Query

/-- The paths whose values the rows of the query show, given the names of its result columns. -/
def outputPaths (q : Query) (columns : List String) : List Path :=
  match q.intent with
  | .project p => p.outputPaths columns
  | _ => []

end Query

namespace Corpus

variable {l : Listing} {c : Corpus} {q : Query} {p : Plan}

/-- The nodes without which a row is left out: the anchor, what the filters refer to, the type node
if it is changed, and all that these need. -/
inductive Requires (c : Corpus) (q : Query) : Node → Prop
  | anchor : Requires c q (.token (c.anchor q.tier))
  | filter {f : Filter} {n : Node} :
    f ∈ q.effectiveFilters → c.FilterRefers q.tier f n → Requires c q n
  | type : q.intent.changesType → Requires c q (.type (c.anchor q.tier))
  | dependency {n m : Node} : Requires c q n → n.dependency? = some m → Requires c q m

/-- The nodes that the output shows, and all that these need. -/
inductive Shows (c : Corpus) (q : Query) (columns : List String) : Node → Prop
  | output {path : Path} {n : Node} :
    path ∈ q.outputPaths columns → c.Refers q.tier path n → Shows c q columns n
  | dependency {n m : Node} :
    Shows c q columns n → n.dependency? = some m → Shows c q columns m

/-- Different nodes that a query binds have different aliases. -/
def DistinctAliases (c : Corpus) (q : Query) (columns : List String) : Prop :=
  ∀ m n, c.Requires q m ∨ c.Shows q columns m → c.Requires q n ∨ c.Shows q columns n →
    m.aliasName = n.aliasName → m = n

theorem Requires.needs {n m : Node} (h : c.Requires q n) (hn : n.Needs m) : c.Requires q m := by
  induction hn with
  | refl _ => exact h
  | step hd _ ih => exact ih (h.dependency hd)

theorem Shows.needs {columns : List String} {n m : Node} (h : c.Shows q columns n)
    (hn : n.Needs m) : c.Shows q columns m := by
  induction hn with
  | refl _ => exact h
  | step hd _ ih => exact ih (h.dependency hd)

theorem plan_eq_ok (h : c.plan l q = .ok p) :
    ∃ conditions demand, q.intent.mutationFault? = none ∧ c.hierarchy.hasTier q.tier = true ∧
      c.conditions q.tier q.effectiveFilters = .ok conditions ∧
      c.demand q.tier q.intent = .ok demand ∧ p = c.planOf l q conditions demand := by
  simp only [plan] at h
  split at h
  · cases h
  · rename_i hfault
    simp only [bind_eq_ok, pure_eq_ok] at h
    obtain ⟨t, ht, conditions, hc, demand, hd, rfl⟩ := h
    have hfault : q.intent.mutationFault? = none := Option.eq_none_iff_forall_ne_some.2 hfault
    exact ⟨conditions, demand, hfault, Hierarchy.hasTier_of_tier ht, hc, hd, rfl⟩

/-- What is checked for a plan, in this order: the mutation, the tier, the filters, the intent. -/
theorem plan_eq_error {e : QueryError} : c.plan l q = .error e ↔
    (∃ fault, q.intent.mutationFault? = some fault ∧ .invalidMutation fault = e) ∨
    q.intent.mutationFault? = none ∧ (c.hierarchy.tier q.tier = .error e ∨
      ∃ t, c.hierarchy.tier q.tier = .ok t ∧
        (c.conditions q.tier q.effectiveFilters = .error e ∨
          ∃ ks, c.conditions q.tier q.effectiveFilters = .ok ks ∧
            c.demand q.tier q.intent = .error e)) := by
  unfold plan
  cases hfault : q.intent.mutationFault? with
  | some fault =>
    show Except.error (QueryError.invalidMutation fault) = Except.error e ↔ _
    simp only [Except.error.injEq, Option.some.injEq, exists_eq_left', reduceCtorEq, false_and,
      or_false]
  | none =>
    simp only [bind_eq_error, pure_eq_error, reduceCtorEq, false_and, exists_false, false_or,
      true_and, and_false, or_false]

/-- The parts of a query make its plan. -/
theorem plan_of_parts {conditions : List Condition} {d : Demand}
    (hfault : q.intent.mutationFault? = none) (htier : c.hierarchy.hasTier q.tier = true)
    (hc : c.conditions q.tier q.effectiveFilters = .ok conditions)
    (hd : c.demand q.tier q.intent = .ok d) : c.plan l q = .ok (c.planOf l q conditions d) := by
  obtain ⟨t, ht⟩ := Hierarchy.exists_tier htier
  simp only [plan, hfault, ht, hc, hd]
  rfl

theorem demand_project {pr : Projection} {tier : String} {d : Demand}
    (h : c.demand tier (.project pr) = .ok d) :
    ∃ output, Output.ofProjection c tier pr = .ok output ∧
      d = ⟨[], output.nodes,
        .returning pr.distinct output.items output.orderBy pr.effectiveLimit⟩ := by
  simp only [demand, bind_eq_ok, pure_eq_ok] at h
  obtain ⟨output, ho, rfl⟩ := h
  exact ⟨output, ho, rfl⟩

/-- The demand of an intent: the type node if it is changed, and what the output shows. -/
theorem demand_eq_ok {d : Demand} (h : c.demand q.tier q.intent = .ok d) {n : Node} :
    (n ∈ d.required ↔ q.intent.changesType ∧ n = .type (c.anchor q.tier)) ∧
      (n ∈ d.wanted ↔ ∃ path ∈ q.outputPaths d.ending.columns, c.Refers q.tier path n) := by
  have htype : ∀ {α : Type} (updates : List α), n ∈ typeDemand (c.anchor q.tier) updates ↔
      updates ≠ [] ∧ n = .type (c.anchor q.tier) := by
    intro α updates
    cases updates <;> simp [typeDemand]
  unfold Query.outputPaths
  cases hi : q.intent with
  | project p =>
    rw [hi] at h
    obtain ⟨output, ho, rfl⟩ := demand_project h
    exact ⟨by simp [Intent.changesType], Output.mem_nodes ho⟩
  | setProperties u | setLabels u | removeLabels u =>
    rw [hi] at h
    obtain rfl := Except.ok.inj h
    exact ⟨htype u.type, by simp⟩
  | delete | cache =>
    rw [hi] at h
    obtain rfl := Except.ok.inj h
    exact ⟨by simp [Intent.changesType], by simp⟩

theorem hierarchy_plan (h : c.plan l q = .ok p) : p.hierarchy = c.hierarchy := by
  obtain ⟨conditions, d, -, -, -, -, rfl⟩ := plan_eq_ok h
  rfl

theorem anchor_plan (h : c.plan l q = .ok p) : p.anchor = c.anchor q.tier := by
  obtain ⟨conditions, d, -, -, -, -, rfl⟩ := plan_eq_ok h
  rfl

theorem conditions_plan (h : c.plan l q = .ok p) :
    ∃ conditions, c.conditions q.tier q.effectiveFilters = .ok conditions ∧
      p.conditions = conditions.map (·.expr) := by
  obtain ⟨conditions, d, -, -, hc, -, rfl⟩ := plan_eq_ok h
  exact ⟨conditions, hc, rfl⟩

theorem ending_plan (h : c.plan l q = .ok p) {i : Intent} (hi : q.intent = i) {d : Demand}
    (hd : c.demand q.tier i = .ok d) : p.ending = d.ending := by
  obtain ⟨conditions, d', -, -, -, hd', rfl⟩ := plan_eq_ok h
  rw [hi] at hd'
  obtain rfl := Except.ok.inj (hd.symm.trans hd')
  rfl

theorem ending_plan_project (h : c.plan l q = .ok p) {pr : Projection}
    (hi : q.intent = .project pr) :
    ∃ output, Output.ofProjection c q.tier pr = .ok output ∧
      p.ending = .returning pr.distinct output.items output.orderBy pr.effectiveLimit := by
  obtain ⟨conditions, d, -, -, -, hd, rfl⟩ := plan_eq_ok h
  rw [hi] at hd
  obtain ⟨output, ho, rfl⟩ := demand_project hd
  exact ⟨output, ho, rfl⟩

theorem hasTier_plan (h : c.plan l q = .ok p) : c.hierarchy.hasTier q.tier = true := by
  obtain ⟨conditions, d, -, htier, -⟩ := plan_eq_ok h
  exact htier

/-! ## The groups of a plan -/

theorem requires_iff {n : Node} :
    c.Requires q n ↔ ∃ m, m.Needs n ∧ (m = .token (c.anchor q.tier) ∨
      (∃ f ∈ q.effectiveFilters, c.FilterRefers q.tier f m) ∨
      q.intent.changesType ∧ m = .type (c.anchor q.tier)) := by
  constructor
  · intro h
    induction h with
    | anchor => exact ⟨_, .refl _, .inl rfl⟩
    | filter hf hn => exact ⟨_, .refl _, .inr (.inl ⟨_, hf, hn⟩)⟩
    | type ht => exact ⟨_, .refl _, .inr (.inr ⟨ht, rfl⟩)⟩
    | dependency _ hd ih =>
      obtain ⟨m, hm, hcases⟩ := ih
      exact ⟨m, hm.trans (.single hd), hcases⟩
  · rintro ⟨m, hm, rfl | ⟨f, hf, hn⟩ | ⟨ht, rfl⟩⟩
    · exact Requires.anchor.needs hm
    · exact (Requires.filter hf hn).needs hm
    · exact (Requires.type ht).needs hm

theorem shows_iff {columns : List String} {n : Node} :
    c.Shows q columns n ↔
      ∃ m, m.Needs n ∧ ∃ path ∈ q.outputPaths columns, c.Refers q.tier path m := by
  constructor
  · intro h
    induction h with
    | output hp hn => exact ⟨_, .refl _, _, hp, hn⟩
    | dependency _ hd ih =>
      obtain ⟨m, hm, hcases⟩ := ih
      exact ⟨m, hm.trans (.single hd), hcases⟩
  · rintro ⟨m, hm, path, hp, hn⟩
    exact (Shows.output hp hn).needs hm

/-- The required group of a plan consists of the nodes that the query requires. -/
theorem mem_required (h : c.plan l q = .ok p) {n : Node} : n ∈ p.required ↔ c.Requires q n := by
  obtain ⟨conditions, d, -, -, hc, hd, rfl⟩ := plan_eq_ok h
  have hfilter : ∀ m, (∃ k ∈ conditions, m ∈ k.nodes) ↔
      ∃ f ∈ q.effectiveFilters, c.FilterRefers q.tier f m := by
    intro m
    constructor
    · rintro ⟨k, hk, hm⟩
      obtain ⟨f, hf, heq⟩ := (mem_mapM hc).1 hk
      exact ⟨f, hf, (mem_condition_nodes heq).1 hm⟩
    · rintro ⟨f, hf, hm⟩
      obtain ⟨k, hk, heq⟩ := exists_mem_of_mapM hc hf
      exact ⟨k, hk, (mem_condition_nodes heq).2 hm⟩
  rw [requires_iff, planOf, Listing.mem_sorted, Collected.mem_required_ofNodes]
  refine exists_congr fun m => ?_
  rw [and_comm, List.cons_append, List.mem_cons, List.mem_append,
    List.mem_flatMap, hfilter, (demand_eq_ok hd).1]

/-- The optional group of a plan consists of what the output shows and the query does not
require. -/
theorem mem_optional (h : c.plan l q = .ok p) {n : Node} :
    n ∈ p.optional ↔ c.Shows q p.ending.columns n ∧ ¬c.Requires q n := by
  rw [← mem_required h]
  obtain ⟨conditions, d, -, -, hc, hd, rfl⟩ := plan_eq_ok h
  rw [shows_iff]
  simp only [planOf, Listing.mem_sorted, Collected.mem_optional_ofNodes, (demand_eq_ok hd).2,
    and_comm]

/-- The nodes of a plan are those that the query requires or shows. -/
theorem mem_bound (h : c.plan l q = .ok p) {n : Node} :
    n ∈ p.required ++ p.optional ↔ c.Requires q n ∨ c.Shows q p.ending.columns n := by
  rw [List.mem_append, mem_required h, mem_optional h]
  by_cases hreq : c.Requires q n <;> simp [hreq]

theorem closed_required (h : c.plan l q = .ok p) : Node.Closed p.required := by
  intro n hn m hm
  rw [mem_required h] at hn ⊢
  exact hn.dependency hm

/-- Everything that a bound node needs is bound. -/
theorem closed_bound (h : c.plan l q = .ok p) : Node.Closed (p.required ++ p.optional) := by
  intro n hn m hm
  rcases List.mem_append.1 hn with hn | hn
  · exact List.mem_append_left _ (closed_required h n hn m hm)
  · by_cases hreq : c.Requires q m
    · exact List.mem_append_left _ ((mem_required h).2 hreq)
    · have hshow := ((mem_optional h).1 hn).1
      exact List.mem_append_right _ ((mem_optional h).2 ⟨hshow.dependency hm, hreq⟩)

theorem sorted_plan (h : c.plan l q = .ok p) : Node.Sorted p.required ∧ Node.Sorted p.optional := by
  obtain ⟨conditions, d, -, -, -, -, rfl⟩ := plan_eq_ok h
  exact ⟨l.sorted_sorted _, l.sorted_sorted _⟩

/-- No node is in a plan twice. -/
theorem nodup_planOf (l : Listing) (c : Corpus) (q : Query) (conditions : List Condition)
    (d : Demand) : ((c.planOf l q conditions d).required ++
      (c.planOf l q conditions d).optional).Nodup :=
  ((l.sorted_perm _).append (l.sorted_perm _)).nodup_iff.2 (Collected.sound_ofNodes _ _).nodup

theorem nodup_bound (h : c.plan l q = .ok p) : (p.required ++ p.optional).Nodup := by
  obtain ⟨conditions, d, -, -, -, -, rfl⟩ := plan_eq_ok h
  exact nodup_planOf l c q conditions d

end Corpus

/-- The plans differ in the order of their nodes only. -/
structure Plan.Reorders (p p' : Plan) : Prop where
  hierarchy_eq : p'.hierarchy = p.hierarchy
  anchor_eq : p'.anchor = p.anchor
  conditions_eq : p'.conditions = p.conditions
  ending_eq : p'.ending = p.ending
  required : p.required.Perm p'.required
  optional : p.optional.Perm p'.optional

namespace Corpus

variable {l : Listing} {c : Corpus} {q : Query} {p : Plan}

/-- However sets of nodes are listed, a query has the same plan up to the order of nodes. -/
theorem plan_reorders (h : c.plan l q = .ok p) (l' : Listing) :
    ∃ p', c.plan l' q = .ok p' ∧ p.Reorders p' := by
  obtain ⟨conditions, d, hfault, htier, hc, hd, rfl⟩ := plan_eq_ok h
  exact ⟨_, plan_of_parts hfault htier hc hd, {
    hierarchy_eq := rfl
    anchor_eq := rfl
    conditions_eq := rfl
    ending_eq := rfl
    required := (l.sorted_perm _).trans (l'.sorted_perm _).symm
    optional := (l.sorted_perm _).trans (l'.sorted_perm _).symm }⟩

/-- When different nodes have different aliases, it does not matter how sets of nodes are listed. -/
theorem plan_eq_of_distinct (h : c.plan l q = .ok p)
    (hdistinct : c.DistinctAliases q p.ending.columns) (l' : Listing) : c.plan l' q = .ok p := by
  obtain ⟨p', h', hreorders⟩ := plan_reorders h l'
  have hrequired : p.required = p'.required := by
    refine (sorted_plan h).1.eq_of_perm (sorted_plan h').1 hreorders.required fun m hm n hn => ?_
    rw [mem_required h] at hm hn
    exact hdistinct m n (.inl hm) (.inl hn)
  have hoptional : p.optional = p'.optional := by
    refine (sorted_plan h).2.eq_of_perm (sorted_plan h').2 hreorders.optional fun m hm n hn => ?_
    rw [mem_optional h] at hm hn
    exact hdistinct m n (.inr hm.1) (.inr hn.1)
  rw [h', Plan.ext hreorders.hierarchy_eq hreorders.anchor_eq hrequired.symm hoptional.symm
    hreorders.conditions_eq hreorders.ending_eq]

theorem distinctAliases_of_nodup (h : c.plan l q = .ok p)
    (hn : ((p.required ++ p.optional).map Node.aliasName).Nodup) :
    c.DistinctAliases q p.ending.columns := fun _ _ hm hk =>
  List.inj_on_of_nodup_map hn ((mem_bound h).2 hm) ((mem_bound h).2 hk)

/-! ## References of a plan -/

theorem climbs_dependency {tier : String} {n m : Node} (hn : n.reference.Climbs c.hierarchy tier)
    (h : n.dependency? = some m) : m.reference.Climbs c.hierarchy tier := by
  cases n with
  | token r =>
    rw [Node.dependency?_token] at h
    obtain ⟨q, hq, rfl⟩ := Option.map_eq_some_iff.1 h
    split at hq
    · exact (Reference.Climbs.enclosing hn hq).1
    · obtain rfl := Option.some.inj hq
      exact Reference.Climbs.withOffset hn .zero
  | type r | entity kind r | attached r name =>
    obtain rfl := Option.some.inj h
    exact hn

theorem Requires.climbs {n : Node} (h : c.Requires q n) :
    n.reference.Climbs c.hierarchy q.tier := by
  induction h with
  | anchor | type _ => exact .root .zero
  | filter _ hn => exact hn.climbs
  | dependency _ hd ih => exact climbs_dependency ih hd

theorem Shows.climbs {columns : List String} {n : Node} (h : c.Shows q columns n) :
    n.reference.Climbs c.hierarchy q.tier := by
  induction h with
  | output _ hn => exact hn.climbs
  | dependency _ hd ih => exact climbs_dependency ih hd

/-- A corpus of words, syllables and phones. -/
def small : Corpus :=
  ⟨⟨"small", [.bare "word", .bare "syllable", .bare "phone"], [], []⟩, .default⟩

end Corpus

end AnnotationQuery
