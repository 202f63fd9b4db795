import AnnotationQuery.Proofs.Relisting
import AnnotationQuery.Proofs.Substitution

/-!
# Literals in place and as parameters

Whether literals are passed as parameters has no part in planning a query, so the two ways to
compile it fail alike. A plan refers to no parameters; lifting gives it parameters with consecutive
numbers, first those of the conditions and then those of the properties that are set.

Results:
* `Corpus.plan_withParameterize`: the plan is the same either way.
* `Corpus.endingClauses_cases`, `Corpus.parameterNames_plan`: a plan refers to no parameters.
* `Statement.Stages.conditions_eq`, `Plan.conditions_filterClauses`: the conditions of a statement
  and of a plan.
* `Corpus.compile_parameterize`: the statement with parameters becomes the one without when they are
  replaced by their values.
-/

namespace AnnotationQuery

/-! ## The configuration -/

namespace Path

variable {config config' : Config}

/-- Of the configuration only the pause tier matters to a path. -/
theorem resolveFrom_congr (h : Hierarchy) (hpause : config.pauseTier = config'.pauseTier)
    (r : Reference) (steps : List String) :
    resolveFrom h config r steps = resolveFrom h config' r steps := by
  have hfault : moveFault? config = moveFault? config' := by
    funext r axis
    cases axis <;> simp only [moveFault?, hpause]
  induction steps generalizing r with
  | nil => rfl
  | cons step rest ih => simp only [resolveFrom, hfault, ih]

theorem resolve_congr (h : Hierarchy) (hpause : config.pauseTier = config'.pauseTier)
    (tier : String) (path : Path) : path.resolve h config tier = path.resolve h config' tier := by
  simp only [resolve, resolveFrom_congr h hpause]

end Path

namespace Corpus

variable {c : Corpus} {b : Bool} {tier : String}

/-- The corpus with literals passed as parameters or left in place. -/
def withParameterize (c : Corpus) (b : Bool) : Corpus :=
  { c with config := { c.config with parameterize := b } }

theorem resolve_withParameterize : (c.withParameterize b).resolve = c.resolve := by
  have hpause : (c.withParameterize b).config.pauseTier = c.config.pauseTier := rfl
  funext tier path
  exact Path.resolve_congr c.hierarchy hpause tier path

theorem condition_withParameterize : (c.withParameterize b).condition = c.condition := by
  funext tier f
  simp only [condition, writeCondition, resolve_withParameterize]
  rfl

theorem outputTerm_withParameterize : (c.withParameterize b).outputTerm = c.outputTerm := by
  funext tier path
  simp only [outputTerm, resolve_withParameterize]
  rfl

theorem outputExpr_withParameterize : (c.withParameterize b).outputExpr = c.outputExpr := by
  funext tier path
  simp only [outputExpr, outputTerm_withParameterize]

theorem ofProjection_withParameterize (p : Projection) :
    Output.ofProjection (c.withParameterize b) tier p = Output.ofProjection c tier p := by
  have hcolumn : (c.withParameterize b).columnItem tier = c.columnItem tier := by
    funext column
    simp only [columnItem, outputExpr_withParameterize]
  have haggregate : (c.withParameterize b).aggregateItem tier = c.aggregateItem tier := by
    funext aggregate
    simp only [aggregateItem, outputExpr_withParameterize]
    rfl
  have horder : p.orderExpr (c.withParameterize b) tier = p.orderExpr c tier := by
    funext columns key
    simp only [Projection.orderExpr, outputExpr_withParameterize]
  simp only [Output.ofProjection, Projection.items, hcolumn, haggregate, horder]
  rfl

theorem demand_withParameterize (i : Intent) :
    (c.withParameterize b).demand tier i = c.demand tier i := by
  cases i with
  | project p => simp only [demand, ofProjection_withParameterize]
  | setProperties _ | setLabels _ | removeLabels _ | delete | cache => rfl

/-- The plan of a query does not depend on whether literals become parameters. -/
theorem plan_withParameterize {l : Listing} (q : Query) :
    (c.withParameterize b).plan l q = c.plan l q := by
  simp only [plan, conditions, condition_withParameterize, demand_withParameterize]
  rfl

end Corpus

/-! ## Expressions of a plan -/

theorem Expr.parameterNames_comparison (left : Expr) (operator : Operator) (right : Expr) :
    (comparison left operator right).parameterNames =
      left.parameterNames ++ right.parameterNames := by
  cases operator <;> rfl

theorem Expr.parameterNames_call (function : String) (e : Expr) :
    (call function [e]).parameterNames = e.parameterNames := by
  simp [parameterNames, parameterNamesAll]

theorem Resolved.parameterNames_term {resolved : Resolved} {term : Term}
    (h : resolved.term = .ok term) : term.expr.parameterNames = [] := by
  cases resolved with
  | attached r name p =>
    cases p <;> rw [← Except.ok.inj h] <;> rfl
  | subset r | collected r _ _ => cases h
  | node r | property r p | duration r | entity _ r _ =>
    rw [← Except.ok.inj h]
    rfl

theorem Term.parameterNames_collected (levels : Nat) (r : Reference) (tier : String)
    (leaf : CollectedLeaf) : (collected levels r tier leaf).expr.parameterNames = [] := by
  cases leaf with
  | duration => rfl
  | property p =>
    simp only [collected]
    split <;> rfl

theorem Condition.parameterNames_ofTerms {left right : Term} (operator : Operator)
    (hl : left.expr.parameterNames = []) (hr : right.expr.parameterNames = []) :
    (ofTerms left operator right).expr.parameterNames = [] := by
  unfold ofTerms
  split
  · simp only
    split <;> rw [Expr.parameterNames_comparison, hl, hr] <;> rfl
  · rw [Expr.parameterNames_comparison, hl, hr]
    rfl

theorem Condition.parameterNames_ofValue {term : Term} (operator : Operator) (value : Value)
    (h : term.expr.parameterNames = []) :
    (ofValue term operator value).expr.parameterNames = [] := by
  rcases Condition.ofValue_cases term operator value with ⟨negated, heq⟩ | heq
  · rw [heq]
    exact h
  · rw [heq, Expr.parameterNames_comparison, h]
    rfl

namespace Corpus

variable {c : Corpus} {tier : String}

theorem parameterNames_filterTerm {path : Path} {term : Term}
    (h : c.filterTerm tier path = .ok term) : term.expr.parameterNames = [] := by
  obtain ⟨resolved, -, ht⟩ := filterTerm_eq_ok.1 h
  exact Resolved.parameterNames_term ht

theorem parameterNames_outputTerm {path : Path} {term : Term}
    (h : c.outputTerm tier path = .ok term) : term.expr.parameterNames = [] := by
  obtain ⟨resolved, -, ht⟩ := outputTerm_eq_ok.1 h
  rcases Resolved.outputTerm_eq_ok ht with ht | ⟨r, tier, leaf, rfl, rfl⟩
  · exact Resolved.parameterNames_term ht
  · exact Term.parameterNames_collected _ r tier leaf

theorem parameterNames_condition {f : Filter} {k : Condition} (h : c.condition tier f = .ok k) :
    k.expr.parameterNames = [] := by
  cases condition_eq_ok h with
  | terms _ hl hr =>
    exact Condition.parameterNames_ofTerms _ (parameterNames_filterTerm hl)
      (parameterNames_filterTerm hr)
  | value _ hl => exact Condition.parameterNames_ofValue _ _ (parameterNames_filterTerm hl)
  | subset _ _ _ he => rcases he with rfl | rfl <;> rfl

end Corpus

namespace Output

variable {c : Corpus} {tier : String} {p : Projection} {output : Output}

theorem parameterNames_items (h : ofProjection c tier p = .ok output) {i : ReturnItem}
    (hi : i ∈ output.items) : i.expr.parameterNames = [] := by
  obtain ⟨items, keys, hitems, -, -, heq, -⟩ := ofProjection_eq_ok h
  rw [heq] at hi
  obtain ⟨item, hitem, rfl⟩ := List.mem_map.1 hi
  cases Projection.itemOf_items hitems hitem with
  | anchor | callAnchor => rfl
  | value ht => exact Corpus.parameterNames_outputTerm ht
  | call ht => rw [Expr.parameterNames_call, Corpus.parameterNames_outputTerm ht]

theorem parameterNames_orderBy (h : ofProjection c tier p = .ok output) {o : OrderItem}
    (ho : o ∈ output.orderBy) : o.expr.parameterNames = [] := by
  obtain ⟨items, keys, -, hkeys, -, -, heq⟩ := ofProjection_eq_ok h
  rw [heq] at ho
  obtain ⟨item, hitem, rfl⟩ := List.mem_map.1 ho
  obtain ⟨key, -, hkey⟩ := (mem_mapM hkeys).1 hitem
  rcases Projection.orderItem_eq_ok hkey with ⟨name, -, rfl⟩ | ⟨-, term, ht, rfl⟩
  · rfl
  · exact Corpus.parameterNames_outputTerm ht

end Output

theorem Clause.parameterNames_returning {distinct : Bool} {items : List ReturnItem}
    {orderBy : List OrderItem} {limit : Option Nat} (hi : ∀ i ∈ items, i.expr.parameterNames = [])
    (ho : ∀ o ∈ orderBy, o.expr.parameterNames = []) :
    (returning distinct items orderBy limit).parameterNames = [] :=
  List.append_eq_nil_iff.2 ⟨List.flatMap_eq_nil_iff.2 hi, List.flatMap_eq_nil_iff.2 ho⟩

/-! ## Clauses of a plan -/

namespace Corpus

variable {l : Listing} {c : Corpus} {q : Query} {p : Plan}

/-- The last clauses refer to no parameters, and only those that set something hold literals. -/
theorem endingClauses_cases (h : c.plan l q = .ok p) {k : Clause} (hk : k ∈ p.endingClauses) :
    (k.Plain ∧ k.parameterNames = []) ∨
      ∃ items, k = .setting items ∧ ∀ i ∈ items, i.parameterNames = [] := by
  have hplain : ∀ k : Clause, (∃ aliases, k = .carrying aliases) ∨ (∃ items, k = .removing items) ∨
      (∃ detach aliases, k = .deleting detach aliases) → k.Plain ∧ k.parameterNames = [] := by
    rintro k (⟨_, rfl⟩ | ⟨_, rfl⟩ | ⟨_, _, rfl⟩) <;> exact ⟨fun _ => rfl, rfl⟩
  cases hi : q.intent with
  | project pr =>
    obtain ⟨output, ho, hending⟩ := ending_plan_project h hi
    rw [Plan.endingClauses, hending] at hk
    rw [List.mem_singleton.1 hk]
    exact .inl ⟨Clause.plain_returning (fun i => Output.plain_items ho) fun o =>
      Output.plain_orderBy ho, Clause.parameterNames_returning
        (fun i => Output.parameterNames_items ho) fun o => Output.parameterNames_orderBy ho⟩
  | setProperties u =>
    have hset : ∀ i ∈ u.setItems (c.anchor q.tier), i.parameterNames = [] := by
      intro i hmem
      obtain ⟨e, -, key, value, rfl⟩ := PropertyUpdates.mem_setItems hmem
      rfl
    rcases Plan.endingClauses_properties (ending_plan h hi rfl) with heq | heq | heq <;>
      simp only [heq, List.mem_cons, List.not_mem_nil, or_false] at hk
    · exact .inr ⟨_, hk, hset⟩
    · exact .inl (hplain k (.inr (.inl ⟨_, hk⟩)))
    · rcases hk with hk | hk | hk
      · exact .inr ⟨_, hk, hset⟩
      · exact .inl (hplain k (.inl ⟨_, hk⟩))
      · exact .inl (hplain k (.inr (.inl ⟨_, hk⟩)))
  | setLabels u =>
    rw [Plan.endingClauses, ending_plan h hi rfl] at hk
    refine .inr ⟨_, List.mem_singleton.1 hk, fun i hmem => ?_⟩
    obtain ⟨label, -, rfl⟩ := List.mem_map.1 hmem
    rfl
  | removeLabels u =>
    rw [Plan.endingClauses, ending_plan h hi rfl] at hk
    exact .inl (hplain k (.inr (.inl ⟨_, List.mem_singleton.1 hk⟩)))
  | delete =>
    rw [Plan.endingClauses, ending_plan h hi rfl] at hk
    exact .inl (hplain k (.inr (.inr ⟨_, _, List.mem_singleton.1 hk⟩)))
  | cache =>
    rw [Plan.endingClauses, ending_plan h hi rfl] at hk
    exact .inl (hplain k (.inl ⟨_, List.mem_singleton.1 hk⟩))

theorem parameterNames_conditions (h : c.plan l q = .ok p) {e : Expr} (he : e ∈ p.conditions) :
    e.parameterNames = [] := by
  obtain ⟨conditions, hc, heq⟩ := conditions_plan h
  rw [heq] at he
  obtain ⟨k, hk, rfl⟩ := List.mem_map.1 he
  obtain ⟨f, -, hf⟩ := (mem_mapM hc).1 hk
  exact parameterNames_condition hf

/-- The clauses of a plan refer to no parameters. -/
theorem parameterNames_plan (h : c.plan l q = .ok p) : ∀ k ∈ p.clauses, k.parameterNames = [] := by
  intro k hk
  rw [p.clauses_eq] at hk
  simp only [List.mem_cons, List.mem_append] at hk
  rcases hk with rfl | ((hk | hk) | hk) | hk
  · rfl
  · rw [Plan.mem_filterClauses hk]
    exact List.flatMap_eq_nil_iff.2 fun e he => parameterNames_conditions h he
  · obtain ⟨aliases, rfl⟩ := Plan.mem_carryingClauses hk
    rfl
  · obtain ⟨pattern, rfl⟩ := Plan.mem_optionalClauses hk
    rfl
  · rcases endingClauses_cases h hk with ⟨-, hnames⟩ | ⟨items, rfl, hitems⟩
    · exact hnames
    · exact List.flatMap_eq_nil_iff.2 hitems

end Corpus

/-! ## What a statement refers to -/

namespace Clause

/-- The conditions of a clause. -/
def conditions : Clause → List Expr
  | filtering conditions => conditions
  | _ => []

/-- What a clause sets. -/
def setItems : Clause → List SetItem
  | setting items => items
  | _ => []

theorem conditions_substitute (f : String → Expr) (k : Clause) :
    (k.substitute f).conditions = k.conditions.map (Expr.substitute f) := by
  cases k <;> rfl

end Clause

namespace Statement

/-- The conditions that the rows of a statement have to fulfil. -/
def conditions (s : Statement) : List Expr :=
  s.clauses.flatMap Clause.conditions

/-- What a statement sets. -/
def setItems (s : Statement) : List SetItem :=
  s.clauses.flatMap Clause.setItems

theorem conditions_substitute (f : String → Expr) (s : Statement) :
    (s.substitute f).conditions = s.conditions.map (Expr.substitute f) := by
  simp only [conditions, substitute, List.flatMap_map, List.map_flatMap,
    Clause.conditions_substitute]

end Statement

/-- The literal that a parameter stands for. -/
def Parameters.literalOf (parameters : Parameters) (name : String) : Expr :=
  match parameters.lookup name with
  | some v => .literal v
  | none => .parameter name

/-- The names `p0` to `p(n-1)`. -/
def Parameters.firstNames (n : Nat) : List String :=
  (List.range n).map nameOf

/-- The statement with its parameters replaced by their values. -/
def CompiledStatement.inlined (s : CompiledStatement) : Statement :=
  s.statement.substitute s.parameters.literalOf

namespace Statement

variable {s : Statement}

/-- Lifting gives each parameter its place from left to right. -/
theorem parameterNames_lift (h : ∀ k ∈ s.clauses, k.parameterNames = []) :
    s.lift.1.parameterNames = Parameters.firstNames s.lift.2.length := by
  have hnames := (Clause.lawful_each h).names 0
  rw [← List.range_eq_range'] at hnames
  exact hnames

/-- Replacing the parameters by the lifted values undoes lifting. -/
theorem substitute_lift (h : ∀ k ∈ s.clauses, k.parameterNames = []) :
    s.lift.1.substitute (Parameters.ofValues s.lift.2).literalOf = s := by
  have hliteral : ∀ i v, s.lift.2[i]? = some v →
      (Parameters.ofValues s.lift.2).literalOf (Parameters.nameOf (0 + i)) = .literal v := by
    intro i v hi
    rw [Nat.zero_add, Parameters.literalOf, Parameters.lookup_ofValues hi]
  have hclauses := (Clause.lawful_each h).inlines 0 _ hliteral
  exact congrArg Statement.mk hclauses

end Statement

namespace Statement.Stages

variable {s : Statement} {required optional : List PathPattern}
  {filters carried ending : List Clause}

/-- What patterns and carried aliases have no part in comes from the conditions and the last
clauses. -/
theorem flatMap_clauses {β : Type} (h : s.Stages required filters carried optional ending)
    (f : Clause → List β) (hmatching : ∀ patterns, f (.matching patterns) = [])
    (hoptional : ∀ patterns, f (.optionalMatching patterns) = [])
    (hcarrying : ∀ aliases, f (.carrying aliases) = []) :
    s.clauses.flatMap f = filters.flatMap f ++ ending.flatMap f := by
  have hcarried : carried.flatMap f = [] := by
    rw [List.flatMap_eq_nil_iff]
    intro k hk
    obtain ⟨aliases, rfl⟩ := h.carried_eq k hk
    exact hcarrying aliases
  have hnone : (optional.map fun p => Clause.optionalMatching [p]).flatMap f = [] := by
    rw [List.flatMap_map, List.flatMap_eq_nil_iff]
    exact fun p _ => hoptional [p]
  rw [h.clauses_eq, List.flatMap_cons, List.flatMap_append, List.flatMap_append,
    List.flatMap_append, hmatching, hcarried, hnone]
  simp

/-- The conditions of a statement are those behind `WHERE`. -/
theorem conditions_eq (h : s.Stages required filters carried optional ending) :
    s.conditions = filters.flatMap Clause.conditions := by
  have hending : ending.flatMap Clause.conditions = [] := by
    rw [List.flatMap_eq_nil_iff]
    intro k hk
    cases k with
    | filtering _ => exact (h.ending_final _ hk).elim
    | _ => rfl
  have hclauses := h.flatMap_clauses Clause.conditions (fun _ => rfl) (fun _ => rfl) fun _ => rfl
  rw [hending, List.append_nil] at hclauses
  exact hclauses

/-- What a statement sets stands in the last clauses. -/
theorem setItems_eq (h : s.Stages required filters carried optional ending) :
    s.setItems = ending.flatMap Clause.setItems := by
  have hfilters : filters.flatMap Clause.setItems = [] := by
    rw [List.flatMap_eq_nil_iff]
    intro k hk
    obtain ⟨conditions, rfl⟩ := h.filters_eq k hk
    rfl
  have hclauses := h.flatMap_clauses Clause.setItems (fun _ => rfl) (fun _ => rfl) fun _ => rfl
  rw [hfilters, List.nil_append] at hclauses
  exact hclauses

/-- The parameters of the conditions come first, then those of the last clauses. -/
theorem parameterNames_eq (h : s.Stages required filters carried optional ending) :
    s.parameterNames = s.conditions.flatMap Expr.parameterNames ++
      ending.flatMap Clause.parameterNames := by
  have hfilters : filters.flatMap Clause.parameterNames =
      (filters.flatMap Clause.conditions).flatMap Expr.parameterNames := by
    rw [List.flatMap_assoc]
    refine List.flatMap_congr fun k hk => ?_
    obtain ⟨conditions, rfl⟩ := h.filters_eq k hk
    rfl
  rw [h.conditions_eq, ← hfilters]
  exact h.flatMap_clauses Clause.parameterNames (fun _ => rfl) (fun _ => rfl) fun _ => rfl

end Statement.Stages

theorem Plan.conditions_filterClauses (p : Plan) :
    p.filterClauses.flatMap Clause.conditions = p.conditions := by
  unfold filterClauses
  split
  · rename_i hempty
    exact (List.isEmpty_iff.1 hempty).symm
  · simp [Clause.conditions]

/-! ## The two ways to compile -/

namespace Corpus

variable {l : Listing} {c : Corpus} {q : Query} {p : Plan}

theorem compile_inPlace (h : c.plan l q = .ok p) :
    (c.withParameterize false).compileIn l q =
      .ok ⟨p.statement, [], p.ending.columns, p.ending.mode⟩ := by
  rw [compileIn_eq, plan_withParameterize, h]
  simp [withParameterize, Except.map, lifted, Plan.statement, Parameters.ofValues]

theorem compile_asParameters (h : c.plan l q = .ok p) :
    (c.withParameterize true).compileIn l q = .ok ⟨p.statement.lift.1,
      .ofValues p.statement.lift.2, p.ending.columns, p.ending.mode⟩ := by
  rw [compileIn_eq, plan_withParameterize, h]
  rfl

/-- In the last clauses only what is set has parameters. -/
theorem parameterNames_endingClauses (h : c.plan l q = .ok p) (n : Nat) :
    (c.lifted n p.endingClauses).1.flatMap Clause.parameterNames =
      ((c.lifted n p.endingClauses).1.flatMap Clause.setItems).flatMap SetItem.parameterNames := by
  rw [List.flatMap_assoc]
  refine List.flatMap_congr fun k' hk' => ?_
  obtain ⟨k, hk, hlift⟩ := exists_left_of_forall₂ (forall₂_lifted n p.endingClauses) hk'
  rcases endingClauses_cases h hk with ⟨hplain, hnames⟩ | ⟨items, rfl, -⟩
  · obtain rfl : k' = k := by
      rcases hlift with heq | ⟨m, heq⟩
      · exact heq
      · rw [heq, hplain m]
    cases k' with
    | setting _ => rfl
    | _ => exact hnames
  · rcases hlift with rfl | ⟨m, rfl⟩ <;> rfl

end Corpus

end AnnotationQuery
