import AnnotationQuery.Proofs.Records
import AnnotationQuery.Proofs.WellScoped

/-!
# The rows of a projection

The statement of a projection without aggregates, `DISTINCT`, order and limit is one that lists
rows. What its `WITH` forgets occurs in no later clause, so its rows are those without the `WITH`:
the returned items of the records that satisfy the `MATCH` and the `WHERE`, after the optional
matches.

Results:
* `Expr.occurring_of_scoped`: the aliases that occur in a scoped expression.
* `Corpus.lists_compile`: the statement of such a projection.
* `Corpus.rows_plan`: its rows.
-/

namespace AnnotationQuery

/-! ## Expressions -/

mutual

/-- What occurs in a scoped expression is in scope, or a list comprehension introduces it. -/
theorem Expr.occurring_of_scoped {scope : List String} {a : String} :
    ∀ {e : Expr}, e.Scoped scope → a ∈ e.occurring →
      a ∈ scope ∨ a ∈ e.patterns.flatMap PathPattern.introducedAliases
  | .node _, h, ha | .property _ _, h, ha | .duration _, h, ha | .hasLabel _ _, h, ha => by
    rw [List.mem_singleton.1 ha]
    exact .inl h
  | .compare left _ right, h, ha => by
    simp only [patterns, List.flatMap_append, List.mem_append]
    rcases List.mem_append.1 ha with ha | ha
    · exact (occurring_of_scoped h.1 ha).imp_right .inl
    · exact (occurring_of_scoped h.2 ha).imp_right .inr
  | .isNull e _, h, ha | .negation e, h, ha => occurring_of_scoped (e := e) h ha
  | .call _ _, h, ha => occurringAll_of_scoped h ha
  | .collect pattern item, h, ha => by
    simp only [patterns, List.flatMap_cons, List.mem_append]
    rcases List.mem_append.1 ha with ha | ha
    · exact (h.1.mem_aliases ha).imp_right .inl
    · rcases occurring_of_scoped h.2 ha with ha | ha
      · exact (List.mem_append.1 ha).imp_right .inl
      · exact .inr (.inr ha)

theorem Expr.occurringAll_of_scoped {scope : List String} {a : String} :
    ∀ {es : List Expr}, Expr.ScopedAll scope es → a ∈ Expr.occurringAll es →
      a ∈ scope ∨ a ∈ (Expr.patternsAll es).flatMap PathPattern.introducedAliases
  | _ :: _, h, ha => by
    simp only [patternsAll, List.flatMap_append, List.mem_append]
    rcases List.mem_append.1 ha with ha | ha
    · exact (occurring_of_scoped h.1 ha).imp_right .inl
    · exact (occurringAll_of_scoped h.2 ha).imp_right .inr

end

theorem Expr.single_comparison {left right : Expr} (operator : Operator) (hl : left.Single)
    (hr : right.Single) : (comparison left operator right).Single := by
  cases operator <;> exact ⟨hl, hr⟩

theorem Term.single_collected (levels : Nat) (r : Reference) (tier : String)
    (leaf : CollectedLeaf) : (collected levels r tier leaf).expr.Single := by
  cases leaf with
  | duration => trivial
  | property p =>
    simp only [collected]
    split <;> trivial

theorem Resolved.single_term {resolved : Resolved} {term : Term} (h : resolved.term = .ok term) :
    term.expr.Single := by
  cases resolved with
  | attached r name p => cases p <;> rw [← Except.ok.inj h] <;> trivial
  | subset r | collected r _ _ => cases h
  | node r | property r p | duration r | entity _ r _ =>
    rw [← Except.ok.inj h]
    trivial

namespace Corpus

variable {l : Listing} {c : Corpus} {tier : String}

theorem single_filterTerm {path : Path} {term : Term} (h : c.filterTerm tier path = .ok term) :
    term.expr.Single := by
  obtain ⟨resolved, -, ht⟩ := filterTerm_eq_ok.1 h
  exact Resolved.single_term ht

theorem single_outputTerm {path : Path} {term : Term} (h : c.outputTerm tier path = .ok term) :
    term.expr.Single := by
  obtain ⟨resolved, -, ht⟩ := outputTerm_eq_ok.1 h
  rcases Resolved.outputTerm_eq_ok ht with ht | ⟨r, tier, leaf, rfl, rfl⟩
  · exact Resolved.single_term ht
  · exact Term.single_collected _ r tier leaf

theorem single_condition {f : Filter} {k : Condition} (h : c.condition tier f = .ok k) :
    k.expr.Single := by
  cases condition_eq_ok h with
  | terms _ hl hr =>
    have hleft := single_filterTerm hl
    have hright := single_filterTerm hr
    unfold Condition.ofTerms
    split
    · simp only
      split <;> exact Expr.single_comparison _ ‹_› ‹_›
    · exact Expr.single_comparison _ hleft hright
  | value _ hl =>
    have hleft := single_filterTerm hl
    rcases Condition.ofValue_cases _ _ _ with ⟨negated, heq⟩ | heq
    · rw [heq]
      exact hleft
    · rw [heq]
      exact Expr.single_comparison _ hleft trivial
  | subset _ _ _ he => rcases he with rfl | rfl <;> trivial

end Corpus

/-! ## Projections that list rows -/

/-- The projection leaves out no row, and neither sorts nor groups them. -/
structure Projection.Unrestricted (p : Projection) : Prop where
  aggregates : p.aggregates = []
  distinct : p.distinct = false
  orderBy : p.orderBy = []
  limit : p.limit = none

namespace Projection.Unrestricted

variable {l : Listing} {c : Corpus} {tier : String} {p : Projection} {output : Output}

theorem single_items (hp : p.Unrestricted) (h : Output.ofProjection c tier p = .ok output)
    {i : ReturnItem} (hi : i ∈ output.items) : i.expr.Single := by
  obtain ⟨items, keys, hitems, -, -, heq, -⟩ := Output.ofProjection_eq_ok h
  obtain ⟨columns, aggregates, hcolumns, haggregates, hcases⟩ := items_eq_ok hitems
  rw [hp.aggregates] at haggregates
  obtain rfl : [] = aggregates := Except.ok.inj haggregates
  rw [heq] at hi
  obtain ⟨item, hitem, rfl⟩ := List.mem_map.1 hi
  rw [List.append_nil] at hcases
  rcases hcases with ⟨-, rfl⟩ | rfl
  · rw [List.mem_singleton.1 hitem]
    trivial
  · obtain ⟨column, -, hcolumn⟩ := (mem_mapM hcolumns).1 hitem
    obtain ⟨term, ht, rfl⟩ := Corpus.columnItem_eq_ok hcolumn
    exact Corpus.single_outputTerm ht

theorem orderBy_output (hp : p.Unrestricted) (h : Output.ofProjection c tier p = .ok output) :
    output.orderBy = [] := by
  obtain ⟨items, keys, -, hkeys, -, -, heq⟩ := Output.ofProjection_eq_ok h
  rw [hp.orderBy] at hkeys
  obtain rfl : [] = keys := Except.ok.inj hkeys
  exact heq

theorem effectiveLimit_eq (hp : p.Unrestricted) : p.effectiveLimit = none := by
  unfold effectiveLimit
  rw [hp.limit, ite_self]

end Projection.Unrestricted

/-! ## Plans of projections -/

namespace Plan

/-- The clauses in front of the last ones. -/
def body (p : Plan) : List Clause :=
  .matching (p.required.patterns p.hierarchy p.required) ::
    (p.filterClauses ++ p.carryingClauses ++ p.optionalClauses)

variable {p : Plan}

theorem finds_body {k : Clause} (hk : k ∈ p.body) : k.Finds := by
  simp only [body, List.mem_cons, List.mem_append] at hk
  rcases hk with rfl | (hk | hk) | hk
  · trivial
  · rw [mem_filterClauses hk]
    trivial
  · obtain ⟨aliases, rfl⟩ := mem_carryingClauses hk
    trivial
  · obtain ⟨pattern, rfl⟩ := mem_optionalClauses hk
    trivial

theorem clauses_eq_body (p : Plan) : p.clauses = p.body ++ p.endingClauses :=
  p.clauses_eq

/-- The clauses in front of the last ones introduce all aliases. -/
theorem introducedAliases_body (p : Plan) :
    p.body.flatMap Clause.introducedAliases = p.aliases := by
  have hending : p.endingClauses.flatMap Clause.introducedAliases = [] := by
    rw [List.flatMap_eq_nil_iff]
    intro k hk
    have hfinal := final_endingClauses hk
    cases k <;> first | rfl | cases hfinal
  have hclauses := Corpus.introducedAliases_clauses p
  rwa [p.clauses_eq_body, List.flatMap_append, hending, List.append_nil] at hclauses

theorem mem_conditions_body {k : Clause} (hk : k ∈ p.body) {e : Expr} (he : e ∈ k.conditions) :
    e ∈ p.conditions := by
  simp only [body, List.mem_cons, List.mem_append] at hk
  rcases hk with rfl | (hk | hk) | hk
  · cases he
  · rwa [mem_filterClauses hk] at he
  · obtain ⟨aliases, rfl⟩ := mem_carryingClauses hk
    cases he
  · obtain ⟨pattern, rfl⟩ := mem_optionalClauses hk
    cases he

end Plan

namespace Corpus

variable {l : Listing} {c : Corpus} {q : Query} {p : Plan} {pr : Projection}

theorem single_conditions (hp : c.plan l q = .ok p) {e : Expr} (he : e ∈ p.conditions) :
    e.Single := by
  obtain ⟨conditions, hc, heq⟩ := conditions_plan hp
  rw [heq] at he
  obtain ⟨k, hk, rfl⟩ := List.mem_map.1 he
  obtain ⟨f, -, hf⟩ := (mem_mapM hc).1 hk
  exact single_condition hf

/-- The plan of such a projection returns items and does nothing else with its rows. -/
theorem endingClauses_unrestricted (hp : c.plan l q = .ok p) (hi : q.intent = .project pr)
    (hpr : pr.Unrestricted) : ∃ output, Output.ofProjection c q.tier pr = .ok output ∧
      p.ending = .returning false output.items [] none ∧
      p.endingClauses = [.returning false output.items [] none] := by
  obtain ⟨output, ho, hending⟩ := ending_plan_project hp hi
  rw [hpr.distinct, hpr.orderBy_output ho, hpr.effectiveLimit_eq] at hending
  exact ⟨output, ho, hending, by rw [Plan.endingClauses, hending]⟩

theorem columns_statement {s : CompiledStatement} (h : c.compileIn l q = .ok s)
    (hp : c.plan l q = .ok p) : s.columns = p.ending.columns := by
  obtain ⟨p', hp', hcolumns, -⟩ := compile_eq_ok h
  obtain rfl : p = p' := Except.ok.inj (hp.symm.trans hp')
  exact hcolumns

/-- With its parameters in place, a compiled statement is that of its plan. -/
theorem inlined_compile {s : CompiledStatement} (h : c.compileIn l q = .ok s) :
    ∃ p, c.plan l q = .ok p ∧ s.columns = p.ending.columns ∧ s.mode = p.ending.mode ∧
      s.inlined = p.statement := by
  rw [compileIn_eq] at h
  obtain ⟨p, hp, rfl⟩ := map_eq_ok h
  refine ⟨p, hp, rfl, rfl, ?_⟩
  have hnames : ∀ k ∈ p.statement.clauses, k.parameterNames = [] := parameterNames_plan hp
  unfold CompiledStatement.inlined lifted
  cases c.config.parameterize with
  | false => exact congrArg Statement.mk ((Clause.lawful_each hnames).fixed _)
  | true => exact Statement.substitute_lift hnames

/-- The statement of such a projection lists the rows of its plan. -/
theorem lists_compile {s : CompiledStatement} (hs : c.compileIn l q = .ok s)
    (hi : q.intent = .project pr) (hpr : pr.Unrestricted) (hd : c.DistinctAliases q s.columns) :
    ∃ (p : Plan) (output : Output), c.plan l q = .ok p ∧
      p.ending = .returning false output.items [] none ∧
      s.columns = output.items.map (·.columnName) ∧ s.Lists p.body output.items := by
  obtain ⟨p, hp, hcolumns, hmode, hinlined⟩ := inlined_compile hs
  obtain ⟨output, ho, hending, hclauses⟩ := endingClauses_unrestricted hp hi hpr
  have hinlined' : s.inlined.clauses = p.clauses := congrArg Statement.clauses hinlined
  rw [hcolumns] at hd
  refine ⟨p, output, hp, hending, by rw [hcolumns, hending]; rfl, ?_⟩
  exact {
    mode_eq := by rw [hmode, hending]; rfl
    clauses_eq := by rw [hinlined', p.clauses_eq_body, hclauses]
    finds := fun k => Plan.finds_body
    inScope := hinlined' ▸ scopedFrom_clauses hp
    fresh := p.introducedAliases_body ▸ nodup_aliases hp hd
    single := ⟨fun k hk e he => single_conditions hp (Plan.mem_conditions_body hk he),
      fun i hmem => hpr.single_items ho hmem⟩ }

/-! ## Aliases of patterns and conditions -/

/-- The `MATCH` mentions only what it introduces. -/
theorem mem_aliases_required (hp : c.plan l q = .ok p) {a : String}
    (ha : a ∈ (p.required.patterns p.hierarchy p.required).flatMap PathPattern.aliases) :
    a ∈ p.required.aliases := by
  rcases (scoped_match hp).mem_aliases ha with ha | ha
  · cases ha
  · rwa [Group.introducedAliases_patterns] at ha

/-- The optional patterns are scoped behind the `MATCH`. -/
theorem scopedAll_optional (hp : c.plan l q = .ok p) : PathPattern.ScopedAll p.required.aliases
    (p.optional.patterns p.hierarchy (p.required ++ p.optional)) :=
  (Clause.scopedFrom_optionalMatching.1 (scopedFrom_later hp fun _ ha _ => ha)).1

theorem mem_aliases_optional (hp : c.plan l q = .ok p) {a : String}
    (ha : a ∈ (p.optional.patterns p.hierarchy (p.required ++ p.optional)).flatMap
      PathPattern.aliases) : a ∈ p.aliases := by
  have hmem := (scopedAll_optional hp).mem_aliases ha
  rw [Group.introducedAliases_patterns] at hmem
  exact List.mem_append.2 hmem

/-- Only required aliases occur in conditions. -/
theorem occurring_conditions (hp : c.plan l q = .ok p) {e : Expr} (he : e ∈ p.conditions)
    {a : String} (ha : a ∈ e.occurring) : a ∈ p.required.aliases := by
  have hpatterns : e.patterns = [] := by
    obtain ⟨conditions, hc, heq⟩ := conditions_plan hp
    rw [heq] at he
    obtain ⟨k, hk, rfl⟩ := List.mem_map.1 he
    obtain ⟨f, -, hf⟩ := (mem_mapM hc).1 hk
    exact patterns_condition hf
  rcases Expr.occurring_of_scoped (scoped_conditions hp e he) ha with ha | ha
  · exact ha
  · rw [hpatterns] at ha
    cases ha

/-- What occurs in a returned item is mentioned in it, or a list comprehension introduces it. -/
theorem occurring_items (hp : c.plan l q = .ok p) {items : List ReturnItem}
    (hending : p.endingClauses = [.returning false items [] none]) {i : ReturnItem}
    (hi : i ∈ items) {a : String} (ha : a ∈ i.expr.occurring) :
    (a ∈ p.endingClauses.flatMap Clause.aliases ∧ a ∈ p.aliases) ∨
      a ∈ (p.endingClauses.flatMap Clause.listPatterns).flatMap PathPattern.introducedAliases := by
  have hmem : Clause.returning false items [] none ∈ p.endingClauses :=
    hending ▸ List.mem_singleton_self _
  obtain ⟨hclosed, hbound⟩ := ending_spec hp hmem
  rcases Expr.occurring_of_scoped ((hclosed _ fun b hb => hb).1 i hi) ha with ha | ha
  · exact .inl ⟨List.mem_flatMap.2 ⟨_, hmem, ha⟩, hbound a ha⟩
  · obtain ⟨pattern, hpattern, ha⟩ := List.mem_flatMap.1 ha
    refine .inr (List.mem_flatMap.2 ⟨pattern, List.mem_flatMap.2 ⟨_, hmem, ?_⟩, ha⟩)
    exact List.mem_append_left _ (List.mem_flatMap.2 ⟨i, hi, hpattern⟩)

end Corpus

/-! ## Rows -/

section Rows

variable {V : Type*} {g : PropertyGraph V} {eval : Evaluation V}

theorem Record.row_congr (he : g.Evaluates eval) {items : List ReturnItem} {ρ τ : Record V}
    (h : ∀ i ∈ items, ∀ a ∈ i.expr.occurring, ρ a = τ a) : row eval items ρ = row eval items τ :=
  List.map_congr_left fun i hi => he.congr (h i hi)

variable [Fintype V]

namespace Plan

variable (p : Plan) (g eval)

/-- The records that satisfy the `MATCH`. -/
noncomputable def matchRecords : Multiset (Record V) :=
  g.matched (p.required.patterns p.hierarchy p.required) .empty

/-- The record fulfils the `WHERE`. -/
def Holds (τ : Record V) : Prop :=
  ∀ e ∈ p.conditions, eval τ e = .bool true

/-- The rows of a record, after the optional matches. -/
noncomputable def rowsOf (items : List ReturnItem) (τ : Record V) : Multiset (List Value) :=
  (Clause.found g eval p.optionalClauses τ).map (Record.row eval items)

end Plan

theorem Plan.eq_none_of_mem_matchRecords {p : Plan} {τ : Record V} (hτ : τ ∈ p.matchRecords g)
    {a : String} (ha : a ∉ p.required.aliases) : τ a = none := by
  refine Record.eq_of_mem_extensions (Graph.mem_matched.1 hτ).1 ?_
  rwa [Group.introducedAliases_patterns]

theorem Plan.found_filterClauses (p : Plan) (τ : Record V) [Decidable (p.Holds eval τ)] :
    Clause.found g eval p.filterClauses τ = if p.Holds eval τ then {τ} else 0 := by
  unfold filterClauses
  split
  · rename_i hempty
    have hholds : p.Holds eval τ := by
      unfold Holds
      rw [List.isEmpty_iff.1 hempty]
      exact nofun
    rw [if_pos hholds, Clause.found]
  · simp only [Clause.found, Clause.records]
    by_cases hholds : ∀ e ∈ p.conditions, eval τ e = .bool true
    · rw [if_pos hholds, if_pos (show p.Holds eval τ from hholds), Multiset.singleton_bind]
    · rw [if_neg hholds, if_neg (show ¬p.Holds eval τ from hholds), Multiset.zero_bind]

/-- What the `WITH` forgets occurs in no later clause. -/
theorem Corpus.found_carryingClauses {l : Listing} {c : Corpus} {q : Query} {p : Plan}
    (hp : c.plan l q = .ok p) (he : g.Evaluates eval) {items : List ReturnItem}
    (hending : p.endingClauses = [.returning false items [] none])
    (hlists : ∀ a ∈ (p.endingClauses.flatMap Clause.listPatterns).flatMap
      PathPattern.introducedAliases, a ∉ p.required.aliases)
    {τ : Record V} (hτ : τ ∈ p.matchRecords g) :
    (Clause.found g eval (p.carryingClauses ++ p.optionalClauses) τ).map (Record.row eval items) =
      p.rowsOf g eval items τ := by
  unfold Plan.carryingClauses
  split
  · rfl
  · let carried := p.carried p.required.aliases (p.optionalClauses ++ p.endingClauses)
    -- The two records agree on what is carried and on what the `MATCH` does not bind.
    let Q : Record V → Record V → Prop := fun ρ σ =>
      ∀ a, (a ∈ p.required.aliases → a ∈ carried) → ρ a = σ a
    have hmentioned : ∀ a ∈ (p.optionalClauses ++ p.endingClauses).flatMap Clause.aliases,
        a ∈ p.required.aliases → a ∈ carried := fun a ha hreq => Plan.mem_carried hreq ha
    have hkeeps : Record.Keeps Q ((p.optional.patterns p.hierarchy
        (p.required ++ p.optional)).flatMap PathPattern.introducedAliases) :=
      Record.keeps_agreement _ _
    have hagree : Record.Agree Q ((p.optional.patterns p.hierarchy
        (p.required ++ p.optional)).flatMap PathPattern.aliases) := by
      intro ρ σ h a ha
      obtain ⟨pattern, hpattern, ha⟩ := List.mem_flatMap.1 ha
      refine h a (hmentioned a (List.mem_flatMap.2 ⟨.optionalMatching [pattern], ?_, ?_⟩))
      · exact List.mem_append_left _ (List.mem_map_of_mem hpattern)
      · simpa [Clause.aliases] using ha
    have hrows : ∀ ρ σ, Q ρ σ → Record.row eval items ρ = Record.row eval items σ := by
      intro ρ σ h
      refine Record.row_congr he fun i hi a ha => h a fun hreq => ?_
      rcases occurring_items hp hending hi ha with ⟨ha, -⟩ | ha
      · refine hmentioned a ?_ hreq
        rw [List.flatMap_append]
        exact List.mem_append_right _ ha
      · exact absurd hreq (hlists a ha)
    have hstart : Q (τ.restrict carried) τ := by
      intro a ha
      unfold Record.restrict
      split
      · rfl
      · rename_i hnot
        exact (Plan.eq_none_of_mem_matchRecords hτ fun hreq => hnot (ha hreq)).symm
    have hfound := Clause.rel_found g eval hkeeps hagree hstart
    rw [List.singleton_append, Clause.found, Clause.records, Multiset.singleton_bind]
    exact Multiset.rel_eq.1 (Multiset.rel_map.2 (hfound.mono fun ρ _ σ _ h => hrows ρ σ h))

open scoped Classical in
/-- The rows of a plan are those of the records that satisfy its `MATCH` and its `WHERE`. -/
theorem Corpus.rows_plan {l : Listing} {c : Corpus} {q : Query} {p : Plan}
    (hp : c.plan l q = .ok p) (he : g.Evaluates eval) {items : List ReturnItem}
    (hending : p.endingClauses = [.returning false items [] none])
    (hlists : ∀ a ∈ (p.endingClauses.flatMap Clause.listPatterns).flatMap
      PathPattern.introducedAliases, a ∉ p.required.aliases) :
    g.rows eval p.body items =
      ((p.matchRecords g).filter (p.Holds eval)).bind (p.rowsOf g eval items) := by
  have hbody : Clause.found g eval p.body .empty = (p.matchRecords g).bind fun τ =>
      (Clause.found g eval p.filterClauses τ).bind
        (Clause.found g eval (p.carryingClauses ++ p.optionalClauses)) := by
    rw [Plan.body, Clause.found, Clause.records, List.append_assoc]
    exact Multiset.bind_congr fun τ _ => Clause.found_append _ _
  rw [PropertyGraph.rows, hbody, Multiset.map_bind, Multiset.bind_filter]
  refine Multiset.bind_congr fun τ hτ => ?_
  rw [Plan.found_filterClauses]
  split
  · rw [Multiset.singleton_bind, found_carryingClauses hp he hending hlists hτ]
  · rfl

end Rows

end AnnotationQuery
