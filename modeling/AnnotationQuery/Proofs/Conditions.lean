import AnnotationQuery.Proofs.Parameters

/-!
# Queries with other filters

When two queries on a tier have one intent and their filters refer to the same nodes, they differ in
their conditions only. Binding order puts the same nodes into the same sequence as long as different
nodes have different aliases, and nothing but the conditions is made from the filters otherwise.

Results:
* `Corpus.exists_compile_iff`: whether a query compiles depends on its conditions.
* `Corpus.plan_withFilters`: the plan of a query with other filters that refer to the same nodes.
* `Corpus.compile_of_plan`: a compiled statement put together from its lifted conditions and the
  rest of its plan.
-/

namespace AnnotationQuery

/-! ## Plans -/

/-- The query with other filters. -/
def Query.withFilters (q : Query) (filters : List Filter) : Query :=
  { q with filters := filters }

namespace Corpus

variable {l l' : Listing} {c : Corpus} {q : Query} {p : Plan} {filters : List Filter}

/-- With other filters a query compiles like before if their conditions do. -/
theorem exists_compile_iff (h : (∃ ks, c.conditions q.tier q.effectiveFilters = .ok ks) ↔
    ∃ ks, c.conditions q.tier (q.withFilters filters).effectiveFilters = .ok ks) :
    (∃ s, c.compileIn l q = .ok s) ↔ ∃ s, c.compileIn l' (q.withFilters filters) = .ok s := by
  rw [exists_compile_iff_plan, exists_compile_iff_plan]
  constructor
  · rintro ⟨p, hp⟩
    obtain ⟨ks, d, hfault, htier, hc, hd, -⟩ := plan_eq_ok hp
    obtain ⟨ks', hc'⟩ := h.1 ⟨ks, hc⟩
    exact ⟨_, plan_of_parts hfault htier hc' hd⟩
  · rintro ⟨p, hp⟩
    obtain ⟨ks, d, hfault, htier, hc, hd, -⟩ := plan_eq_ok hp
    obtain ⟨ks', hc'⟩ := h.2 ⟨ks, hc⟩
    exact ⟨_, plan_of_parts hfault htier hc' hd⟩

/-- The filters of a query that compiles have conditions. -/
theorem exists_conditions {s : CompiledStatement} (hs : c.compileIn l q = .ok s) :
    ∃ ks, c.conditions q.tier q.effectiveFilters = .ok ks := by
  obtain ⟨p, hp, -⟩ := compile_eq_ok hs
  obtain ⟨ks, hks, -⟩ := conditions_plan hp
  exact ⟨ks, hks⟩

/-- Filters that refer to the same nodes change nothing in a plan but its conditions. -/
theorem plan_withFilters (hp : c.plan l q = .ok p)
    (hdistinct : c.DistinctAliases q p.ending.columns) {ks ks' : List Condition}
    (hks : c.conditions q.tier q.effectiveFilters = .ok ks)
    (hks' : c.conditions q.tier (q.withFilters filters).effectiveFilters = .ok ks')
    (hnodes : ∀ n, n ∈ ks.flatMap (·.nodes) ↔ n ∈ ks'.flatMap (·.nodes)) :
    c.plan l (q.withFilters filters) = .ok { p with conditions := ks'.map (·.expr) } := by
  obtain ⟨ks₀, d, hfault, htier, hc, hd, hplan⟩ := plan_eq_ok hp
  obtain rfl := Except.ok.inj (hks.symm.trans hc)
  have hp' := plan_of_parts (l := l) (q := q.withFilters filters) hfault htier hks' hd
  obtain ⟨hs, hs'⟩ := sorted_plan hp
  obtain ⟨ht, ht'⟩ := sorted_plan hp'
  obtain ⟨hn, hn', -⟩ := List.nodup_append'.1 (nodup_bound hp)
  obtain ⟨hk, hk', -⟩ := List.nodup_append'.1 (nodup_bound hp')
  have hneeded : ∀ n, n ∈ .token (c.anchor q.tier) :: ks.flatMap (·.nodes) ++ d.required ↔
      n ∈ .token (c.anchor q.tier) :: ks'.flatMap (·.nodes) ++ d.required := by
    intro n
    simp only [List.cons_append, List.mem_cons, List.mem_append, hnodes]
  have hrequired : ∀ m, m ∈ p.required ↔
      m ∈ (c.planOf l (q.withFilters filters) ks' d).required := by
    intro m
    rw [hplan, planOf, planOf, Listing.mem_sorted, Listing.mem_sorted,
      Collected.mem_required_ofNodes, Collected.mem_required_ofNodes]
    exact exists_congr fun n => and_congr_left fun _ => hneeded n
  -- The optional group depends on the filters only through what it leaves out as required.
  have hoptional : ∀ m, m ∈ p.optional ↔
      m ∈ (c.planOf l (q.withFilters filters) ks' d).optional := by
    intro m
    have hsame := hrequired m
    rw [hplan, planOf, planOf, Listing.mem_sorted, Listing.mem_sorted] at hsame
    rw [hplan, planOf, planOf, Listing.mem_sorted, Listing.mem_sorted,
      Collected.mem_optional_ofNodes, Collected.mem_optional_ofNodes, hsame]
  rw [hp']
  refine congrArg Except.ok (Plan.ext ?_ ?_ ?_ ?_ rfl ?_)
  · rw [hplan]
    rfl
  · rw [hplan]
    rfl
  · refine (hs.eq_of_mem ht hn hk hrequired fun m hm n hn => ?_).symm
    rw [mem_required hp] at hm hn
    exact hdistinct m n (.inl hm) (.inl hn)
  · refine (hs'.eq_of_mem ht' hn' hk' hoptional fun m hm n hn => ?_).symm
    rw [mem_optional hp] at hm hn
    exact hdistinct m n (.inr hm.1) (.inr hn.1)
  · rw [hplan]
    rfl

end Corpus

/-! ## Lifted conditions -/

namespace Clause

/-- The clause with other conditions, if it has any. -/
def withConditions (conditions : List Expr) : Clause → Clause
  | filtering _ => filtering conditions
  | k => k

theorem flatMap_whereAll (es : List Expr) : (whereAll es).flatMap conditions = es := by
  cases es <;> simp [whereAll, conditions]

theorem map_withConditions_whereAll {es es' : List Expr} (h : es.length = es'.length) :
    (whereAll es).map (withConditions es') = whereAll es' := by
  cases es with
  | nil =>
    rw [List.length_nil, eq_comm, List.length_eq_zero_iff] at h
    rw [h]
    rfl
  | cons e es =>
    cases es' with
    | nil => cases h
    | cons e' es' => rfl

end Clause

namespace Statement

/-- The statement with other conditions. -/
def withConditions (s : Statement) (conditions : List Expr) : Statement :=
  ⟨s.clauses.map (Clause.withConditions conditions)⟩

end Statement

namespace Corpus

variable {α : Type} {l : Listing} {c : Corpus} {q : Query} {p : Plan}

/-- How a corpus lifts literals: as parameters, or not at all. -/
def lifting (c : Corpus) (L : Lifting α) : Lifting α :=
  if c.config.parameterize then L else L.inPlace

theorem substitute_lifting (c : Corpus) (L : Lifting α) :
    (c.lifting L).substitute = L.substitute := by
  unfold lifting
  split <;> rfl

theorem lawful_lifting {L : Lifting α} {a : α} (h : L.Lawful a) : (c.lifting L).Lawful a := by
  unfold lifting
  split
  · exact h
  · exact h.inPlace

/-- Conditions with their literals in place or lifted, and the lifted values. -/
def liftedConditions (c : Corpus) (es : List Expr) : List Expr × List Value :=
  (c.lifting Expr.lifting).list.lift 0 es

theorem length_liftedConditions (es : List Expr) :
    (c.liftedConditions es).1.length = es.length :=
  length_liftEach 0 es

theorem liftedConditions_append (es ds : List Expr) :
    c.liftedConditions (es ++ ds) =
      ((c.liftedConditions es).1 ++
          ((c.lifting Expr.lifting).list.lift (c.liftedConditions es).2.length ds).1,
        (c.liftedConditions es).2 ++
          ((c.lifting Expr.lifting).list.lift (c.liftedConditions es).2.length ds).2) := by
  have happend : liftEach (c.lifting Expr.lifting).lift 0 (es ++ ds) = _ := liftEach_append 0 es ds
  rw [Nat.zero_add] at happend
  exact happend

theorem lifted_eq (n : Nat) (ks : List Clause) :
    c.lifted n ks = (c.lifting Clause.lifting).list.lift n ks := by
  unfold lifted lifting
  split
  · rfl
  · exact (liftEach_of_plain fun _ _ _ => rfl).symm

theorem lift_lifting (c : Corpus) (L : Lifting α) :
    (c.lifting L).lift = liftIf c.config.parameterize L.lift := by
  funext n a
  unfold lifting liftIf
  split <;> rfl

theorem liftedConditions_eq (es : List Expr) :
    c.liftedConditions es = liftEach (liftIf c.config.parameterize Expr.lift) 0 es :=
  congrArg (liftEach · 0 es) (lift_lifting c Expr.lifting)

/-- The statement of a plan with lifted conditions; the values of the last clauses follow those of
the conditions. -/
def assembled (c : Corpus) (p : Plan) (lifted : List Expr × List Value) : CompiledStatement :=
  let ending := c.lifted lifted.2.length p.endingClauses
  ⟨⟨.matching (p.required.patterns p.hierarchy p.required) :: (Clause.whereAll lifted.1 ++
    p.carryingClauses ++ p.optionalClauses ++ ending.1)⟩, .ofValues (lifted.2 ++ ending.2),
    p.ending.columns, p.ending.mode⟩

/-- A compiled statement is put together from its lifted conditions and the rest of its plan. -/
theorem compile_of_plan (hp : c.plan l q = .ok p) :
    c.compileIn l q = .ok (c.assembled p (c.liftedConditions p.conditions)) := by
  have hwhere : c.lifted 0 p.filterClauses = (Clause.whereAll (c.liftedConditions p.conditions).1,
      (c.liftedConditions p.conditions).2) := by
    rw [liftedConditions_eq]
    exact lifted_whereAll 0 p.conditions
  rw [compileIn_eq, hp, Except.map, lifted_clauses, hwhere]
  rfl

theorem stages_assembled (p : Plan) (lifted : List Expr × List Value) :
    (c.assembled p lifted).statement.Stages (p.required.patterns p.hierarchy p.required)
      (Clause.whereAll lifted.1) p.carryingClauses
      (p.optional.patterns p.hierarchy (p.required ++ p.optional))
      (c.lifted lifted.2.length p.endingClauses).1 where
  clauses_eq := rfl
  filters_eq k hk := by
    unfold Clause.whereAll at hk
    split at hk
    · cases hk
    · exact ⟨_, List.mem_singleton.1 hk⟩
  carried_eq _ := Plan.mem_carryingClauses
  ending_final _ := final_lifted

theorem conditions_assembled (p : Plan) (lifted : List Expr × List Value) :
    (c.assembled p lifted).statement.conditions = lifted.1 := by
  rw [(stages_assembled p lifted).conditions_eq, Clause.flatMap_whereAll]

/-- What changes no patterns and no carried aliases changes the conditions and the last clauses. -/
theorem map_assembled (p : Plan) (lifted : List Expr × List Value) {f : Clause → Clause}
    (hmatching : ∀ patterns, f (.matching patterns) = .matching patterns)
    (hoptional : ∀ patterns, f (.optionalMatching patterns) = .optionalMatching patterns)
    (hcarrying : ∀ aliases, f (.carrying aliases) = .carrying aliases) :
    (c.assembled p lifted).statement.clauses.map f =
      .matching (p.required.patterns p.hierarchy p.required) ::
        ((Clause.whereAll lifted.1).map f ++ p.carryingClauses ++ p.optionalClauses ++
          (c.lifted lifted.2.length p.endingClauses).1.map f) := by
  have hother : ∀ ks : List Clause, (∀ k ∈ ks, f k = k) → ks.map f = ks := fun ks h =>
    (List.map_congr_left h).trans (List.map_id ks)
  have hcarried := hother p.carryingClauses fun k hk => by
    obtain ⟨aliases, rfl⟩ := Plan.mem_carryingClauses hk
    exact hcarrying aliases
  have hmatched := hother p.optionalClauses fun k hk => by
    obtain ⟨pattern, rfl⟩ := Plan.mem_optionalClauses hk
    exact hoptional [pattern]
  simp only [assembled, List.map_cons, List.map_append, hmatching, hcarried, hmatched]

/-- Other conditions that lift as many values change nothing but the conditions. -/
theorem withConditions_assembled (p : Plan) (lifted lifted' : List Expr × List Value)
    (hes : lifted.1.length = lifted'.1.length) (hvs : lifted.2.length = lifted'.2.length) :
    (c.assembled p lifted).statement.withConditions lifted'.1 =
      (c.assembled p lifted').statement := by
  have hending : (c.lifted lifted'.2.length p.endingClauses).1.map
      (Clause.withConditions lifted'.1) = (c.lifted lifted'.2.length p.endingClauses).1 := by
    refine (List.map_congr_left fun k hk => ?_).trans (List.map_id _)
    have hfinal := final_lifted hk
    cases k with
    | filtering _ => exact hfinal.elim
    | _ => rfl
  rw [Statement.withConditions, map_assembled p lifted (fun _ => rfl) (fun _ => rfl) fun _ => rfl,
    Clause.map_withConditions_whereAll hes, hvs, hending]
  rfl

/-- Two queries whose filters refer to the same nodes are compiled to the same plan with their own
conditions. -/
theorem compile_withFilters {s s' : CompiledStatement} {filters : List Filter}
    (hs : c.compileIn l q = .ok s) (hs' : c.compileIn l (q.withFilters filters) = .ok s')
    (hdistinct : c.DistinctAliases q s.columns) {ks ks' : List Condition}
    (hks : c.conditions q.tier q.effectiveFilters = .ok ks)
    (hks' : c.conditions q.tier (q.withFilters filters).effectiveFilters = .ok ks')
    (hnodes : ∀ n, n ∈ ks.flatMap (·.nodes) ↔ n ∈ ks'.flatMap (·.nodes)) :
    ∃ p, c.plan l q = .ok p ∧ s = c.assembled p (c.liftedConditions (ks.map (·.expr))) ∧
      s' = c.assembled p (c.liftedConditions (ks'.map (·.expr))) := by
  obtain ⟨p, hp, hcolumns, -⟩ := compile_eq_ok hs
  obtain ⟨ks₀, hks₀, hconditions⟩ := conditions_plan hp
  obtain rfl := Except.ok.inj (hks.symm.trans hks₀)
  have hp' := plan_withFilters hp (hcolumns ▸ hdistinct) hks hks' hnodes
  refine ⟨p, hp, ?_, ?_⟩
  · rw [← hconditions]
    exact Except.ok.inj (hs.symm.trans (compile_of_plan hp))
  · exact Except.ok.inj (hs'.symm.trans (compile_of_plan hp'))

end Corpus

end AnnotationQuery
