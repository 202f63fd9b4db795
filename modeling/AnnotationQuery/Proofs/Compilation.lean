import AnnotationQuery.Proofs.BindingInTurn
import AnnotationQuery.Proofs.Uses

/-!
# From the steps of compilation to the plan

Compilation goes through the filters and the intent, collects nodes, counts parameters and binds the
nodes one after the other. A plan takes no such steps. Whatever order sets of nodes are listed in,
compiling comes to the statement of the plan with its literals in place or lifted, and it fails
where the plan fails: no filter and no intent looks at what was collected before, and binding never
fails.

Results:
* `Generation.foldlM_addFilter`, `Generation.addIntent_eq`: what is collected on the way.
* `Generation.assemble_eq`: how the clauses are put together.
* `Corpus.compileIn_eq`: compiling comes to the statement of the plan.
* `Corpus.compile_eq_ok`, `Corpus.compile_stages`: the parts of a compiled statement.
* `Corpus.compile_eq_error_iff`, `Corpus.compile_eq_of_distinct`: what does not depend on how sets
  of nodes are listed.
-/

namespace AnnotationQuery

/-! ## Filters -/

namespace Generation

variable {c : Corpus} {tier : String}

/-- What a filter adds when there are parameters with the given values. -/
theorem addFilter_eq (s : Collected) (es : List Expr) (vs : List Value) (f : Filter) :
    addFilter c tier ⟨s, es, .ofValues vs⟩ f = (c.condition tier f).map fun k =>
      let (e, ws) := liftIf c.config.parameterize Expr.lift vs.length k.expr
      ⟨k.nodes.foldl .require s, es ++ [e], .ofValues (vs ++ ws)⟩ := by
  unfold addFilter
  rw [Corpus.writeCondition_eq]
  cases c.condition tier f <;> rfl

/-- What filters add one after the other: their conditions, with literals that become parameters in
turn, and the nodes that these refer to. -/
theorem foldlM_addFilter (s : Collected) (es : List Expr) (vs : List Value) (fs : List Filter) :
    fs.foldlM (addFilter c tier) ⟨s, es, .ofValues vs⟩ = (c.conditions tier fs).map fun ks =>
      let (es', ws) := liftEach (liftIf c.config.parameterize Expr.lift) vs.length
        (ks.map (·.expr))
      ⟨(ks.flatMap (·.nodes)).foldl .require s, es ++ es', .ofValues (vs ++ ws)⟩ := by
  induction fs generalizing s es vs with
  | nil => simp [Corpus.conditions, Except.map, pure, Except.pure, liftEach]
  | cons f fs ih =>
    rw [List.foldlM_cons, addFilter_eq, Corpus.conditions, List.mapM_cons]
    cases c.condition tier f with
    | error e => rfl
    | ok k =>
      obtain ⟨⟨e, ws⟩, hlift⟩ :
          ∃ lifted, liftIf c.config.parameterize Expr.lift vs.length k.expr = lifted := ⟨_, rfl⟩
      simp only [Except.map, hlift]
      change fs.foldlM (addFilter c tier)
        ⟨k.nodes.foldl .require s, es ++ [e], .ofValues (vs ++ ws)⟩ = _
      rw [ih, ← Corpus.conditions]
      cases c.conditions tier fs with
      | error e => rfl
      | ok ks => simp [Except.map, bind, Except.bind, pure, Except.pure, liftEach, hlift]

end Generation

/-! ## Intents -/

/-- An ending with its literals as parameters from number `n` on, or in place. -/
def Ending.inTurn (b : Bool) (n : Nat) : Ending → Ending × List Value
  | .settingProperties set remove =>
    let (set, ws) := liftEach (liftIf b SetItem.lift) n set
    (.settingProperties set remove, ws)
  | ending => (ending, [])

theorem Ending.columns_inTurn (b : Bool) (n : Nat) (ending : Ending) :
    (ending.inTurn b n).1.columns = ending.columns := by
  cases ending <;> rfl

theorem Ending.mode_inTurn (b : Bool) (n : Nat) (ending : Ending) :
    (ending.inTurn b n).1.mode = ending.mode := by
  cases ending <;> rfl

/-- What an intent adds and does with the rows. -/
theorem Generation.addIntent_eq (c : Corpus) (tier : String) (s : Collected) (es : List Expr)
    (vs : List Value) (i : Intent) :
    addIntent c tier ⟨s, es, .ofValues vs⟩ i = (c.demand tier i).map fun d =>
      let (ending, ws) := d.ending.inTurn c.config.parameterize vs.length
      (ending, ⟨d.wanted.foldl .want (d.required.foldl .require s), es, .ofValues (vs ++ ws)⟩) := by
  cases i with
  | project p =>
    simp only [addIntent, Corpus.demand]
    cases Output.ofProjection c tier p with
    | error e => rfl
    | ok output => simp [bind, Except.bind, pure, Except.pure, Except.map, Ending.inTurn]
  | setProperties u =>
    simp [addIntent, Corpus.demand, writeAssignments_eq, pure, Except.pure, Except.map,
      Ending.inTurn, PropertyUpdates.setItems]
  | setLabels u | removeLabels u | delete | cache =>
    simp [addIntent, Corpus.demand, pure, Except.pure, Except.map, Ending.inTurn]

/-! ## The last clauses -/

/-- Only a `WITH` that names nothing is filled in. -/
theorem fillCarrying_append {anchor : Reference} {available : List String} {ks : List Clause}
    (h : ∀ k ∈ ks, k ≠ .carrying []) (ks' : List Clause) :
    fillCarrying anchor available (ks ++ ks') = ks ++ fillCarrying anchor available ks' := by
  induction ks with
  | nil => rfl
  | cons k ks ih =>
    rw [List.forall_mem_cons] at h
    rw [List.cons_append, fillCarrying, ih h.2, List.cons_append]
    exact h.1

theorem fillCarrying_eq_self {anchor : Reference} {available : List String} {ks : List Clause}
    (h : ∀ k ∈ ks, k ≠ .carrying []) : fillCarrying anchor available ks = ks := by
  have happend := @fillCarrying_append anchor available ks h []
  rwa [List.append_nil, fillCarrying, List.append_nil] at happend

/-- Which aliases are carried on depends on the aliases that the later clauses mention only. -/
theorem carryForward_congr {ks ks' : List Clause}
    (h : ks.flatMap Clause.aliases = ks'.flatMap Clause.aliases) (anchor : Reference)
    (available : List String) :
    carryForward anchor available ks = carryForward anchor available ks' := by
  rw [carryForward, carryForward, h]

namespace Corpus

variable {l : Listing} {c : Corpus} {q : Query} {p : Plan}

theorem aliases_ne_nil (hp : c.plan l q = .ok p) : p.aliases ≠ [] :=
  List.ne_nil_of_mem (List.mem_append_left _ (anchor_mem_aliases hp))

/-- Of clauses behind what is set only the set values are lifted. -/
theorem lifted_setting (n : Nat) (set : List SetItem) {ks : List Clause}
    (hks : ∀ k ∈ ks, k.Plain) :
    c.lifted n (.setting set :: ks) =
      let (set, ws) := liftEach (liftIf c.config.parameterize SetItem.lift) n set
      (.setting set :: ks, ws) := by
  unfold lifted
  cases c.config.parameterize with
  | false =>
    have hnone : liftEach (liftIf false SetItem.lift) n set = (set, []) :=
      liftEach_of_plain fun _ _ _ => rfl
    simp [hnone]
  | true =>
    change liftEach Clause.lift n (.setting set :: ks) =
      let (set, ws) := liftEach SetItem.lift n set
      (.setting set :: ks, ws)
    simp [liftEach, Clause.lift, liftEach_of_plain hks]

theorem plain_settingLabels (items : List (String × String)) :
    (Clause.setting (items.map fun (aliasName, label) => .label aliasName label)).Plain := by
  intro n
  have hlabels : ∀ i ∈ items.map fun (aliasName, label) => SetItem.label aliasName label,
      ∀ n, i.lift n = (i, []) := by
    intro i hi n
    obtain ⟨item, -, rfl⟩ := List.mem_map.1 hi
    rfl
  rw [Clause.lift, liftEach_of_plain hlabels]

theorem fillCarrying_of_plain {anchor : Reference} {available : List String} {k : Clause}
    (hk : k.Plain) (hne : k ≠ .carrying []) (n : Nat) :
    (fillCarrying anchor available [k], []) = c.lifted n [k] := by
  rw [fillCarrying_eq_self (List.forall_mem_singleton.2 hne),
    lifted_of_plain (List.forall_mem_singleton.2 hk)]

/-- Setting and removing properties: the `WITH` between the two clauses is filled in, and only the
values that are set are lifted. -/
theorem fillCarrying_settingProperties {set : List SetItem} {remove : List RemoveItem}
    (hending : p.ending = .settingProperties set remove) (hne : set ≠ [] ∨ remove ≠ []) (n : Nat) :
    let (ending, ws) := p.ending.inTurn c.config.parameterize n
    (fillCarrying p.anchor p.aliases (ending.terminal p.aliases), ws) =
      c.lifted n p.endingClauses := by
  rw [Plan.endingClauses, hending]
  cases set with
  | nil =>
    cases remove with
    | nil => exact absurd rfl (hne.resolve_left (absurd rfl))
    | cons r remove =>
      exact fillCarrying_of_plain (k := .removing (r :: remove)) (fun _ => rfl) (by simp) n
  | cons i set =>
    have hempty : (liftEach (liftIf c.config.parameterize SetItem.lift) n (i :: set)).1.isEmpty =
        false := rfl
    cases remove with
    | nil =>
      simp only [lifted_setting n (i :: set) (List.forall_mem_nil _), Ending.inTurn,
        Ending.terminal, hempty]
      rfl
    | cons r remove =>
      have hlater : ∀ k ∈ [Clause.carrying (p.carried p.aliases [.removing (r :: remove)]),
          .removing (r :: remove)], k.Plain := by
        simp [Clause.Plain, Clause.lift]
      simp only [lifted_setting n (i :: set) hlater, Ending.inTurn, Ending.terminal, hempty]
      rfl

/-- The last clauses of a statement are those of the plan, with their literals in turn. -/
theorem fillCarrying_terminal (hp : c.plan l q = .ok p) (n : Nat) :
    let (ending, ws) := p.ending.inTurn c.config.parameterize n
    (fillCarrying p.anchor p.aliases (ending.terminal p.aliases), ws) =
      c.lifted n p.endingClauses := by
  cases hi : q.intent with
  | project pr =>
    obtain ⟨output, ho, hending⟩ := ending_plan_project hp hi
    rw [Plan.endingClauses, hending]
    exact fillCarrying_of_plain (Clause.plain_returning (fun i => Output.plain_items ho) fun o =>
      Output.plain_orderBy ho) (by simp) n
  | setProperties u =>
    obtain ⟨-, -, hfault, -⟩ := plan_eq_ok hp
    rw [hi] at hfault
    exact fillCarrying_settingProperties (ending_plan hp hi rfl)
      (u.items_ne_nil hfault (c.anchor q.tier)) n
  | setLabels u =>
    rw [Plan.endingClauses, ending_plan hp hi rfl]
    exact fillCarrying_of_plain (plain_settingLabels _) (by simp) n
  | removeLabels u =>
    rw [Plan.endingClauses, ending_plan hp hi rfl]
    exact fillCarrying_of_plain (fun _ => rfl) (by simp) n
  | delete =>
    rw [Plan.endingClauses, ending_plan hp hi rfl]
    exact fillCarrying_of_plain (fun _ => rfl) (by simp) n
  | cache =>
    rw [Plan.endingClauses, ending_plan hp hi rfl]
    exact fillCarrying_of_plain (fun _ => rfl)
      (fun heq => aliases_ne_nil hp (Clause.carrying.inj heq)) n

/-- The conditions of a plan are lifted in turn. -/
theorem lifted_whereAll (n : Nat) (es : List Expr) :
    c.lifted n (Clause.whereAll es) =
      let (es, ws) := liftEach (liftIf c.config.parameterize Expr.lift) n es
      (Clause.whereAll es, ws) := by
  unfold lifted
  cases es with
  | nil => cases c.config.parameterize <;> rfl
  | cons e es =>
    cases c.config.parameterize with
    | false =>
      have hnone : liftEach (liftIf false Expr.lift) n (e :: es) = (e :: es, []) :=
        liftEach_of_plain fun _ _ _ => rfl
      rw [hnone]
      rfl
    | true =>
      change liftEach Clause.lift n [.filtering (e :: es)] =
        let (es, ws) := liftEach Expr.lift n (e :: es)
        (Clause.whereAll es, ws)
      simp only [liftEach, Clause.lift, Expr.liftAll_eq_liftEach, List.append_nil]
      rfl

/-! ## Statements -/

/-- Putting a statement together never fails: each node is bound from the nodes in front of it. -/
theorem assemble_eq (hp : c.plan l q = .ok p) {g : Generation}
    (hrequired : l.sorted g.collected.required = p.required)
    (hoptional : l.sorted g.collected.optional = p.optional) (ending : Ending) :
    g.assemble l c.hierarchy (c.anchor q.tier) ending =
      let later := p.optionalClauses ++
        fillCarrying p.anchor p.aliases (ending.terminal p.aliases)
      .ok ⟨.matching (p.required.patterns p.hierarchy p.required) ::
        (Clause.whereAll g.conditions ++
          (if p.optionalClauses.isEmpty then []
            else [.carrying (p.carried p.required.aliases later)]) ++ later)⟩ := by
  have ht := hasTier_plan hp
  have hclimbs : ∀ n ∈ p.required ++ p.optional, n.reference.Climbs c.hierarchy q.tier :=
    fun n hn => ((mem_bound hp).1 hn).elim Requires.climbs Shows.climbs
  obtain ⟨hsorted, hsorted'⟩ := sorted_plan hp
  have hbind : p.required.bindAll c.hierarchy [] p.required =
      .ok (p.required.patterns c.hierarchy p.required, p.required.bindingSequence) :=
    p.required.bindAll_eq_of_none ht (fun n hn => hclimbs n (List.mem_append_left _ hn)) hsorted
      (List.nodup_append'.1 (nodup_bound hp)).1
  have hbind' : p.optional.bindAll c.hierarchy p.required.bindingSequence p.optional =
      .ok (p.optional.patterns c.hierarchy (p.required ++ p.optional),
        p.required.bindingSequence ++ p.optional.bindingSequence) :=
    Group.bindAll_eq ht (fun n hn => hclimbs n (List.mem_append_right _ hn)) hsorted'
      (nodup_bound hp) fun _ => Group.mem_bindingSequence
  have haliases : (p.required.bindingSequence ++ p.optional.bindingSequence).map Node.aliasName =
      p.aliases := List.map_append
  have hoptionals : (p.optional.patterns c.hierarchy (p.required ++ p.optional)).map
      (fun pattern => Clause.optionalMatching [pattern]) = p.optionalClauses := by
    rw [Plan.optionalClauses, hierarchy_plan hp]
  have hempty : (p.optional.patterns c.hierarchy (p.required ++ p.optional)).isEmpty =
      p.optionalClauses.isEmpty := by
    rw [← hoptionals, List.isEmpty_map]
  have hkeep : ∀ k ∈ p.optionalClauses, k ≠ .carrying [] := by
    intro k hk
    obtain ⟨pattern, rfl⟩ := Plan.mem_optionalClauses hk
    exact nofun
  unfold Generation.assemble
  simp only [hrequired, hoptional, hbind, bind, Except.bind, hbind', haliases, hoptionals, hempty,
    ← anchor_plan hp, fillCarrying_append hkeep, hierarchy_plan hp]
  simp only [pure, Except.pure, Clause.whereAll, Plan.carried, Group.aliases, List.append_assoc,
    List.cons_append, List.nil_append]

/-- Lifting the literals of a plan's statement touches the conditions and the last clauses, and
changes nothing about the aliases that are carried on. -/
theorem lifted_clauses_eq {es : List Expr} {ks : List Clause} {vs ws : List Value}
    (hes : liftEach (liftIf c.config.parameterize Expr.lift) 0 p.conditions = (es, vs))
    (hks : c.lifted vs.length p.endingClauses = (ks, ws)) :
    c.lifted 0 p.clauses = (.matching (p.required.patterns p.hierarchy p.required) ::
      (Clause.whereAll es ++ (if p.optionalClauses.isEmpty then []
        else [.carrying (p.carried p.required.aliases (p.optionalClauses ++ ks))]) ++
          (p.optionalClauses ++ ks)), vs ++ ws) := by
  have hfilters : c.lifted 0 p.filterClauses = (Clause.whereAll es, vs) := by
    have hwhere := lifted_whereAll (c := c) 0 p.conditions
    rwa [hes] at hwhere
  have haliases : ks.flatMap Clause.aliases = p.endingClauses.flatMap Clause.aliases := by
    have hlifts := forall₂_lifted (c := c) vs.length p.endingClauses
    rw [hks] at hlifts
    exact Clause.Lifts.flatMap_eq hlifts Clause.Lifts.aliases
  have hcarried : p.carried p.required.aliases (p.optionalClauses ++ ks) =
      p.carried p.required.aliases (p.optionalClauses ++ p.endingClauses) :=
    carryForward_congr (by rw [List.flatMap_append, List.flatMap_append, haliases]) _ _
  rw [lifted_clauses, hfilters, hks, hcarried, Plan.carryingClauses, List.append_assoc]

/-- When everything is collected, the statement is that of the plan. -/
theorem assemble_of_parts {ks : List Condition} {d : Demand}
    (hp : c.plan l q = .ok (c.planOf l q ks d)) {es : List Expr} {vs ws : List Value}
    {ending : Ending} (parameters : Parameters)
    (hes : liftEach (liftIf c.config.parameterize Expr.lift) 0 (ks.map (·.expr)) = (es, vs))
    (hending : d.ending.inTurn c.config.parameterize vs.length = (ending, ws)) :
    (c.lifted 0 (c.planOf l q ks d).clauses).2 = vs ++ ws ∧
      Generation.assemble l c.hierarchy (c.anchor q.tier)
        ⟨.ofNodes (.token (c.anchor q.tier) :: ks.flatMap (·.nodes) ++ d.required) d.wanted, es,
          parameters⟩ ending = .ok ⟨(c.lifted 0 (c.planOf l q ks d).clauses).1⟩ := by
  have hterminal := fillCarrying_terminal hp vs.length
  rw [show (c.planOf l q ks d).ending = d.ending from rfl, hending] at hterminal
  have hclauses := lifted_clauses_eq (p := c.planOf l q ks d) hes hterminal.symm
  rw [assemble_eq hp rfl rfl, hclauses]
  exact ⟨rfl, rfl⟩

/-- Compiling a query comes to the statement of its plan, with its literals in place or lifted. -/
theorem compileIn_eq (l : Listing) (c : Corpus) (q : Query) :
    c.compileIn l q = (c.plan l q).map fun p =>
      ⟨⟨(c.lifted 0 p.clauses).1⟩, .ofValues (c.lifted 0 p.clauses).2, p.ending.columns,
        p.ending.mode⟩ := by
  unfold compileIn plan
  cases hfault : q.intent.mutationFault? with
  | some fault => rfl
  | none =>
    cases ht : c.hierarchy.tier q.tier with
    | error e => rfl
    | ok t =>
      have hconditions : Generation.empty.conditions = [] := rfl
      have hparameters : Generation.empty.parameters = .ofValues [] := by
        simp [Generation.empty, Parameters.ofValues]
      simp only [hconditions, hparameters, Generation.foldlM_addFilter]
      cases hc : c.conditions q.tier q.effectiveFilters with
      | error e => rfl
      | ok ks =>
        obtain ⟨⟨es, vs⟩, hes⟩ : ∃ lifted, liftEach (liftIf c.config.parameterize Expr.lift) 0
          (ks.map (·.expr)) = lifted := ⟨_, rfl⟩
        simp only [Except.map, bind, Except.bind, List.nil_append, List.length_nil, hes,
          Generation.addIntent_eq]
        cases hd : c.demand q.tier q.intent with
        | error e => rfl
        | ok d =>
          obtain ⟨⟨ending, ws⟩, hending⟩ :
            ∃ r, d.ending.inTurn c.config.parameterize vs.length = r := ⟨_, rfl⟩
          have hp := plan_of_parts (l := l) hfault (Hierarchy.hasTier_of_tier ht) hc hd
          have hcollected : d.wanted.foldl Collected.want (d.required.foldl Collected.require
              ((ks.flatMap (·.nodes)).foldl Collected.require
                (Collected.empty.require (.token (c.anchor q.tier))))) =
              Collected.ofNodes
                (.token (c.anchor q.tier) :: ks.flatMap (·.nodes) ++ d.required) d.wanted := by
            simp [Collected.ofNodes, List.foldl_append]
          have hcolumns : ending.columns = d.ending.columns := by
            rw [← d.ending.columns_inTurn c.config.parameterize vs.length, hending]
          have hmode : ending.mode = d.ending.mode := by
            rw [← d.ending.mode_inTurn c.config.parameterize vs.length, hending]
          obtain ⟨hvalues, hassemble⟩ := assemble_of_parts hp (.ofValues (vs ++ ws)) hes hending
          simp only [hcollected, hending, hassemble, hcolumns, hmode, pure, Except.pure, hvalues]
          rfl

/-- A query fails to compile where it has no plan. -/
theorem compile_eq_error {e : QueryError} :
    c.compileIn l q = .error e ↔ c.plan l q = .error e := by
  rw [compileIn_eq, map_eq_error]

/-- A query compiles if and only if it has a plan. -/
theorem exists_compile_iff_plan :
    (∃ s, c.compileIn l q = .ok s) ↔ ∃ p, c.plan l q = .ok p := by
  rw [compileIn_eq, exists_map_eq_ok]

/-- A compiled statement is that of the query's plan, with its literals in place or lifted. -/
theorem compile_eq_ok {s : CompiledStatement} (h : c.compileIn l q = .ok s) :
    ∃ p, c.plan l q = .ok p ∧ s.columns = p.ending.columns ∧ s.mode = p.ending.mode ∧
      s.statement.clauses = (c.lifted 0 p.clauses).1 ∧
      s.parameters = .ofValues (c.lifted 0 p.clauses).2 := by
  rw [compileIn_eq] at h
  obtain ⟨p, hp, rfl⟩ := map_eq_ok h
  exact ⟨p, hp, rfl, rfl, rfl, rfl⟩

theorem stages_lifted (hp : c.plan l q = .ok p) :
    Statement.Stages ⟨(c.lifted 0 p.clauses).1⟩ (p.required.patterns c.hierarchy p.required)
      (c.lifted 0 p.filterClauses).1 p.carryingClauses
      (p.optional.patterns c.hierarchy (p.required ++ p.optional))
      (c.lifted (c.lifted 0 p.filterClauses).2.length p.endingClauses).1 := by
  rw [lifted_clauses]
  refine ⟨?_, ?_, fun k => Plan.mem_carryingClauses, fun k => final_lifted⟩
  · rw [Plan.optionalClauses, hierarchy_plan hp]
  · intro k' hk'
    obtain ⟨k, hk, hlift⟩ := exists_left_of_forall₂ (forall₂_lifted 0 p.filterClauses) hk'
    rw [Plan.mem_filterClauses hk] at hlift
    rcases hlift with rfl | ⟨n, rfl⟩ <;> exact ⟨_, rfl⟩

/-- The stages of a compiled statement are those of its plan. The lifted values are those of the
conditions and of the last clauses. -/
theorem compile_stages {s : CompiledStatement} (h : c.compileIn l q = .ok s) :
    ∃ p n, c.plan l q = .ok p ∧ s.columns = p.ending.columns ∧
      s.statement.Stages (p.required.patterns c.hierarchy p.required)
        (c.lifted 0 p.filterClauses).1 p.carryingClauses
        (p.optional.patterns c.hierarchy (p.required ++ p.optional))
        (c.lifted n p.endingClauses).1 ∧
      s.parameters =
        .ofValues ((c.lifted 0 p.filterClauses).2 ++ (c.lifted n p.endingClauses).2) := by
  rw [compileIn_eq] at h
  obtain ⟨p, hp, rfl⟩ := map_eq_ok h
  refine ⟨p, _, hp, rfl, stages_lifted hp, ?_⟩
  rw [lifted_clauses]

/-- Why a query fails to compile does not depend on how sets of nodes are listed. -/
theorem compile_eq_error_iff (l' : Listing) {e : QueryError} :
    c.compileIn l q = .error e ↔ c.compileIn l' q = .error e := by
  rw [compile_eq_error, compile_eq_error, plan_eq_error, plan_eq_error]

/-- When different nodes have different aliases, it does not matter how sets of nodes are listed. -/
theorem compile_eq_of_distinct {s : CompiledStatement} (h : c.compileIn l q = .ok s)
    (hdistinct : c.DistinctAliases q s.columns) (l' : Listing) : c.compileIn l' q = .ok s := by
  obtain ⟨p, hp, hcolumns, -⟩ := compile_eq_ok h
  rw [hcolumns] at hdistinct
  rw [compileIn_eq, plan_eq_of_distinct hp hdistinct l', ← hp, ← compileIn_eq, h]

/-- The statement is the same when sets of nodes are listed in the same way, or when different nodes
have different aliases. -/
theorem compile_eq_of_listing {s : CompiledStatement} (h : c.compileIn l q = .ok s)
    {l' : Listing} (hl : l = l' ∨ c.DistinctAliases q s.columns) : c.compileIn l' q = .ok s := by
  rcases hl with rfl | hdistinct
  · exact h
  · exact compile_eq_of_distinct h hdistinct l'

/-- Whether different nodes have different aliases can be read off the plan. -/
theorem distinctAliases_of_plan {s : CompiledStatement} (h : c.compileIn l q = .ok s)
    {aliases : List String} (ha : (c.plan l q).toOption.map (fun p =>
      (p.required ++ p.optional).map Node.aliasName) = some aliases) (hn : aliases.Nodup) :
    c.DistinctAliases q s.columns := by
  obtain ⟨p, hp, hcolumns, -⟩ := compile_eq_ok h
  rw [hp] at ha
  have haliases : (p.required ++ p.optional).map Node.aliasName = aliases := Option.some.inj ha
  rw [hcolumns]
  exact distinctAliases_of_nodup hp (haliases ▸ hn)

end Corpus

end AnnotationQuery
