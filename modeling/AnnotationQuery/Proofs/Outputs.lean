import AnnotationQuery.Proofs.Compilation

/-!
# Outputs restrict no rows

What a query returns, deletes or caches has no part in finding its rows. The `MATCH`, the `WHERE`
and the parameters depend on the tier and the filters only; nodes that only the output refers to are
matched optionally, an annotation and its type node together and every other node on its own.

Results:
* `Group.bindEach_patterns`: which pattern of a group binds which node.
* `Corpus.plain_ending`: what is returned, deleted or cached holds no literals.
* `Corpus.plan_congr`: queries with the same filters require the same nodes.
* `Corpus.outputs_restrict_nothing`: two queries with the same filters find the same rows.
-/

namespace AnnotationQuery

/-! ## Binding nodes one by one -/

/-- The patterns introduce exactly the nodes with a property, each once: an annotation together with
its type node if both have the property, every other node on its own. -/
structure PathPattern.BindEach (patterns : List PathPattern) (P : Node → Prop) : Prop where
  introduced : ∃ nodes : List Node, nodes.Nodup ∧ (∀ n, n ∈ nodes ↔ P n) ∧
    patterns.flatMap PathPattern.introduced = nodes.map Node.nodePattern
  together : ∀ r, P (.token r) → P (.type r) → ∃ p ∈ patterns,
    p.introduced = [(Node.token r).nodePattern, (Node.type r).nodePattern]
  alone : ∀ n, P n → (∀ r, n = .token r → ¬P (.type r)) → (∀ r, n = .type r → ¬P (.token r)) →
    ∃ p ∈ patterns, p.introduced = [n.nodePattern]

/-- The patterns of a group bind its nodes. -/
theorem Group.bindEach_patterns {h : Hierarchy} {available : List Node} {group : Group}
    (hn : group.Nodup) {P : Node → Prop} (hP : ∀ n, n ∈ group ↔ P n) :
    PathPattern.BindEach (group.patterns h available) P where
  introduced := ⟨group.bindingSequence, nodup_bindingSequence hn,
    fun n => mem_bindingSequence.trans (hP n), introduced_patterns h available group⟩
  together r htoken htype := by
    rw [← hP] at htoken htype
    have hcompanion : group.companion? (.token r) = some (.type r) :=
      companion?_eq_some.2 ⟨r, rfl, rfl, htype⟩
    refine ⟨_, List.mem_map_of_mem (List.mem_filter.2 ⟨htoken, leads_token r⟩), ?_⟩
    rw [introduced_pattern, boundBy, hcompanion]
    rfl
  alone n hn htoken htype := by
    simp only [← hP] at hn htoken htype
    have hleads : group.leads n = true := by
      cases hl : group.leads n with
      | true => rfl
      | false =>
        obtain ⟨r, rfl, hr⟩ := leads_eq_false hl
        exact absurd hr (htype r rfl)
    have hcompanion : group.companion? n = none := by
      rw [Option.eq_none_iff_forall_ne_some]
      intro m hm
      obtain ⟨r, rfl, rfl, hr⟩ := companion?_eq_some.1 hm
      exact htoken r rfl hr
    refine ⟨_, List.mem_map_of_mem (List.mem_filter.2 ⟨hn, hleads⟩), ?_⟩
    rw [introduced_pattern, boundBy, hcompanion]
    rfl

/-! ## Queries without values -/

/-- The matched annotations are returned, deleted or cached: the intent holds no values. -/
def Intent.Plain : Intent → Prop
  | project _ | delete | cache => True
  | setProperties _ | setLabels _ | removeLabels _ => False

namespace Corpus

variable {l l' : Listing} {c : Corpus} {q q' : Query} {p p' : Plan}

/-- What is returned, deleted or cached holds no literals. -/
theorem plain_ending (h : c.plan l q = .ok p) (hi : q.intent.Plain) :
    ∀ k ∈ p.endingClauses, k.Plain := by
  intro k hk
  cases hq : q.intent with
  | project pr =>
    obtain ⟨output, ho, hending⟩ := ending_plan_project h hq
    rw [Plan.endingClauses, hending] at hk
    rw [List.mem_singleton.1 hk]
    exact Clause.plain_returning (fun i => Output.plain_items ho) fun o => Output.plain_orderBy ho
  | delete | cache =>
    rw [Plan.endingClauses, ending_plan h hq rfl] at hk
    rw [List.mem_singleton.1 hk]
    exact fun _ => rfl
  | setProperties _ | setLabels _ | removeLabels _ =>
    rw [hq] at hi
    exact hi.elim

theorem required_demand {d : Demand} (hd : c.demand q.tier q.intent = .ok d)
    (hi : q.intent.Plain) : d.required = [] := by
  cases hq : q.intent with
  | project pr =>
    rw [hq] at hd
    obtain ⟨output, -, rfl⟩ := demand_project hd
    rfl
  | delete | cache =>
    rw [hq] at hd
    obtain rfl := Except.ok.inj hd
    rfl
  | setProperties _ | setLabels _ | removeLabels _ =>
    rw [hq] at hi
    exact hi.elim

/-- Queries with the same tier and filters require the same nodes and have the same conditions. -/
theorem plan_congr (htier : q.tier = q'.tier) (hfilters : q.effectiveFilters = q'.effectiveFilters)
    (hi : q.intent.Plain) (hi' : q'.intent.Plain) (h : c.plan l q = .ok p)
    (h' : c.plan l q' = .ok p') : p.required = p'.required ∧ p.conditions = p'.conditions := by
  obtain ⟨conditions, d, -, -, hc, hd, rfl⟩ := plan_eq_ok h
  obtain ⟨conditions', d', -, -, hc', hd', rfl⟩ := plan_eq_ok h'
  rw [htier, hfilters] at hc
  obtain rfl := Except.ok.inj (hc.symm.trans hc')
  simp only [planOf, Collected.required_ofNodes, required_demand hd hi, required_demand hd' hi',
    htier, and_self]

/-- The anchor and the nodes that filters refer to, with all that these need. -/
def Filtered (c : Corpus) (q : Query) (n : Node) : Prop :=
  ∃ m, m.Needs n ∧
    (m = .token (c.anchor q.tier) ∨ ∃ f ∈ q.effectiveFilters, c.FilterRefers q.tier f m)

theorem filtered_iff (hi : q.intent.Plain) {n : Node} : c.Filtered q n ↔ c.Requires q n := by
  have hchanges : ¬q.intent.changesType := by
    cases hq : q.intent with
    | project _ | delete | cache => exact id
    | setProperties _ | setLabels _ | removeLabels _ =>
      rw [hq] at hi
      exact hi.elim
  simp only [requires_iff, Filtered, hchanges, false_and, or_false]

/-- Two queries on one tier with the same filters have the same `MATCH`, `WHERE` and parameters,
whatever they return, whether they delete or cache, and however sets of nodes are listed. The
`MATCH` binds what the filters need; the `OPTIONAL MATCH` clauses bind what only the output
needs. -/
theorem outputs_restrict_nothing {s s' : CompiledStatement} (htier : q.tier = q'.tier)
    (hfilters : q.effectiveFilters = q'.effectiveFilters) (hi : q.intent.Plain)
    (hi' : q'.intent.Plain) (h : c.compileIn l q = .ok s) (h' : c.compileIn l' q' = .ok s')
    (hdistinct : c.DistinctAliases q s.columns) :
    ∃ required filters carried optional ending carried' optional' ending',
      s.statement.Stages required filters carried optional ending ∧
      s'.statement.Stages required filters carried' optional' ending' ∧
      s.parameters = s'.parameters ∧
      PathPattern.BindEach required (c.Filtered q) ∧
      PathPattern.BindEach optional (fun n => c.Shows q s.columns n ∧ ¬c.Filtered q n) ∧
      PathPattern.BindEach optional' (fun n => c.Shows q' s'.columns n ∧ ¬c.Filtered q' n) := by
  replace h := compile_eq_of_distinct h hdistinct l'
  obtain ⟨p, n, hp, hcolumns, hstages, hparameters⟩ := compile_stages h
  obtain ⟨p', n', hp', hcolumns', hstages', hparameters'⟩ := compile_stages h'
  obtain ⟨hrequired, hconditions⟩ := plan_congr htier hfilters hi hi' hp hp'
  have hfilters : p.filterClauses = p'.filterClauses := by
    rw [Plan.filterClauses, Plan.filterClauses, hconditions]
  rw [lifted_of_plain (plain_ending hp hi), List.append_nil] at hparameters
  rw [lifted_of_plain (plain_ending hp' hi'), List.append_nil, ← hfilters] at hparameters'
  rw [← hfilters, ← hrequired] at hstages'
  obtain ⟨hreq, hopt, -⟩ := List.nodup_append'.1 (nodup_bound hp)
  obtain ⟨-, hopt', -⟩ := List.nodup_append'.1 (nodup_bound hp')
  refine ⟨_, _, _, _, _, _, _, _, hstages, hstages', hparameters.trans hparameters'.symm,
    Group.bindEach_patterns hreq fun n => ?_, Group.bindEach_patterns hopt fun n => ?_,
    Group.bindEach_patterns hopt' fun n => ?_⟩
  · rw [mem_required hp, filtered_iff hi]
  · rw [mem_optional hp, filtered_iff hi, hcolumns]
  · rw [mem_optional hp', filtered_iff hi', hcolumns']

end Corpus

/-- A query for the phones of the syllable `a`, and what is done with them. -/
def Query.ofSyllable (intent : Intent) : Query :=
  ⟨"phone", none, [⟨⟨["phone", "syllable", "label"]⟩, .equal, .literal (.string "a")⟩], intent⟩

/-- The first word label. -/
def Projection.wordLabel : Projection :=
  ⟨[⟨⟨["phone", "word", "label"]⟩, "word"⟩], [], [⟨⟨["word"]⟩, false⟩], some 1, true⟩

theorem Corpus.outputs_restrict_nothing_small :
    ∃ s s', small.compileIn .arrival (.ofSyllable (.project .wordLabel)) = .ok s ∧
      small.compileIn .reversed (.ofSyllable .delete) = .ok s' ∧
      small.DistinctAliases (.ofSyllable (.project .wordLabel)) s.columns ∧
      ∃ required filters carried optional ending carried' optional' ending',
        s.statement.Stages required filters carried optional ending ∧
        s'.statement.Stages required filters carried' optional' ending' ∧
        s.parameters = s'.parameters := by
  have hok : (small.compileIn .arrival
      (.ofSyllable (.project .wordLabel))).toOption.isSome = true := by decide
  have hok' : (small.compileIn .reversed (.ofSyllable .delete)).toOption.isSome = true := by decide
  obtain ⟨s, hs⟩ := exists_eq_ok hok
  obtain ⟨s', hs'⟩ := exists_eq_ok hok'
  have hnames : (small.plan .arrival (.ofSyllable (.project .wordLabel))).toOption.map (fun p =>
      (p.required ++ p.optional).map Node.aliasName) =
      some ["node_phone", "node_phone_syllable", "type_node_phone_syllable", "node_phone_word",
        "type_node_phone_word"] := by decide
  have hdistinct := distinctAliases_of_plan hs hnames (by decide)
  have htier : (Query.ofSyllable (.project .wordLabel)).tier = (Query.ofSyllable .delete).tier :=
    rfl
  have hfilters : (Query.ofSyllable (.project .wordLabel)).effectiveFilters =
      (Query.ofSyllable .delete).effectiveFilters := rfl
  obtain ⟨required, filters, carried, optional, ending, carried', optional', ending', hstages,
    hstages', hparameters, -⟩ :=
    outputs_restrict_nothing htier hfilters trivial trivial hs hs' hdistinct
  exact ⟨s, s', hs, hs', hdistinct, required, filters, carried, optional, ending, carried',
    optional', ending', hstages, hstages', hparameters⟩

end AnnotationQuery
