import AnnotationQuery.Proofs.Compilation

/-!
# Compiled statements are well scoped

The groups of a plan are bound in an order in which every pattern starts at an alias introduced
before. The `WITH` in front of the optional clauses drops only what no later clause mentions, so the
last clauses find all aliases that they use.

Results:
* `Group.scopedAll_patterns`: the patterns of a sorted group are scoped.
* `Corpus.scopedFrom_clauses`: the clauses of a plan are scoped.
* `Corpus.carried_required`: what the `WITH` carries.
* `Corpus.nodup_aliases`: no alias is introduced twice.
* `Corpus.compile_scoped`: the same for compiled statements.
-/

namespace AnnotationQuery

/-! ## Patterns -/

namespace Group

variable {h : Hierarchy} {available : List Node} {group : Group} {n : Node}

/-- The only alias that the pattern of a node uses is that of its start. -/
theorem scoped_pattern {scope : List String} :
    (group.pattern h available n).Scoped scope ↔
      ∀ start, n.start? available = some start → start.aliasName ∈ scope := by
  unfold pattern
  rw [Node.pattern_eq]
  cases n.start? available <;> cases group.companion? n <;>
    simp [PathPattern.Scoped, PathPattern.nodes, PathPattern.single, PathPattern.andThen,
      NodePattern.bound, Node.nodePattern, Node.labels]

theorem start_mem_aliases {start : Reference} (hs : n.start? available = some start) :
    start.aliasName ∈ (group.pattern h available n).aliases := by
  unfold pattern
  rw [Node.pattern_eq, hs]
  cases group.companion? n <;>
    simp [PathPattern.aliases, PathPattern.nodes, PathPattern.andThen, NodePattern.bound]

theorem introducedAliases_pattern :
    (group.pattern h available n).introducedAliases = (group.boundBy n).map Node.aliasName := by
  rw [PathPattern.introducedAliases, introduced_pattern, List.map_map]
  rfl

/-- The patterns of a group introduce the aliases of the group. -/
theorem introducedAliases_patterns :
    (group.patterns h available).flatMap PathPattern.introducedAliases = group.aliases := by
  have h := congrArg (List.map (·.aliasName)) (introduced_patterns h available group)
  rwa [List.map_flatMap, List.map_map] at h

/-- The patterns of a sorted group are scoped when the starts outside the group are in scope. -/
theorem scopedAll_patterns {scope : List String} (hs : Node.Sorted group)
    (hstart : ∀ n ∈ group, group.leads n = true → ∀ start, n.start? available = some start →
      start.aliasName ∈ scope ∨ .token start ∈ group) :
    PathPattern.ScopedAll scope (group.patterns h available) := by
  have hsorted : Node.Sorted (group.filter group.leads) := List.Pairwise.filter _ hs
  -- The induction is on the nodes that remain; `before` are those that are bound already.
  suffices hrest : ∀ rest before, group.filter group.leads = before ++ rest →
      PathPattern.ScopedAll (scope ++ (before.flatMap group.boundBy).map Node.aliasName)
        (rest.map (group.pattern h available)) by
    have := hrest _ [] rfl
    rwa [List.flatMap_nil, List.map_nil, List.append_nil] at this
  intro rest
  induction rest with
  | nil => exact fun _ _ => trivial
  | cons n rest ih =>
    intro before heq
    have hn : n ∈ group.filter group.leads := heq ▸ List.mem_append_right _ List.mem_cons_self
    obtain ⟨hn, hl⟩ := List.mem_filter.1 hn
    rw [List.map_cons, PathPattern.scopedAll_cons]
    constructor
    · refine scoped_pattern.2 fun start hst => ?_
      rcases hstart n hn hl start hst with hscope | hgroup
      · exact List.mem_append_left _ hscope
      · have hmem : Node.token start ∈ before ++ n :: rest :=
          heq ▸ List.mem_filter.2 ⟨hgroup, leads_token start⟩
        rw [heq] at hsorted
        have hbefore := Node.start_before hsorted hmem hst
        refine List.mem_append_right _ (List.mem_map.2 ⟨.token start, ?_, rfl⟩)
        exact List.mem_flatMap.2 ⟨_, hbefore, mem_boundBy.2 (.inl rfl)⟩
    · have hnext := ih (before ++ [n]) (by rw [heq, List.append_assoc, List.singleton_append])
      rw [introducedAliases_pattern]
      simpa [List.append_assoc] using hnext

end Group

namespace Corpus

variable {l : Listing} {c : Corpus} {q : Query} {p : Plan}

/-! ## The clauses of a plan -/

/-- The last clauses are scoped wherever all aliases that they mention are in scope. -/
theorem scopedFrom_ending (h : c.plan l q = .ok p) {scope : List String}
    (hscope : ∀ a ∈ p.endingClauses.flatMap Clause.aliases, a ∈ scope) :
    Clause.ScopedFrom scope p.endingClauses := by
  have hspec := fun k (hk : k ∈ p.endingClauses) => ending_spec h hk
  rcases p.endingClauses_cases with ⟨k, heq⟩ | ⟨set, remove, heq⟩
  · rw [heq] at hspec hscope ⊢
    exact ⟨(hspec k (List.mem_singleton_self k)).1 scope (by simpa using hscope), trivial⟩
  · rw [heq] at hspec hscope ⊢
    simp only [List.flatMap_cons, List.flatMap_nil, List.append_nil, List.mem_append] at hscope
    obtain ⟨-, hremove⟩ := hspec (.removing remove) (by simp)
    refine ⟨(hspec (.setting set) (by simp)).1 scope fun a ha => hscope a (.inl ha), ?_, ?_,
      trivial⟩
    · exact fun a ha => List.mem_append_left _ (hscope a (.inr (.inl ha)))
    · refine Clause.closed_removing remove _ fun a ha => Plan.mem_carried (hremove a ha) ?_
      simpa using ha

/-- The optional clauses mention the starts of their patterns. -/
theorem start_mentioned {n : Node} (hn : n ∈ p.optional) (hl : p.optional.leads n = true)
    {start : Reference} (hs : n.start? (p.required ++ p.optional) = some start) :
    start.aliasName ∈ (p.optionalClauses ++ p.endingClauses).flatMap Clause.aliases := by
  rw [List.flatMap_append]
  refine List.mem_append_left _ (List.mem_flatMap.2 ⟨_, List.mem_map_of_mem
    (List.mem_map_of_mem (List.mem_filter.2 ⟨hn, hl⟩)), ?_⟩)
  rw [Clause.aliases, List.flatMap_singleton]
  exact Group.start_mem_aliases hs

/-- The clauses behind the `WITH` are scoped when it carries the required aliases that they
mention. -/
theorem scopedFrom_later (h : c.plan l q = .ok p) {scope : List String}
    (hscope : ∀ a ∈ p.required.aliases,
      a ∈ (p.optionalClauses ++ p.endingClauses).flatMap Clause.aliases → a ∈ scope) :
    Clause.ScopedFrom scope (p.optionalClauses ++ p.endingClauses) := by
  refine Clause.scopedFrom_optionalMatching.2 ⟨?_, scopedFrom_ending h fun a ha => ?_⟩
  · refine Group.scopedAll_patterns (sorted_plan h).2 fun n hn hl start hs => ?_
    have hstart := Node.start_mem (closed_bound h) (List.mem_append_right _ hn) hs
    refine (List.mem_append.1 hstart).imp_left fun hreq => ?_
    exact hscope _ (Group.mem_aliases.2 ⟨_, hreq, rfl⟩) (start_mentioned hn hl hs)
  · rw [Group.introducedAliases_patterns]
    obtain ⟨k, hk, hmem⟩ := List.mem_flatMap.1 ha
    rcases List.mem_append.1 ((ending_spec h hk).2 a hmem) with hreq | hopt
    · refine List.mem_append_left _ (hscope a hreq ?_)
      rw [List.flatMap_append]
      exact List.mem_append_right _ ha
    · exact List.mem_append_right _ hopt

theorem scoped_conditions (h : c.plan l q = .ok p) :
    (Clause.filtering p.conditions).Scoped p.required.aliases := by
  obtain ⟨conditions, hc, heq⟩ := conditions_plan h
  rw [heq]
  intro e he
  obtain ⟨k, hk, rfl⟩ := List.mem_map.1 he
  obtain ⟨f, hf, hfk⟩ := (mem_mapM hc).1 hk
  obtain ⟨haliases, hclosed⟩ := aliases_condition hfk
  refine hclosed.scoped fun a ha => ?_
  obtain ⟨n, hn, hname⟩ := haliases a ha
  have hreq : c.Requires q n := .filter hf ((mem_condition_nodes hfk).1 hn)
  exact Group.mem_aliases.2 ⟨n, (mem_required h).2 hreq, hname⟩

theorem scoped_match (h : c.plan l q = .ok p) :
    (Clause.matching (p.required.patterns p.hierarchy p.required)).Scoped [] :=
  Group.scopedAll_patterns (sorted_plan h).1 fun _ hn _ _ hs =>
    .inr (Node.start_mem (closed_required h) hn hs)

/-- The clauses of a plan are scoped. -/
theorem scopedFrom_clauses (h : c.plan l q = .ok p) : Clause.ScopedFrom [] p.clauses := by
  have hafter : (Clause.matching (p.required.patterns p.hierarchy p.required)).scopeAfter [] =
      p.required.aliases := Group.introducedAliases_patterns
  have hcarried : (Clause.carrying (p.carried p.required.aliases
      (p.optionalClauses ++ p.endingClauses))).Scoped p.required.aliases := by
    intro a ha
    rcases Plan.mem_of_mem_carried ha with ha | rfl
    · exact ha
    · rw [anchor_plan h]
      exact anchor_mem_aliases h
  have hlater : Clause.ScopedFrom p.required.aliases
      ((if p.optionalClauses.isEmpty then [] else [.carrying (p.carried p.required.aliases
        (p.optionalClauses ++ p.endingClauses))]) ++
          (p.optionalClauses ++ p.endingClauses)) := by
    split
    · exact scopedFrom_later h fun a ha _ => ha
    · exact ⟨hcarried, scopedFrom_later h fun a ha hm => Plan.mem_carried ha hm⟩
  rw [Plan.clauses, List.append_assoc, List.append_assoc]
  refine ⟨scoped_match h, ?_⟩
  rw [hafter]
  split
  · exact hlater
  · refine ⟨scoped_conditions h, ?_⟩
    rw [show (Clause.filtering p.conditions).scopeAfter p.required.aliases = p.required.aliases from
      List.append_nil _]
    exact hlater

/-- In front of optional clauses, the `WITH` carries exactly the required aliases that later clauses
mention: the first optional pattern starts at a required node. -/
theorem carried_required (h : c.plan l q = .ok p) (hne : p.optionalClauses ≠ []) :
    p.carried p.required.aliases (p.optionalClauses ++ p.endingClauses) =
      p.required.aliases.filter
        (((p.optionalClauses ++ p.endingClauses).flatMap Clause.aliases).contains ·) := by
  cases hlead : p.optional.filter p.optional.leads with
  | nil =>
    rw [Plan.optionalClauses, Group.patterns, hlead] at hne
    exact absurd rfl hne
  | cons n rest =>
    obtain ⟨hn, hl⟩ := List.mem_filter.1 (hlead ▸ List.mem_cons_self)
    obtain ⟨hshow, hnot⟩ := (mem_optional h).1 hn
    cases hs : n.start? (p.required ++ p.optional) with
    | none =>
      obtain ⟨corpus, tier, rfl⟩ := Node.start?_eq_none hs
      cases hshow.climbs
      exact absurd .anchor hnot
    | some start =>
      have hstart := Node.start_mem (closed_bound h) (List.mem_append_right _ hn) hs
      rcases List.mem_append.1 hstart with hreq | hopt
      · exact Plan.carried_eq_filter (Group.mem_aliases.2 ⟨_, hreq, rfl⟩)
          (start_mentioned hn hl hs)
      · have hsorted : Node.Sorted ([] ++ n :: rest) :=
          hlead ▸ List.Pairwise.filter _ (sorted_plan h).2
        have hmem : Node.token start ∈ [] ++ n :: rest :=
          hlead ▸ List.mem_filter.2 ⟨hopt, Group.leads_token start⟩
        cases Node.start_before hsorted hmem hs

theorem carryingClauses_eq (h : c.plan l q = .ok p) :
    p.carryingClauses = if p.optionalClauses.isEmpty then [] else
      [.carrying (p.required.aliases.filter
        ((p.optionalClauses ++ p.endingClauses).flatMap Clause.aliases).contains)] := by
  unfold Plan.carryingClauses
  split
  · rfl
  · rename_i hne
    rw [carried_required h (by simpa using hne)]

/-! ## What the clauses introduce -/

theorem introducedAliases_clauses (p : Plan) :
    p.clauses.flatMap Clause.introducedAliases = p.aliases := by
  have hfilters : p.filterClauses.flatMap Clause.introducedAliases = [] := by
    unfold Plan.filterClauses
    split <;> rfl
  have hcarrying : p.carryingClauses.flatMap Clause.introducedAliases = [] := by
    unfold Plan.carryingClauses
    split <;> rfl
  have hoptional : p.optionalClauses.flatMap Clause.introducedAliases = p.optional.aliases := by
    simp only [Plan.optionalClauses, List.flatMap_map, Clause.introducedAliases,
      List.flatMap_singleton]
    exact Group.introducedAliases_patterns
  have hending : p.endingClauses.flatMap Clause.introducedAliases = [] := by
    rw [List.flatMap_eq_nil_iff]
    intro k hk
    have hfinal := Plan.final_endingClauses hk
    cases k <;> first | rfl | cases hfinal
  rw [p.clauses_eq, List.flatMap_cons, List.flatMap_append, List.flatMap_append,
    List.flatMap_append, hfilters, hcarrying, hoptional, hending, List.append_nil]
  exact congrArg (· ++ _) Group.introducedAliases_patterns

/-- When different nodes have different aliases, no alias is introduced twice. -/
theorem nodup_aliases (h : c.plan l q = .ok p) (hd : c.DistinctAliases q p.ending.columns) :
    p.aliases.Nodup := by
  have hbound := nodup_bound h
  obtain ⟨hreq, hopt, hdisjoint⟩ := List.nodup_append'.1 hbound
  have hsequence : (p.required.bindingSequence ++ p.optional.bindingSequence).Nodup := by
    refine (Group.nodup_bindingSequence hreq).append (Group.nodup_bindingSequence hopt) ?_
    intro n hn hn'
    exact hdisjoint (Group.mem_bindingSequence.1 hn) (Group.mem_bindingSequence.1 hn')
  have hmem : ∀ n ∈ p.required.bindingSequence ++ p.optional.bindingSequence,
      c.Requires q n ∨ c.Shows q p.ending.columns n := by
    intro n hn
    rw [List.mem_append, Group.mem_bindingSequence, Group.mem_bindingSequence] at hn
    exact (mem_bound h).1 (List.mem_append.2 hn)
  rw [Plan.aliases, Group.aliases, Group.aliases, ← List.map_append]
  exact hsequence.map_on fun m hm n hn => hd m n (hmem m hm) (hmem n hn)

/-! ## Sorting -/

theorem orderBy_lift {k : Clause} {distinct : Bool} {items : List ReturnItem}
    {orderBy : List OrderItem} {limit : Option Nat}
    (h : k.Lifts (.returning distinct items orderBy limit)) :
    ∃ items' orderBy', k = .returning distinct items' orderBy' limit ∧
      ∀ o ∈ orderBy, ∀ name, o.expr = .column name → ∃ o' ∈ orderBy', o'.expr = .column name := by
  rcases h with rfl | ⟨n, hn⟩
  · exact ⟨items, orderBy, rfl, fun o ho name hname => ⟨o, ho, hname⟩⟩
  · cases k with
    | returning distinct' items' orderBy' limit' =>
      injection hn with hdistinct hitems horder hlimit
      subst hdistinct hlimit
      refine ⟨items', orderBy', rfl, fun o ho name hname => ?_⟩
      rw [horder] at ho
      obtain ⟨o', ho', m, rfl⟩ := exists_left_of_forall₂ (forall₂_liftEach _ _) ho
      refine ⟨o', ho', ?_⟩
      cases he : o'.expr <;> simp [OrderItem.lift, he, Expr.lift] at hname ⊢
      exact hname
    | matching _ | optionalMatching _ | filtering _ | carrying _ | setting _ | removing _
    | deleting _ _ => cases hn

theorem returning_mem_clauses {distinct : Bool} {items : List ReturnItem}
    {orderBy : List OrderItem} {limit : Option Nat}
    (h : .returning distinct items orderBy limit ∈ p.clauses) :
    p.ending = .returning distinct items orderBy limit := by
  rw [p.clauses_eq] at h
  simp only [List.mem_cons, List.mem_append] at h
  rcases h with h | ((h | h) | h) | h
  · cases h
  · cases Plan.mem_filterClauses h
  · obtain ⟨_, h⟩ := Plan.mem_carryingClauses h
    cases h
  · obtain ⟨_, h⟩ := Plan.mem_optionalClauses h
    cases h
  · unfold Plan.endingClauses at h
    split at h <;> simp at h
    rename_i heq
    obtain ⟨rfl, rfl, rfl, rfl⟩ := h
    exact heq

/-- A column that rows are sorted by is a result column. -/
theorem orderBy_mem_columns (h : c.plan l q = .ok p) {distinct : Bool} {items : List ReturnItem}
    {orderBy : List OrderItem} {limit : Option Nat}
    (hend : p.ending = .returning distinct items orderBy limit) {o : OrderItem} (ho : o ∈ orderBy)
    {name : String} (hname : o.expr = .column name) : name ∈ p.ending.columns := by
  cases hi : q.intent with
  | project pr =>
    obtain ⟨output, hout, hending⟩ := ending_plan_project h hi
    injection hend.symm.trans hending with _ hitems horder
    rw [hend, hitems]
    exact Output.column_mem hout (horder ▸ ho) hname
  | setProperties _ | setLabels _ | removeLabels _ | delete | cache =>
    cases hend.symm.trans (ending_plan h hi rfl)

/-! ## Compiled statements -/

/-- Compiled statements are well scoped. The `WITH` in front of the optional clauses carries exactly
the required aliases that later clauses mention, columns that rows are sorted by are result columns,
and no alias is introduced twice when different nodes have different aliases. -/
theorem compile_scoped {s : CompiledStatement} (h : c.compileIn l q = .ok s) :
    Clause.ScopedFrom [] s.statement.clauses ∧
      (∃ required filters carried optional ending,
        s.statement.Stages required filters carried optional ending ∧
          carried = if optional.isEmpty then [] else
            [.carrying ((required.flatMap PathPattern.introducedAliases).filter
              ((optional.map (fun p => Clause.optionalMatching [p]) ++ ending).flatMap
                Clause.aliases).contains)]) ∧
      (∀ distinct items orderBy limit,
        .returning distinct items orderBy limit ∈ s.statement.clauses →
          ∀ o ∈ orderBy, ∀ name, o.expr = .column name → name ∈ s.columns) ∧
      (c.DistinctAliases q s.columns →
        ∀ a ∈ s.statement.clauses.flatMap Clause.boundAliases,
          (s.statement.clauses.flatMap Clause.introducedAliases).count a = 1) := by
  obtain ⟨p, hp, hcolumns, -, hlifted, -⟩ := compile_eq_ok h
  have hclauses : List.Forall₂ Clause.Lifts p.clauses s.statement.clauses :=
    hlifted ▸ forall₂_lifted 0 p.clauses
  have hscoped := (Clause.Lifts.scopedFrom hclauses).2 (scopedFrom_clauses hp)
  have hintroduced : s.statement.clauses.flatMap Clause.introducedAliases = p.aliases :=
    (Clause.Lifts.flatMap_eq hclauses Clause.Lifts.introducedAliases).trans
      (introducedAliases_clauses p)
  refine ⟨hscoped, ?_, ?_, fun hdistinct a ha => ?_⟩
  · obtain ⟨p', n, hp', -, hstages, -⟩ := compile_stages h
    obtain rfl := Except.ok.inj (hp.symm.trans hp')
    refine ⟨_, _, _, _, _, hstages, ?_⟩
    have hending : (c.lifted n p.endingClauses).1.flatMap Clause.aliases =
        p.endingClauses.flatMap Clause.aliases :=
      Clause.Lifts.flatMap_eq (forall₂_lifted n p.endingClauses) Clause.Lifts.aliases
    rw [carryingClauses_eq hp, Group.introducedAliases_patterns, Plan.optionalClauses,
      hierarchy_plan hp, List.isEmpty_map, List.flatMap_append, List.flatMap_append, hending]
  · intro distinct items orderBy limit hk o ho name hname
    obtain ⟨k, hk, hlift⟩ := exists_left_of_forall₂ hclauses hk
    obtain ⟨items', orderBy', rfl, horder⟩ := orderBy_lift hlift
    obtain ⟨o', ho', hname'⟩ := horder o ho name hname
    rw [hcolumns]
    exact orderBy_mem_columns hp (returning_mem_clauses hk) ho' hname'
  · rw [hintroduced]
    refine List.count_eq_one_of_mem (nodup_aliases hp (hcolumns ▸ hdistinct)) ?_
    rw [← hintroduced]
    exact (hscoped.mem_boundAliases ha).resolve_left List.not_mem_nil

end Corpus

/-- A query that shows the syllables of the phones after a phone of the word `a`. -/
def Query.syllableLabels : Query :=
  ⟨"phone", none, [⟨⟨["phone", "previous", "word", "label"]⟩, .equal, .literal (.string "a")⟩],
    .project ⟨[⟨⟨["phone", "syllable", "label"]⟩, "syllable"⟩], [], [⟨⟨["syllable"]⟩, false⟩], none,
      false⟩⟩

theorem Corpus.compile_scoped_small :
    ∃ s, small.compile .syllableLabels = .ok s ∧ small.DistinctAliases .syllableLabels s.columns ∧
      Clause.ScopedFrom [] s.statement.clauses ∧
      ∀ a ∈ s.statement.clauses.flatMap Clause.boundAliases,
        (s.statement.clauses.flatMap Clause.introducedAliases).count a = 1 := by
  have hok : (small.compile .syllableLabels).toOption.isSome = true := by decide
  obtain ⟨s, hs⟩ := exists_eq_ok hok
  have haliases : (small.plan .arrival .syllableLabels).toOption.map (fun p =>
      (p.required ++ p.optional).map Node.aliasName) = some ["node_phone", "node_prev1_phone",
        "node_prev1_phone_word", "type_node_prev1_phone_word", "node_phone_syllable",
        "type_node_phone_syllable"] := by decide
  have hdistinct := distinctAliases_of_plan hs haliases (by decide)
  obtain ⟨hscoped, -, -, hcount⟩ := compile_scoped hs
  exact ⟨s, hs, hdistinct, hscoped, hcount hdistinct⟩

end AnnotationQuery
