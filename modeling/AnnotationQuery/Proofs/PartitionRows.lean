import AnnotationQuery.Proofs.PartitionStatement
import AnnotationQuery.Proofs.PlanRows

/-!
# The rows of a partition

Every annotation of the anchor's tier is linked to one speaker or discourse of the corpus. Matching
that node as well extends each record of the `MATCH` in one way, and binds nothing new where the
node was required already. Where it was matched optionally, the `OPTIONAL MATCH` did the same later
on. So the rows of a partition are those of the base query whose anchor is linked to a node with the
name of the partition.

Results:
* `Graph.matched_gains`: the records of a `MATCH` that matches the speaker or discourse as well.
* `Corpus.matchRecords_narrowed`, `Corpus.rowsOf_narrowed`: the records of a partition, and the rows
  that the optional matches make of each.
* `Corpus.rows_narrowed`: the rows of a partition.
* `bind_filter_eq`: the parts of a collection by a list of names, put together.
* `PartitionedQuery.rows_partitions`: the rows of all partitions.
-/

namespace AnnotationQuery

variable {V : Type*}

/-! ## Speakers and discourses -/

namespace Graph

/-- The second node is a speaker or discourse of the corpus that the first one is linked to. -/
def Belongs (g : Graph V) (kind : EntityKind) (corpus : String) (u w : V) : Prop :=
  g.Edge (Relation.toEntity kind) u w ∧ g.HasLabel w kind.label ∧ g.HasLabel w corpus

/-- It is the only one. -/
def BelongsOnly (g : Graph V) (kind : EntityKind) (corpus : String) (u w : V) : Prop :=
  ∀ w', g.Belongs kind corpus u w' ↔ w' = w

/-- This is the only speaker or discourse of each annotation of a tier. -/
def Links (g : Graph V) (h : Hierarchy) (tier : String) (kind : EntityKind) (link : V → V) : Prop :=
  ∀ u, g.Annotation h tier u → g.BelongsOnly kind h.corpus u (link u)

variable {g : Graph V} {h : Hierarchy} {kind : EntityKind} {r : Reference} {τ : Record V}

theorem aliases_entity : ((Node.entity kind r).pattern h []).aliases =
    [r.aliasName, (Node.entity kind r).aliasName] :=
  rfl

theorem introducedAliases_entity : ((Node.entity kind r).pattern h []).introducedAliases =
    [(Node.entity kind r).aliasName] := by
  simp [PathPattern.introducedAliases, Node.introduced_pattern, Node.nodePattern]

/-- The pattern of a speaker or discourse relates it to its annotation. -/
theorem satisfies_entity (hne : (Node.entity kind r).aliasName ≠ r.aliasName) :
    g.Satisfies τ ((Node.entity kind r).pattern h []) ↔
      ∃ u w, τ r.aliasName = some u ∧ τ (Node.entity kind r).aliasName = some w ∧
        g.Belongs kind r.corpus u w := by
  have hmatches : ∀ σ : String → V, g.Matches σ ((Node.entity kind r).pattern h []) ↔
      g.Belongs kind r.corpus (σ r.aliasName) (σ (Node.entity kind r).aliasName) := by
    intro σ
    simp [Node.pattern, Node.patternOver, matches_bound, Follows, joins_outgoing, Labels, Belongs,
      Node.nodePattern, Node.labels, Node.label, Node.reference]
  unfold Satisfies
  simp only [aliases_entity, hmatches, List.forall_mem_cons, List.not_mem_nil, false_imp_iff,
    implies_true, and_true]
  constructor
  · rintro ⟨σ, ⟨hu, hw⟩, hb⟩
    exact ⟨_, _, hu, hw, hb⟩
  · rintro ⟨u, w, hu, hw, hb⟩
    refine ⟨fun a => if a = r.aliasName then u else w, ?_⟩
    simp only [if_neg hne]
    exact ⟨⟨hu, hw⟩, hb⟩

end Graph

namespace Record

/-- The record with the node that the anchor's is linked to. -/
def linked (link : V → V) (anchor entity : String) (τ : Record V) : Record V :=
  Function.update τ entity ((τ anchor).map link)

variable {link : V → V} {anchor entity a : String} {τ : Record V} {u v : V}

theorem linked_of_ne (h : a ≠ entity) : τ.linked link anchor entity a = τ a :=
  Function.update_of_ne h ..

theorem linked_self : τ.linked link anchor entity entity = (τ anchor).map link :=
  Function.update_self ..

theorem linked_eq_bind (h : τ anchor = some u) :
    τ.linked link anchor entity = τ.bind entity (link u) := by
  rw [linked, h]
  rfl

theorem linked_eq_self (h : τ anchor = some u) (he : τ entity = some (link u)) :
    τ.linked link anchor entity = τ := by
  rw [linked, h, Option.map_some, ← he, Function.update_eq_self]

/-- Binding another alias commutes with linking. -/
theorem linked_bind (ha : a ≠ anchor) (he : a ≠ entity) :
    (τ.bind a v).linked link anchor entity = (τ.linked link anchor entity).bind a v := by
  unfold linked
  rw [bind_of_ne ha.symm]
  exact Function.update_comm he ..

end Record

namespace Graph

variable [Fintype V] {g : Graph V} {h : Hierarchy} {kind : EntityKind} {r : Reference}
  {link : V → V} {ρ τ : Record V} {ps ps' : List PathPattern}

theorem introducedAliases_subset (ps : List PathPattern) :
    ps.flatMap PathPattern.introducedAliases ⊆ ps.flatMap PathPattern.aliases := fun a ha => by
  obtain ⟨p, hp, ha⟩ := List.mem_flatMap.1 ha
  exact List.mem_flatMap.2 ⟨p, hp, p.introducedAliases_subset ha⟩

theorem matched_nil : g.matched [] ρ = {ρ} := by
  classical
  exact Multiset.filter_eq_self.2 fun _ _ => nofun

/-- A `MATCH` that matches the speaker or discourse of an annotation as well has the same records,
each with that node. -/
theorem matched_gains (hps : Gains ((Node.entity kind r).pattern h []) ps ps')
    (hne : (Node.entity kind r).aliasName ≠ r.aliasName)
    (hfree : (Node.entity kind r).aliasName ∉ ps.flatMap PathPattern.aliases)
    (hintroduced : (Node.entity kind r).aliasName ∉ ps.flatMap PathPattern.introducedAliases)
    (hlink : ∀ τ ∈ g.matched ps ρ,
      ∃ u, τ r.aliasName = some u ∧ g.BelongsOnly kind r.corpus u (link u)) :
    g.matched ps' ρ =
      (g.matched ps ρ).map (Record.linked link r.aliasName (Node.entity kind r).aliasName) := by
  classical
  let entity := (Node.entity kind r).aliasName
  have hgains : Gains entity (ps.flatMap PathPattern.introducedAliases)
      (ps'.flatMap PathPattern.introducedAliases) := hps.flatMap introducedAliases_entity
  -- The other patterns do not mention the new alias.
  have hothers : ∀ (τ : Record V) v, (∀ p ∈ ps, g.Satisfies (τ.bind entity v) p) ↔
      ∀ p ∈ ps, g.Satisfies τ p := by
    refine fun τ v => forall₂_congr fun p hp => satisfies_congr fun a ha => Record.bind_of_ne ?_
    rintro rfl
    exact hfree (List.mem_flatMap.2 ⟨p, hp, ha⟩)
  have hsplit : ∀ (τ : Record V) v, (∀ p ∈ ps', g.Satisfies (τ.bind entity v) p) ↔
      (∀ p ∈ ps, g.Satisfies τ p) ∧
        g.Satisfies (τ.bind entity v) ((Node.entity kind r).pattern h []) := by
    intro τ v
    simp only [hps.mem_iff, or_imp, forall_and, forall_eq, hothers]
  unfold matched
  rw [Record.extensions_gains hgains hintroduced, Multiset.filter_bind, ← Multiset.bind_singleton,
    Multiset.bind_filter]
  refine Multiset.bind_congr fun τ hτ => ?_
  rw [Multiset.filter_map]
  split
  · rename_i hall
    obtain ⟨u, hu, honly⟩ := hlink τ (mem_matched.2 ⟨hτ, hall⟩)
    have hsatisfied : ∀ v, (∀ p ∈ ps', g.Satisfies (τ.bind entity v) p) ↔ v = link u := by
      intro v
      rw [hsplit, and_iff_right hall, satisfies_entity hne, ← honly v,
        Record.bind_of_ne hne.symm, Record.bind_self, hu]
      simp
    have hone : (Finset.univ : Finset V).val.filter
        ((fun τ => ∀ p ∈ ps', g.Satisfies τ p) ∘ fun v => τ.bind entity v) = {link u} := by
      refine ((Finset.univ.nodup.filter _).ext (Multiset.nodup_singleton _)).2 fun v => ?_
      rw [Multiset.mem_filter, Function.comp_apply, hsatisfied, Multiset.mem_singleton,
        and_iff_right (Finset.mem_univ_val v)]
    rw [hone, Multiset.map_singleton, Record.linked_eq_bind hu]
  · rename_i hnot
    have hnone : (Finset.univ : Finset V).val.filter
        ((fun τ => ∀ p ∈ ps', g.Satisfies τ p) ∘ fun v => τ.bind entity v) = 0 :=
      Multiset.filter_eq_nil.2 fun v _ hall => hnot ((hsplit τ v).1 hall).1
    rw [hnone, Multiset.map_zero]

/-- Matching the speaker or discourse of an annotation optionally does the same. -/
theorem records_optional_entity {g : PropertyGraph V} {eval : Evaluation V} {u : V}
    (hne : (Node.entity kind r).aliasName ≠ r.aliasName) (hu : ρ r.aliasName = some u)
    (honly : g.BelongsOnly kind r.corpus u (link u)) :
    (Clause.optionalMatching [(Node.entity kind r).pattern h []]).records g eval ρ =
      {ρ.linked link r.aliasName (Node.entity kind r).aliasName} := by
  have hgains : Gains ((Node.entity kind r).pattern h []) [] [(Node.entity kind r).pattern h []] :=
    ⟨[], [], rfl, rfl⟩
  have hmatched : g.matched [(Node.entity kind r).pattern h []] ρ =
      {ρ.linked link r.aliasName (Node.entity kind r).aliasName} := by
    rw [matched_gains hgains hne nofun nofun fun τ hτ => ?_, matched_nil, Multiset.map_singleton]
    rw [matched_nil] at hτ
    rw [Multiset.mem_singleton.1 hτ]
    exact ⟨u, hu, honly⟩
  have hsome : g.matched [(Node.entity kind r).pattern h []] ρ ≠ 0 := by
    rw [hmatched]
    exact Multiset.singleton_ne_zero _
  rw [Clause.records, if_neg hsome, hmatched]

/-- Where it is matched before, an optional match for the speaker or discourse binds nothing new. -/
theorem found_optional_entity {g : PropertyGraph V} {eval : Evaluation V} {u : V}
    {before after : List PathPattern} (hne : (Node.entity kind r).aliasName ≠ r.aliasName)
    (hu : ρ r.aliasName = some u) (honly : g.BelongsOnly kind r.corpus u (link u))
    (hanchor : r.aliasName ∉ before.flatMap PathPattern.introducedAliases)
    (hfree : (Node.entity kind r).aliasName ∉ before.flatMap PathPattern.aliases) :
    Clause.found g eval ((before ++ (Node.entity kind r).pattern h [] :: after).map
        fun p => .optionalMatching [p]) ρ =
      Clause.found g eval ((before ++ after).map fun p => .optionalMatching [p])
        (ρ.linked link r.aliasName (Node.entity kind r).aliasName) := by
  -- The records differ in that node only, until the optional match binds it.
  let Q : Record V → Record V → Prop := fun ρ σ =>
    ρ r.aliasName = some u ∧ σ = ρ.linked link r.aliasName (Node.entity kind r).aliasName
  have hkeeps : Record.Keeps Q (before.flatMap PathPattern.introducedAliases) := by
    rintro a ha ρ _ v ⟨hu, rfl⟩
    have hane : a ≠ r.aliasName := ne_of_mem_of_not_mem ha hanchor
    have hane' : a ≠ (Node.entity kind r).aliasName :=
      ne_of_mem_of_not_mem (introducedAliases_subset before ha) hfree
    refine ⟨?_, (Record.linked_bind hane hane').symm⟩
    rw [Record.bind_of_ne hane.symm, hu]
  have hagree : Record.Agree Q (before.flatMap PathPattern.aliases) := by
    rintro ρ _ ⟨-, rfl⟩ a ha
    exact (Record.linked_of_ne (ne_of_mem_of_not_mem ha hfree)).symm
  have hbefore := Clause.rel_found g eval hkeeps hagree ⟨hu, rfl⟩
  rw [List.map_append, List.map_append, List.map_cons, Clause.found_append, Clause.found_append]
  refine Multiset.rel_eq.1 (Multiset.rel_bind (fun ρ σ => ?_) hbefore)
  rintro ⟨hu, rfl⟩
  rw [Clause.found, records_optional_entity hne hu honly, Multiset.singleton_bind,
    Multiset.rel_eq]

end Graph

/-! ## Aliases -/

theorem PathPattern.ScopedAll.of_append {scope : List String} {ps ps' : List PathPattern}
    (h : ScopedAll scope (ps ++ ps')) : ScopedAll scope ps := by
  induction ps generalizing scope with
  | nil => trivial
  | cons p ps ih => exact ⟨h.1, ih h.2⟩

namespace Corpus

variable {l : Listing} {c : Corpus} {q : Query} {kind : EntityKind} {b b' : Plan}

theorem anchorEntity_ne (c : Corpus) (tier : String) (kind : EntityKind) :
    (c.anchorEntity tier kind).aliasName ≠ (c.anchor tier).aliasName := by
  intro heq
  have hlength : ((c.anchor tier).aliasName ++ "_" ++ kind.word).length =
      (c.anchor tier).aliasName.length := congrArg String.length heq
  rw [String.length_append, String.length_append] at hlength
  have hblank : "_".length = 1 := rfl
  omega

/-- No other node of the query has the alias of the speaker or discourse of its anchor. -/
def EntityApart (c : Corpus) (q : Query) (columns : List String) (kind : EntityKind) : Prop :=
  ∀ n, c.Requires q n ∨ c.Shows q columns n →
    n.aliasName = (c.anchorEntity q.tier kind).aliasName → n = c.anchorEntity q.tier kind

variable (hb : c.plan l q = .ok b) (ha : c.EntityApart q b.ending.columns kind)
include hb ha

theorem entity_mem_required
    (hmem : (c.anchorEntity q.tier kind).aliasName ∈ b.required.aliases) :
    c.anchorEntity q.tier kind ∈ b.required := by
  obtain ⟨n, hn, hname⟩ := Group.mem_aliases.1 hmem
  exact ha n (.inl ((mem_required hb).1 hn)) hname ▸ hn

theorem entity_mem_bound (hmem : (c.anchorEntity q.tier kind).aliasName ∈ b.aliases) :
    c.anchorEntity q.tier kind ∈ b.required ++ b.optional := by
  have hbound : ∃ n ∈ b.required ++ b.optional,
      n.aliasName = (c.anchorEntity q.tier kind).aliasName := by
    rcases List.mem_append.1 hmem with hmem | hmem
    · obtain ⟨n, hn, hname⟩ := Group.mem_aliases.1 hmem
      exact ⟨n, List.mem_append_left _ hn, hname⟩
    · obtain ⟨n, hn, hname⟩ := Group.mem_aliases.1 hmem
      exact ⟨n, List.mem_append_right _ hn, hname⟩
  obtain ⟨n, hn, hname⟩ := hbound
  exact ha n ((mem_bound hb).1 hn) hname ▸ hn

end Corpus

/-! ## The `MATCH` -/

namespace Corpus

/-- The record with the speaker or discourse of the anchor. -/
abbrev linked (c : Corpus) (tier : String) (kind : EntityKind) (link : V → V) (τ : Record V) :
    Record V :=
  τ.linked link (c.anchor tier).aliasName (c.anchorEntity tier kind).aliasName

variable [Fintype V] {g : PropertyGraph V} {eval : Evaluation V} {l : Listing} {c : Corpus}
  {q : Query} {kind : EntityKind} {b b' : Plan} {link : V → V} {τ : Record V}

/-- The `MATCH` binds the anchor to an annotation of its tier. -/
theorem anchor_of_mem_matchRecords (hb : c.plan l q = .ok b) (hτ : τ ∈ b.matchRecords g) :
    ∃ u, τ (c.anchor q.tier).aliasName = some u ∧ g.Annotation c.hierarchy q.tier u := by
  let pattern := b.required.pattern b.hierarchy b.required (.token (c.anchor q.tier))
  have hpattern : pattern ∈ b.required.patterns b.hierarchy b.required :=
    List.mem_map_of_mem (List.mem_filter.2 ⟨(mem_required hb).2 .anchor, Group.leads_token _⟩)
  have hself : Node.token (c.anchor q.tier) ∈ b.required.boundBy (.token (c.anchor q.tier)) :=
    Group.mem_boundBy.2 (.inl rfl)
  have halias : (c.anchor q.tier).aliasName ∈ pattern.aliases := by
    refine pattern.introducedAliases_subset ?_
    rw [Group.introducedAliases_pattern]
    exact List.mem_map_of_mem hself
  obtain ⟨σ, hσ, hmatches⟩ := (Graph.mem_matched.1 hτ).2 _ hpattern
  have hlabels := (Graph.matches_pattern.1 (Graph.matches_group_pattern.1 hmatches _ hself)).1
  exact ⟨_, hσ _ halias, (Graph.labels_anchor (hasTier_plan hb)).1 hlabels⟩

section Linked

variable (hb : c.plan l q = .ok b)
  (hlink : g.Links c.hierarchy q.tier kind link)
include hb hlink

/-- A `MATCH` that requires the speaker or discourse binds it already. -/
theorem linked_of_required (hmem : c.anchorEntity q.tier kind ∈ b.required)
    (hτ : τ ∈ b.matchRecords g) : c.linked q.tier kind link τ = τ := by
  have hpattern : (c.anchorEntity q.tier kind).pattern b.hierarchy [] ∈
      b.required.patterns b.hierarchy b.required :=
    List.mem_map_of_mem (f := b.required.pattern b.hierarchy b.required)
      (List.mem_filter.2 ⟨hmem, rfl⟩)
  obtain ⟨u, w, hu, hw, hbelongs⟩ := (Graph.satisfies_entity (anchorEntity_ne c q.tier kind)).1
    ((Graph.mem_matched.1 hτ).2 _ hpattern)
  obtain ⟨u', hu', hannotation⟩ := anchor_of_mem_matchRecords hb hτ
  obtain rfl : u = u' := Option.some.inj (hu.symm.trans hu')
  obtain rfl : w = link u := (hlink u hannotation w).1 hbelongs
  exact Record.linked_eq_self hu hw

variable (ha : c.EntityApart q b.ending.columns kind)
include ha

/-- Required aliases stand for the same nodes with the speaker or discourse and without. -/
theorem linked_apply (hτ : τ ∈ b.matchRecords g) {a : String} (hmem : a ∈ b.required.aliases) :
    c.linked q.tier kind link τ a = τ a := by
  by_cases hrequired : c.anchorEntity q.tier kind ∈ b.required
  · rw [linked_of_required hb hlink hrequired hτ]
  · refine Record.linked_of_ne ?_
    rintro rfl
    exact hrequired (entity_mem_required hb ha hmem)

/-- The record with the speaker or discourse fulfils one more condition. -/
theorem holds_narrowed (he : g.Evaluates eval) (hτ : τ ∈ b.matchRecords g)
    {before after : List Expr} {k : Expr} (hconditions : b.conditions = before ++ after)
    (hconditions' : b'.conditions = before ++ k :: after) :
    b'.Holds eval (c.linked q.tier kind link τ) ↔
      b.Holds eval τ ∧ eval (c.linked q.tier kind link τ) k = .bool true := by
  have hsame : ∀ e ∈ b.conditions, eval (c.linked q.tier kind link τ) e = eval τ e :=
    fun e hmem => he.congr fun a hmem' =>
      linked_apply hb hlink ha hτ (occurring_conditions hb hmem hmem')
  have hholds : b.Holds eval τ ↔
      ∀ e ∈ b.conditions, eval (c.linked q.tier kind link τ) e = .bool true :=
    forall₂_congr fun e hmem => by rw [hsame e hmem]
  rw [hholds, Plan.Holds, hconditions, hconditions', List.forall_mem_append, List.forall_mem_cons,
    List.forall_mem_append]
  tauto

variable (h : b.Narrows (c.anchorEntity q.tier kind) b')
include h

/-- The records of a partition are those of the base query, each with the speaker or discourse. -/
theorem matchRecords_narrowed : b'.matchRecords g = (b.matchRecords g).map
    (c.linked q.tier kind link) := by
  by_cases hmem : c.anchorEntity q.tier kind ∈ b.required
  · have hsame : b'.matchRecords g = b.matchRecords g := by
      rw [Plan.matchRecords, h.required_patterns.1 hmem]
      rfl
    rw [hsame, Multiset.map_congr rfl fun τ hτ => linked_of_required hb hlink hmem hτ,
      Multiset.map_id']
  · have hnot : (c.anchorEntity q.tier kind).aliasName ∉ b.required.aliases := fun hmem' =>
      hmem (entity_mem_required hb ha hmem')
    refine Graph.matched_gains (h.required_patterns.2 hmem) (anchorEntity_ne c q.tier kind)
      (fun hmem' => hnot (mem_aliases_required hb hmem')) ?_ fun τ hτ => ?_
    · rw [Group.introducedAliases_patterns]
      exact hnot
    · obtain ⟨u, hu, hannotation⟩ := anchor_of_mem_matchRecords hb hτ
      exact ⟨u, hu, hlink u hannotation⟩

end Linked

/-! ## The optional matches -/

section Optional

variable {items : List ReturnItem} (hb : c.plan l q = .ok b)
  (h : b.Narrows (c.anchorEntity q.tier kind) b')
include hb h

section Linked

variable (hlink : g.Links c.hierarchy q.tier kind link) (hτ : τ ∈ b.matchRecords g)
include hlink hτ

theorem rowsOf_required (hmem : c.anchorEntity q.tier kind ∈ b.required) :
    b'.rowsOf g eval items (c.linked q.tier kind link τ) = b.rowsOf g eval items τ := by
  have hnot : c.anchorEntity q.tier kind ∉ b.optional := fun hopt =>
    ((mem_optional hb).1 hopt).2 ((mem_required hb).1 hmem)
  have hclauses : b'.optionalClauses = b.optionalClauses :=
    congrArg (List.map _) (h.optional_patterns.2 hnot)
  rw [linked_of_required hb hlink hmem hτ, Plan.rowsOf, hclauses]
  rfl

theorem rowsOf_optional (hd : c.DistinctAliases q b.ending.columns)
    (hmem : c.anchorEntity q.tier kind ∈ b.optional) :
    b'.rowsOf g eval items (c.linked q.tier kind link τ) = b.rowsOf g eval items τ := by
  obtain ⟨before, after, hbefore, hafter⟩ := h.optional_patterns.1 hmem
  have hsub : List.Sublist (before.flatMap PathPattern.introducedAliases ++
      [(c.anchorEntity q.tier kind).aliasName]) b.optional.aliases := by
    have hoptional : (b.optional.patterns b.hierarchy (b.required ++ b.optional)).flatMap
        PathPattern.introducedAliases = b.optional.aliases := Group.introducedAliases_patterns
    rw [← hoptional, hafter, List.flatMap_append, List.flatMap_cons,
      Graph.introducedAliases_entity]
    exact (List.Sublist.refl _).append (List.sublist_append_left _ _)
  have hnodup := (nodup_aliases hb hd).sublist ((List.Sublist.refl b.required.aliases).append hsub)
  obtain ⟨-, hnodup, hdisjoint⟩ := List.nodup_append'.1 hnodup
  obtain ⟨u, hu, hannotation⟩ := anchor_of_mem_matchRecords hb hτ
  have hanchor : (c.anchor q.tier).aliasName ∉ before.flatMap PathPattern.introducedAliases :=
    fun ha => hdisjoint (anchor_mem_aliases hb) (List.mem_append_left _ ha)
  have hfree : (c.anchorEntity q.tier kind).aliasName ∉ before.flatMap PathPattern.aliases := by
    intro ha
    have hscoped := scopedAll_optional hb
    rw [hafter] at hscoped
    rcases hscoped.of_append.mem_aliases ha with ha | ha
    · exact hdisjoint ha (List.mem_append_right _ (List.mem_singleton_self _))
    · exact List.disjoint_of_nodup_append hnodup ha (List.mem_singleton_self _)
  rw [Plan.rowsOf, Plan.rowsOf, Plan.optionalClauses, Plan.optionalClauses, hafter, hbefore]
  exact congrArg (Multiset.map _) (Graph.found_optional_entity (anchorEntity_ne c q.tier kind) hu
    (hlink u hannotation) hanchor hfree).symm

end Linked

variable (ha : c.EntityApart q b.ending.columns kind) (he : g.Evaluates eval)
include ha he

/-- Nothing refers to a speaker or discourse that is not among the nodes of the query. -/
theorem rowsOf_unbound
    (hending : b.endingClauses = [.returning false items [] none])
    (hlists : (c.anchorEntity q.tier kind).aliasName ∉ (b.endingClauses.flatMap
      Clause.listPatterns).flatMap PathPattern.introducedAliases)
    (hnot : c.anchorEntity q.tier kind ∉ b.required ++ b.optional) :
    b'.rowsOf g eval items (c.linked q.tier kind link τ) = b.rowsOf g eval items τ := by
  have hclauses : b'.optionalClauses = b.optionalClauses := congrArg (List.map _)
    (h.optional_patterns.2 fun hmem => hnot (List.mem_append_right _ hmem))
  have hfree : ∀ a ∈ b.aliases, a ≠ (c.anchorEntity q.tier kind).aliasName := by
    rintro a hmem rfl
    exact hnot (entity_mem_bound hb ha hmem)
  have hstart : ∀ a, a ≠ (c.anchorEntity q.tier kind).aliasName →
      c.linked q.tier kind link τ a = τ a := fun a => Record.linked_of_ne
  have hfound := Clause.rel_found g eval
    (Record.keeps_agreement (· ≠ (c.anchorEntity q.tier kind).aliasName) _)
    (fun _ _ hsame a hmem => hsame a (hfree a (mem_aliases_optional hb hmem))) hstart
  rw [Plan.rowsOf, Plan.rowsOf, hclauses]
  refine Multiset.rel_eq.1 (Multiset.rel_map.2 (hfound.mono fun ρ _ σ _ hsame => ?_))
  refine Record.row_congr he fun i hi a hmem => hsame a ?_
  rcases occurring_items hb hending hi hmem with ⟨-, hmem⟩ | hmem
  · exact hfree a hmem
  · exact ne_of_mem_of_not_mem hmem hlists

/-- A record has the same rows in a partition. -/
theorem rowsOf_narrowed (hlink : g.Links c.hierarchy q.tier kind link)
    (hd : c.DistinctAliases q b.ending.columns)
    (hending : b.endingClauses = [.returning false items [] none])
    (hlists : (c.anchorEntity q.tier kind).aliasName ∉ (b.endingClauses.flatMap
      Clause.listPatterns).flatMap PathPattern.introducedAliases)
    (hτ : τ ∈ b.matchRecords g) :
    b'.rowsOf g eval items (c.linked q.tier kind link τ) = b.rowsOf g eval items τ := by
  by_cases hrequired : c.anchorEntity q.tier kind ∈ b.required
  · exact rowsOf_required hb h hlink hτ hrequired
  by_cases hoptional : c.anchorEntity q.tier kind ∈ b.optional
  · exact rowsOf_optional hb h hlink hτ hd hoptional
  · exact rowsOf_unbound hb h ha he hending hlists fun hmem =>
      (List.mem_append.1 hmem).elim hrequired hoptional

end Optional

end Corpus

/-! ## The rows -/

/-- Every annotation of a tier is linked to exactly one speaker or discourse of the corpus, and the
name of that is a string that is listed exactly once. -/
def PropertyGraph.Listed (g : PropertyGraph V) (h : Hierarchy) (tier : String) (kind : EntityKind)
    (names : List String) : Prop :=
  ∀ u, g.Annotation h tier u → ∃ w name, g.BelongsOnly kind h.corpus u w ∧
    g.property w "name" = .string name ∧ names.count name = 1

/-- What a list of names makes of a collection, where exactly one of them is that of an item. -/
theorem bind_filter_eq {α β ι : Type*} [DecidableEq ι] {s : Multiset α} {f : α → ι} {names : List ι}
    (h : ∀ a ∈ s, names.count (f a) = 1) (rows : α → Multiset β) :
    (names : Multiset ι).bind (fun name => (s.filter (f · = name)).bind rows) = s.bind rows := by
  have hbind : ∀ name, (s.filter (f · = name)).bind rows =
      s.bind fun a => if f a = name then rows a else 0 := fun name => Multiset.bind_filter ..
  simp only [hbind]
  rw [Multiset.bind_bind]
  refine Multiset.bind_congr fun a ha => ?_
  rw [← Multiset.bind_filter _ (f a = ·) fun _ => rows a, Multiset.filter_eq,
    Multiset.coe_count, h a ha, Multiset.replicate_one, Multiset.singleton_bind]

namespace Corpus

variable [Fintype V] {g : PropertyGraph V} {eval : Evaluation V} {l : Listing} {c : Corpus}
  {q : Query} {kind : EntityKind} {b b' : Plan} {link : V → V} {name : V → String} {τ : Record V}

/-- The name of the speaker or discourse of the anchor. -/
def nameAt (c : Corpus) (tier : String) (name : V → String) (τ : Record V) : String :=
  ((τ (c.anchor tier).aliasName).map name).getD ""

/-- The condition of a partition. -/
theorem eval_nameCondition (he : g.Evaluates eval) (hb : c.plan l q = .ok b)
    (hname : ∀ u, g.Annotation c.hierarchy q.tier u →
      g.property (link u) "name" = .string (name u)) (hτ : τ ∈ b.matchRecords g) (v : String) :
    eval (c.linked q.tier kind link τ)
        (c.nameCondition q.tier kind (.literal (.string v))) = .bool true ↔
      c.nameAt q.tier name τ = v := by
  obtain ⟨u, hu, hannotation⟩ := anchor_of_mem_matchRecords hb hτ
  have hentity : c.linked q.tier kind link τ (c.anchorEntity q.tier kind).aliasName =
      some (link u) := by
    rw [linked, Record.linked_self, hu, Option.map_some]
  rw [nameCondition, he.equal, he.property "name" hentity, hname u hannotation, Value.string.injEq,
    nameAt, hu, Option.map_some, Option.getD_some]

open scoped Classical in
/-- The rows of a partition are those of the base query whose anchor is linked to a speaker or
discourse of this name. -/
theorem rows_narrowed {q' : Query} {items : List ReturnItem} {v : String} {before after : List Expr}
    (hb : c.plan l q = .ok b) (hb' : c.plan l q' = .ok b')
    (h : b.Narrows (c.anchorEntity q.tier kind) b')
    (hconditions : b.conditions = before ++ after)
    (hconditions' : b'.conditions =
      before ++ c.nameCondition q.tier kind (.literal (.string v)) :: after)
    (hending : b.endingClauses = [.returning false items [] none])
    (hending' : b'.endingClauses = b.endingClauses)
    (he : g.Evaluates eval)
    (hlink : g.Links c.hierarchy q.tier kind link)
    (hname : ∀ u, g.Annotation c.hierarchy q.tier u →
      g.property (link u) "name" = .string (name u))
    (hd : c.DistinctAliases q b.ending.columns) (ha : c.EntityApart q b.ending.columns kind)
    (hlists : ∀ a ∈ (b.endingClauses.flatMap Clause.listPatterns).flatMap
      PathPattern.introducedAliases, a ∉ b'.required.aliases) :
    g.rows eval b'.body items = (((b.matchRecords g).filter (b.Holds eval)).filter
      (c.nameAt q.tier name · = v)).bind (b.rowsOf g eval items) := by
  have hentity : (c.anchorEntity q.tier kind).aliasName ∈ b'.required.aliases :=
    Group.mem_aliases.2 ⟨_, (h.mem_required _).2 (.inr rfl), rfl⟩
  have hfree : (c.anchorEntity q.tier kind).aliasName ∉ (b.endingClauses.flatMap
      Clause.listPatterns).flatMap PathPattern.introducedAliases :=
    fun hmem => hlists _ hmem hentity
  rw [rows_plan hb' he (hending'.trans hending) (hending' ▸ hlists),
    matchRecords_narrowed hb hlink ha h, Multiset.filter_map, Multiset.bind_map,
    Multiset.filter_filter]
  have hfilter : (b.matchRecords g).filter (b'.Holds eval ∘ c.linked q.tier kind link) =
      (b.matchRecords g).filter fun τ => c.nameAt q.tier name τ = v ∧ b.Holds eval τ := by
    refine Multiset.filter_congr fun τ hτ => ?_
    rw [Function.comp_apply, holds_narrowed hb hlink ha he hτ hconditions hconditions',
      eval_nameCondition he hb hname hτ, and_comm]
  rw [hfilter]
  refine Multiset.bind_congr fun τ hτ => ?_
  exact rowsOf_narrowed hb h ha he hlink hd hending hfree (Multiset.mem_of_mem_filter hτ)

end Corpus

/-! ## Partitioned queries -/

namespace PartitionedQuery

/-- The nodes that a query or its partitions may bind. -/
def Binds (p : PartitionedQuery) (c : Corpus) (columns : List String) (n : Node) : Prop :=
  c.Requires p.base n ∨ c.Shows p.base columns n ∨ n = p.entity c

/-- Different nodes have different aliases, and a list comprehension has aliases of its own. -/
structure AliasesDiffer (p : PartitionedQuery) (c : Corpus) (s : CompiledStatement) : Prop where
  nodes : ∀ m n, p.Binds c s.columns m → p.Binds c s.columns n → m.aliasName = n.aliasName → m = n
  lists : ∀ a ∈ (s.statement.clauses.flatMap Clause.listPatterns).flatMap
    PathPattern.introducedAliases, ∀ n, p.Binds c s.columns n → n.aliasName ≠ a

variable {l : Listing} {c : Corpus} {p : PartitionedQuery} {b b' : Plan} {v : String}

theorem binds_partition (hb : c.plan l p.base = .ok b) (hb' : c.plan l (p.partition v) = .ok b')
    (h : b.Adds (p.entity c) b') {n : Node}
    (hn : c.Requires (p.partition v) n ∨ c.Shows (p.partition v) b'.ending.columns n) :
    p.Binds c b.ending.columns n := by
  rcases List.mem_append.1 ((Corpus.mem_bound hb').2 hn) with hn | hn
  · exact ((h.mem_required n).1 hn).imp (Corpus.mem_required hb).1 .inr
  · exact .inr (.inl ((Corpus.mem_optional hb).1 ((h.mem_optional n).1 hn).1).1)

namespace AliasesDiffer

variable {s : CompiledStatement} (ha : p.AliasesDiffer c s)
include ha

theorem distinct : c.DistinctAliases p.base s.columns := fun m n hm hn =>
  ha.nodes m n (hm.elim .inl (.inr ∘ .inl)) (hn.elim .inl (.inr ∘ .inl))

theorem entityApart : c.EntityApart p.base s.columns p.key := fun n hn =>
  ha.nodes n (p.entity c) (hn.elim .inl (.inr ∘ .inl)) (.inr (.inr rfl))

variable (hs : c.compileIn l p.base = .ok s) (hb : c.plan l p.base = .ok b)
include hs hb

/-- The aliases of a list comprehension in the last clauses are those of no node. -/
theorem ne_aliasName {a : String} (hmem : a ∈ (b.endingClauses.flatMap
    Clause.listPatterns).flatMap PathPattern.introducedAliases) {n : Node}
    (hn : p.Binds c b.ending.columns n) : n.aliasName ≠ a := by
  rw [← Corpus.listPatterns_statement hs hb] at hmem
  rw [← Corpus.columns_statement hs hb] at hn
  exact ha.lists a hmem n hn

theorem not_mem_required : ∀ a ∈ (b.endingClauses.flatMap Clause.listPatterns).flatMap
    PathPattern.introducedAliases, a ∉ b.required.aliases := by
  intro a hmem hrequired
  obtain ⟨n, hn, hname⟩ := Group.mem_aliases.1 hrequired
  exact ha.ne_aliasName hs hb hmem (.inl ((Corpus.mem_required hb).1 hn)) hname

variable (hb' : c.plan l (p.partition v) = .ok b') (h : b.Adds (p.entity c) b')
include hb' h

theorem distinct_partition : c.DistinctAliases (p.partition v) b'.ending.columns := by
  intro m n hm hn
  have hbinds : ∀ n, c.Requires (p.partition v) n ∨ c.Shows (p.partition v) b'.ending.columns n →
      p.Binds c s.columns n := by
    rw [Corpus.columns_statement hs hb]
    exact fun n => binds_partition hb hb' h
  exact ha.nodes m n (hbinds m hm) (hbinds n hn)

theorem not_mem_required_partition : ∀ a ∈ (b.endingClauses.flatMap Clause.listPatterns).flatMap
    PathPattern.introducedAliases, a ∉ b'.required.aliases := by
  intro a hmem hrequired
  obtain ⟨n, hn, hname⟩ := Group.mem_aliases.1 hrequired
  have hbinds := binds_partition hb hb' h (.inl ((Corpus.mem_required hb').1 hn))
  exact ha.ne_aliasName hs hb hmem hbinds hname

end AliasesDiffer

/-- A partition lists the items of the base query. -/
theorem lists_partition {s s' : CompiledStatement} {pr : Projection} {items : List ReturnItem}
    (hs : c.compileIn l p.base = .ok s) (hi : p.base.intent = .project pr) (hpr : pr.Unrestricted)
    (ha : p.AliasesDiffer c s) (hb : c.plan l p.base = .ok b)
    (hending : b.ending = .returning false items [] none)
    (hb' : c.plan l (p.partition v) = .ok b') (h : b.Adds (p.entity c) b')
    (hs' : c.compileIn l (p.partition v) = .ok s') : s'.Lists b'.body items := by
  have hd := ha.distinct_partition hs hb hb' h
  rw [← Corpus.columns_statement hs' hb'] at hd
  obtain ⟨p', output, hp', hending', -, hbody⟩ :=
    Corpus.lists_compile (q := p.partition v) hs' hi hpr hd
  obtain rfl : b' = p' := Except.ok.inj (hb'.symm.trans hp')
  rw [h.ending_eq, hending, Ending.returning.injEq] at hending'
  rw [hending'.2.1]
  exact hbody

/-- The partitions for listed names have the rows of the base query between them. -/
theorem rows_partitions [Fintype V] {g : PropertyGraph V} {eval : Evaluation V}
    {s : CompiledStatement} {pr : Projection} {names : List String}
    (hs : c.compileIn l p.base = .ok s) (hi : p.base.intent = .project pr)
    (hpr : pr.Unrestricted) (ha : p.AliasesDiffer c s)
    (he : g.Evaluates eval) (hlisted : g.Listed c.hierarchy p.base.tier p.key names) :
    ∃ (body : List Clause) (items : List ReturnItem) (bodyOf : String → List Clause),
      s.Lists body items ∧ s.columns = items.map (·.columnName) ∧
      (∀ v s', c.compileIn l (p.partition v) = .ok s' → s'.Lists (bodyOf v) items) ∧
      (names : Multiset String).bind (fun v => g.rows eval (bodyOf v) items) =
        g.rows eval body items := by
  classical
  choose! link name hbelongs hname hcount using hlisted
  obtain ⟨b, output, hb, hending, hcolumns, hbody⟩ :=
    Corpus.lists_compile hs hi hpr ha.distinct
  have hlast : b.endingClauses = [.returning false output.items [] none] := by
    rw [Plan.endingClauses, hending]
  obtain ⟨before, after, d, -, -, -, hplan, hpartitions⟩ := plan_partition hb
  choose hadds hb' using hpartitions l
  let b' (v : String) : Plan :=
    c.planOf l p.base (before ++ p.valueCondition c (.literal (.string v)) :: after) d
  have hrows : ∀ v, g.rows eval (b' v).body output.items =
      (((b.matchRecords g).filter (b.Holds eval)).filter
        (c.nameAt p.base.tier name · = v)).bind (b.rowsOf g eval output.items) := by
    intro v
    have hcache : p.base.intent ≠ .cache := by simp [hi]
    have hlast' : (b' v).endingClauses = b.endingClauses :=
      Corpus.endingClauses_added hb (hb' v) rfl rfl (hadds v) hcache
    have hnarrows : b.Narrows (p.entity c) (b' v) := Corpus.narrows_of_distinct hb (hb' v) (hadds v)
      (ha.distinct_partition hs hb (hb' v) (hadds v))
    have hd := ha.distinct
    have hentity := ha.entityApart
    rw [Corpus.columns_statement hs hb] at hd hentity
    exact Corpus.rows_narrowed hb (hb' v) hnarrows (hplan ▸ List.map_append)
      conditions_planOf hlast hlast' he hbelongs hname hd hentity
      (ha.not_mem_required_partition hs hb (hb' v) (hadds v))
  refine ⟨b.body, output.items, fun v => (b' v).body, hbody, hcolumns, fun v s' =>
    lists_partition hs hi hpr ha hb hending (hb' v) (hadds v), ?_⟩
  simp only [hrows]
  rw [bind_filter_eq, Corpus.rows_plan hb he hlast (ha.not_mem_required hs hb)]
  intro τ hτ
  obtain ⟨u, hu, hannotation⟩ :=
    Corpus.anchor_of_mem_matchRecords hb (Multiset.mem_of_mem_filter hτ)
  rw [Corpus.nameAt, hu]
  exact hcount u hannotation

end PartitionedQuery

end AnnotationQuery
