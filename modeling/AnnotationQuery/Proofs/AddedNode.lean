import AnnotationQuery.Proofs.Relisting

/-!
# Groups with one more node

A query that needs the speaker or discourse of its anchor as well binds one more node. No pattern
starts at a speaker or discourse, so that the patterns of the other nodes stay as they are: the
required group gains the pattern of the new node, and the optional group loses it. The two queries
may list their sets of nodes differently; when different nodes have different aliases the other
nodes stay in their order.

Results:
* `Node.Sorted.gains`: the binding order of nodes with one more node.
* `Group.gains_patterns`: the patterns of a group with one more node.
* `Plan.Adds`, `Plan.Narrows`: plans of which the second requires one more node.
* `Corpus.adds_planOf`, `Corpus.narrows_of_distinct`: the groups of a plan with one more condition.
* `Corpus.endingClauses_added`, `Corpus.endingClauses_cache`: what is done with its rows.
-/

namespace AnnotationQuery

/-! ## Nodes in binding order -/

namespace Node

variable {n : Node} {nodes nodes' : List Node}

/-- One more node does not change the order of the others when all have different aliases. -/
theorem Sorted.gains (hs : Sorted nodes) (hs' : Sorted nodes') (hn : nodes.Nodup)
    (hn' : nodes'.Nodup) (hmem : ∀ m, m ∈ nodes' ↔ m ∈ nodes ∨ m = n) (hnot : n ∉ nodes)
    (hdistinct : ∀ m ∈ nodes', ∀ k ∈ nodes', m.aliasName = k.aliasName → m = k) :
    Gains n nodes nodes' := by
  refine gains_of_filter hn' ((hmem n).2 (.inr rfl)) hnot ?_
  refine Sorted.eq_of_mem (hs'.filter _) (hs.filter _) (hn'.filter _) (hn.filter _)
    (fun m => ?_) fun m hm k hk => ?_
  · rw [List.mem_filter, List.mem_filter, hmem]
    by_cases hne : m = n <;> simp [hne]
  · exact hdistinct m (List.mem_of_mem_filter hm) k (List.mem_of_mem_filter hk)

end Node

/-! ## Groups -/

namespace Group

variable {h : Hierarchy} {available available' : List Node} {group group' : Group}
variable {kind : EntityKind} {r : Reference}

theorem token_mem_of_gains (hg : Gains (.entity kind r) group group') (q : Reference) :
    Node.token q ∈ group ↔ Node.token q ∈ group' := by
  obtain ⟨before, after, rfl, rfl⟩ := hg
  simp

theorem type_mem_of_gains (hg : Gains (.entity kind r) group group') (q : Reference) :
    Node.type q ∈ group ↔ Node.type q ∈ group' := by
  obtain ⟨before, after, rfl, rfl⟩ := hg
  simp

/-- A group with one more speaker or discourse has one more pattern. -/
theorem gains_patterns (hg : Gains (.entity kind r) group group')
    (htokens : ∀ q, Node.token q ∈ available ↔ Node.token q ∈ available') :
    Gains ((Node.entity kind r).pattern h []) (group.patterns h available)
      (group'.patterns h available') := by
  rw [patterns, patterns, leads_congr (token_mem_of_gains hg),
    pattern_congr htokens (type_mem_of_gains hg)]
  exact (hg.filter rfl).map _

/-- A group with one more speaker or discourse has one more alias. -/
theorem gains_aliases (hg : Gains (.entity kind r) group group') :
    Gains (Node.entity kind r).aliasName group.aliases group'.aliases := by
  rw [aliases, aliases, bindingSequence, bindingSequence, leads_congr (token_mem_of_gains hg),
    boundBy_congr (type_mem_of_gains hg)]
  exact ((hg.filter rfl).flatMap rfl).map _

/-- Patterns do not depend on speakers and discourses at hand. -/
theorem patterns_congr (htokens : ∀ q, Node.token q ∈ available ↔ Node.token q ∈ available') :
    group.patterns h available = group.patterns h available' := by
  rw [patterns, patterns, pattern_congr htokens fun _ => Iff.rfl]

end Group

/-! ## Plans -/

/-- The second plan requires one more node, which the first one may require or match optionally
already. The patterns of both are about the same annotations, and so are their endings. -/
structure Plan.Adds (n : Node) (p p' : Plan) : Prop where
  hierarchy_eq : p'.hierarchy = p.hierarchy
  anchor_eq : p'.anchor = p.anchor
  ending_eq : p'.ending = p.ending
  nodup : (p.required ++ p.optional).Nodup
  nodup_added : (p'.required ++ p'.optional).Nodup
  mem_required : ∀ m, m ∈ p'.required ↔ m ∈ p.required ∨ m = n
  mem_optional : ∀ m, m ∈ p'.optional ↔ m ∈ p.optional ∧ m ≠ n

/-- The second plan requires one more node, and both have the other nodes in the same order. -/
structure Plan.Narrows (n : Node) (p p' : Plan) : Prop extends Plan.Adds n p p' where
  required_eq : n ∈ p.required → p'.required = p.required
  required_gains : n ∉ p.required → Gains n p.required p'.required
  optional_loses : n ∈ p.optional → Gains n p'.optional p.optional
  optional_eq : n ∉ p.optional → p'.optional = p.optional

namespace Corpus

variable {l l' : Listing} {c : Corpus} {q q' : Query} {p p' : Plan} {kind : EntityKind}

/-- The speaker or discourse of the anchor. -/
def anchorEntity (c : Corpus) (tier : String) (kind : EntityKind) : Node :=
  .entity kind (c.anchor tier)

theorem needs_anchorEntity {tier : String} {m : Node} : (c.anchorEntity tier kind).Needs m ↔
    m = c.anchorEntity tier kind ∨ m = .token (c.anchor tier) := by
  have hclosure : (c.anchorEntity tier kind).closure =
      [c.anchorEntity tier kind, .token (c.anchor tier)] := rfl
  rw [← Node.mem_closure_iff, hclosure, List.mem_pair]

/-- One more condition on the speaker or discourse of the anchor. -/
theorem adds_planOf (l l' : Listing) (c : Corpus) (q : Query) {before after : List Condition}
    {k : Condition} (hk : k.nodes = [c.anchorEntity q.tier kind]) (d : Demand) :
    (c.planOf l q (before ++ after) d).Adds (c.anchorEntity q.tier kind)
      (c.planOf l' q (before ++ k :: after) d) := by
  have hrequired : ∀ m, m ∈ (c.planOf l' q (before ++ k :: after) d).required ↔
      m ∈ (c.planOf l q (before ++ after) d).required ∨ m = c.anchorEntity q.tier kind := by
    intro m
    simp only [planOf, Listing.mem_sorted, Collected.mem_required_ofNodes, List.flatMap_append,
      List.flatMap_cons, hk, List.mem_append, List.mem_cons, List.not_mem_nil, or_false]
    constructor
    · rintro ⟨n, ((rfl | hn | rfl | hn) | hn), hneeds⟩
      · exact .inl ⟨_, .inl (.inl rfl), hneeds⟩
      · exact .inl ⟨n, .inl (.inr (.inl hn)), hneeds⟩
      · rcases needs_anchorEntity.1 hneeds with rfl | rfl
        · exact .inr rfl
        · exact .inl ⟨_, .inl (.inl rfl), .refl _⟩
      · exact .inl ⟨n, .inl (.inr (.inr hn)), hneeds⟩
      · exact .inl ⟨n, .inr hn, hneeds⟩
    · rintro (⟨n, ((rfl | hn | hn) | hn), hneeds⟩ | rfl)
      · exact ⟨_, .inl (.inl rfl), hneeds⟩
      · exact ⟨n, .inl (.inr (.inl hn)), hneeds⟩
      · exact ⟨n, .inl (.inr (.inr (.inr hn))), hneeds⟩
      · exact ⟨n, .inr hn, hneeds⟩
      · exact ⟨_, .inl (.inr (.inr (.inl rfl))), .refl _⟩
  have hoptional : ∀ (l : Listing) (ks : List Condition) (m : Node),
      m ∈ (c.planOf l q ks d).optional ↔
        (∃ n ∈ d.wanted, n.Needs m) ∧ m ∉ (c.planOf l q ks d).required := by
    intro l ks m
    simp only [planOf, Listing.mem_sorted, Collected.mem_optional_ofNodes]
  exact {
    hierarchy_eq := rfl
    anchor_eq := rfl
    ending_eq := rfl
    nodup := nodup_planOf l c q _ d
    nodup_added := nodup_planOf l' c q _ d
    mem_required := hrequired
    mem_optional := fun m => by rw [hoptional, hoptional, hrequired, not_or, and_assoc] }

/-- When different nodes have different aliases, one more required node does not change the order of
the others, however sets of nodes are listed. -/
theorem narrows_of_distinct {n : Node} (hp : c.plan l q = .ok p) (hp' : c.plan l' q' = .ok p')
    (h : p.Adds n p') (hdistinct : c.DistinctAliases q' p'.ending.columns) : p.Narrows n p' := by
  obtain ⟨hs, hs'⟩ := sorted_plan hp
  obtain ⟨ht, ht'⟩ := sorted_plan hp'
  obtain ⟨hn, hn', -⟩ := List.nodup_append'.1 h.nodup
  obtain ⟨hk, hk', -⟩ := List.nodup_append'.1 h.nodup_added
  have hdiffer : ∀ m ∈ p'.required ++ p'.optional, ∀ k ∈ p'.required ++ p'.optional,
      m.aliasName = k.aliasName → m = k := fun m hm k hk =>
    hdistinct m k ((mem_bound hp').1 hm) ((mem_bound hp').1 hk)
  have hrequired : ∀ m ∈ p'.required, m ∈ p'.required ++ p'.optional := fun m hm =>
    List.mem_append_left _ hm
  have hoptional : ∀ m ∈ p.optional, m ∈ p'.required ++ p'.optional := by
    intro m hm
    rw [List.mem_append, h.mem_required, h.mem_optional]
    by_cases hne : m = n <;> simp [hm, hne]
  refine ⟨h, fun hmem => ?_, fun hnot => ?_, fun hmem => ?_, fun hnot => ?_⟩
  · refine ht.eq_of_mem hs hk hn (fun m => ?_) fun m hm k hk =>
      hdiffer m (hrequired m hm) k (hrequired k hk)
    exact (h.mem_required m).trans (or_iff_left_of_imp fun heq => heq ▸ hmem)
  · exact hs.gains ht hn hk h.mem_required hnot fun m hm k hk =>
      hdiffer m (hrequired m hm) k (hrequired k hk)
  · refine ht'.gains hs' hk' hn' (fun m => ?_) ?_ fun m hm k hk =>
      hdiffer m (hoptional m hm) k (hoptional k hk)
    · rw [h.mem_optional]
      by_cases hne : m = n <;> simp [hmem, hne]
    · simp [h.mem_optional]
  · refine (hs'.eq_of_mem ht' hn' hk' (fun m => ?_) fun m hm k hk =>
      hdiffer m (hoptional m hm) k (hoptional k hk)).symm
    have hne : m ∈ p.optional → m ≠ n := fun hm heq => hnot (heq ▸ hm)
    rw [h.mem_optional, and_iff_left_of_imp hne]

end Corpus

namespace Plan.Adds

variable {n : Node} {p p' : Plan} {kind : EntityKind} {r : Reference}

/-- The required nodes of the second plan, in some order. -/
theorem required_perm (h : Adds n p p') : (n ∈ p.required → p'.required.Perm p.required) ∧
    (n ∉ p.required → p'.required.Perm (n :: p.required)) := by
  obtain ⟨hn, -⟩ := List.nodup_append'.1 h.nodup
  obtain ⟨hn', -⟩ := List.nodup_append'.1 h.nodup_added
  constructor
  · intro hmem
    refine (List.perm_ext_iff_of_nodup hn' hn).2 fun m => ?_
    exact (h.mem_required m).trans (or_iff_left_of_imp fun heq => heq ▸ hmem)
  · intro hnot
    refine (List.perm_ext_iff_of_nodup hn' (List.nodup_cons.2 ⟨hnot, hn⟩)).2 fun m => ?_
    rw [h.mem_required, List.mem_cons, or_comm]

/-- The optional nodes of the second plan, in some order. -/
theorem optional_perm (h : Adds n p p') : (n ∈ p.optional → p.optional.Perm (n :: p'.optional)) ∧
    (n ∉ p.optional → p'.optional.Perm p.optional) := by
  obtain ⟨-, hn, -⟩ := List.nodup_append'.1 h.nodup
  obtain ⟨-, hn', -⟩ := List.nodup_append'.1 h.nodup_added
  constructor
  · intro hmem
    have hnot : n ∉ p'.optional := by simp [h.mem_optional]
    refine (List.perm_ext_iff_of_nodup hn (List.nodup_cons.2 ⟨hnot, hn'⟩)).2 fun m => ?_
    rw [List.mem_cons, h.mem_optional]
    by_cases hne : m = n <;> simp [hmem, hne]
  · intro hnot
    refine (List.perm_ext_iff_of_nodup hn' hn).2 fun m => ?_
    have hne : m ∈ p.optional → m ≠ n := fun hm heq => hnot (heq ▸ hm)
    rw [h.mem_optional, and_iff_left_of_imp hne]

theorem token_mem_required (h : Adds (.entity kind r) p p') (t : Reference) :
    Node.token t ∈ p.required ↔ Node.token t ∈ p'.required := by
  simp [h.mem_required]

theorem token_mem_bound (h : Adds (.entity kind r) p p') (t : Reference) :
    Node.token t ∈ p.required ++ p.optional ↔ Node.token t ∈ p'.required ++ p'.optional := by
  simp [h.mem_required, h.mem_optional]

/-- The `MATCH` has the pattern of the node as well. -/
theorem required_patterns_perm (h : Adds (.entity kind r) p p') :
    (Node.entity kind r ∈ p.required → (p'.required.patterns p'.hierarchy p'.required).Perm
      (p.required.patterns p.hierarchy p.required)) ∧
    (Node.entity kind r ∉ p.required → (p'.required.patterns p'.hierarchy p'.required).Perm
      ((Node.entity kind r).pattern p.hierarchy [] ::
        p.required.patterns p.hierarchy p.required)) := by
  have htokens : ∀ t, Node.token t ∈ p'.required ↔ Node.token t ∈ p.required := fun t =>
    (h.token_mem_required t).symm
  rw [h.hierarchy_eq]
  refine ⟨fun hmem => Group.patterns_perm (h.required_perm.1 hmem) htokens, fun hnot => ?_⟩
  exact (Group.patterns_perm (h.required_perm.2 hnot) htokens).trans
    (Group.gains_patterns (gains_cons _ _) fun _ => Iff.rfl).perm

/-- The `OPTIONAL MATCH` clauses lack the pattern of the node. -/
theorem optional_patterns_perm (h : Adds (.entity kind r) p p') :
    (Node.entity kind r ∈ p.optional →
      (p.optional.patterns p.hierarchy (p.required ++ p.optional)).Perm
        ((Node.entity kind r).pattern p.hierarchy [] ::
          p'.optional.patterns p'.hierarchy (p'.required ++ p'.optional))) ∧
    (Node.entity kind r ∉ p.optional →
      (p'.optional.patterns p'.hierarchy (p'.required ++ p'.optional)).Perm
        (p.optional.patterns p.hierarchy (p.required ++ p.optional))) := by
  rw [h.hierarchy_eq]
  refine ⟨fun hmem => ?_, fun hnot => ?_⟩
  · exact (Group.patterns_perm (h.optional_perm.1 hmem) h.token_mem_bound).trans
      (Group.gains_patterns (gains_cons _ _) fun _ => Iff.rfl).perm
  · exact Group.patterns_perm (h.optional_perm.2 hnot) fun t => (h.token_mem_bound t).symm

/-- The aliases of a plan without optional nodes. -/
theorem aliases_perm (h : Adds (.entity kind r) p p') (ho : p.optional = []) :
    (Node.entity kind r ∈ p.required → p'.aliases.Perm p.aliases) ∧
    (Node.entity kind r ∉ p.required →
      p'.aliases.Perm ((Node.entity kind r).aliasName :: p.aliases)) := by
  have ho' : p'.optional = [] := List.eq_nil_iff_forall_not_mem.2 fun m hm => by
    rw [h.mem_optional, ho] at hm
    cases hm.1
  have hnone : Group.aliases [] = [] := rfl
  rw [aliases, aliases, ho, ho', hnone, List.append_nil, List.append_nil]
  refine ⟨fun hmem => Group.aliases_perm (h.required_perm.1 hmem), fun hnot => ?_⟩
  exact (Group.aliases_perm (h.required_perm.2 hnot)).trans
    (Group.gains_aliases (gains_cons _ _)).perm

end Plan.Adds

namespace Plan.Narrows

variable {p p' : Plan} {kind : EntityKind} {r : Reference}

/-- The `MATCH` has the pattern of the node as well, and the others in their order. -/
theorem required_patterns (h : Narrows (.entity kind r) p p') :
    (Node.entity kind r ∈ p.required → p'.required.patterns p'.hierarchy p'.required =
      p.required.patterns p.hierarchy p.required) ∧
    (Node.entity kind r ∉ p.required → Gains ((Node.entity kind r).pattern p.hierarchy [])
      (p.required.patterns p.hierarchy p.required)
      (p'.required.patterns p'.hierarchy p'.required)) := by
  rw [h.hierarchy_eq]
  refine ⟨fun hmem => by rw [h.required_eq hmem], fun hmem => ?_⟩
  exact Group.gains_patterns (h.required_gains hmem) h.token_mem_required

/-- The `OPTIONAL MATCH` clauses lack the pattern of the node, and have the others in their
order. -/
theorem optional_patterns (h : Narrows (.entity kind r) p p') :
    (Node.entity kind r ∈ p.optional → Gains ((Node.entity kind r).pattern p.hierarchy [])
      (p'.optional.patterns p'.hierarchy (p'.required ++ p'.optional))
      (p.optional.patterns p.hierarchy (p.required ++ p.optional))) ∧
    (Node.entity kind r ∉ p.optional →
      p'.optional.patterns p'.hierarchy (p'.required ++ p'.optional) =
        p.optional.patterns p.hierarchy (p.required ++ p.optional)) := by
  rw [h.hierarchy_eq]
  refine ⟨fun hmem => ?_, fun hmem => ?_⟩
  · exact Group.gains_patterns (h.optional_loses hmem) fun t => (h.token_mem_bound t).symm
  · have hbound := h.token_mem_bound
    rw [h.optional_eq hmem] at hbound ⊢
    exact Group.patterns_congr fun t => (hbound t).symm

/-- The aliases of a plan without optional nodes keep their order. -/
theorem aliases_sublist (h : Narrows (.entity kind r) p p') (ho : p.optional = []) :
    p.aliases.Sublist p'.aliases := by
  have ho' : p'.optional = [] := by
    rw [h.optional_eq (by simp [ho]), ho]
  have hnone : Group.aliases [] = [] := rfl
  rw [aliases, aliases, ho, ho', hnone, List.append_nil, List.append_nil]
  by_cases hmem : Node.entity kind r ∈ p.required
  · rw [h.required_eq hmem]
  · exact (Group.gains_aliases (h.required_gains hmem)).sublist

end Plan.Narrows

/-! ## Endings -/

namespace Corpus

variable {l l' : Listing} {c : Corpus} {q q' : Query} {p p' : Plan} {kind : EntityKind}

/-- What is done with the rows is the same, unless they are cached. -/
theorem endingClauses_added (hp : c.plan l q = .ok p) (hp' : c.plan l' q' = .ok p')
    (htier : q'.tier = q.tier) (hintent : q'.intent = q.intent)
    (h : p.Adds (c.anchorEntity q.tier kind) p') (hi : q.intent ≠ .cache) :
    p'.endingClauses = p.endingClauses := by
  have htype : Node.type (c.anchor q.tier) ∈ p'.required ↔
      Node.type (c.anchor q.tier) ∈ p.required := by
    rw [h.mem_required, or_iff_left nofun]
  exact endingClauses_eq hp hp' htier hintent h.ending_eq htype hi

/-- Cached rows have one more entry if the node was not required before. -/
theorem endingClauses_cache (hp : c.plan l q = .ok p) (h : p.Adds (c.anchorEntity q.tier kind) p')
    (hi : q.intent = .cache) :
    p.endingClauses = [.carrying p.aliases] ∧ p'.endingClauses = [.carrying p'.aliases] ∧
      (c.anchorEntity q.tier kind ∈ p.required → p'.aliases.Perm p.aliases) ∧
      (c.anchorEntity q.tier kind ∉ p.required →
        p'.aliases.Perm ((c.anchorEntity q.tier kind).aliasName :: p.aliases)) := by
  have hending : p.ending = .caching := ending_plan hp hi rfl
  refine ⟨?_, ?_, h.aliases_perm (optional_of_isMutation hp (by rw [hi]; rfl))⟩
  · rw [Plan.endingClauses, hending]
  · rw [Plan.endingClauses, h.ending_eq, hending]

end Corpus

end AnnotationQuery
