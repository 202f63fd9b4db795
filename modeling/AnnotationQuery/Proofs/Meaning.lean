import AnnotationQuery.Proofs.Graph
import AnnotationQuery.Proofs.Compilation

/-!
# What a statement matches

An assignment of graph nodes to aliases satisfies a pattern when every labelled node has its labels
and every step joins its two nodes by exactly its number of edges. The patterns of a group then say
of each node of the group that it denotes what is assigned to its alias: a pattern states how a node
lies to its start, and the start denotes what is assigned to it, back to the anchor.

Results:
* `Graph.matches_patterns`: the patterns of a group match when the pattern of each node does.
* `Graph.Fits.joins_iff`: from a start that denotes its node, a step leads to what the node denotes.
* `Graph.Fits.matches_iff_denotes`: all patterns match when all nodes denote what is assigned.
* `Corpus.match_iff_denotes`: the meaning of the `MATCH` clause of a compiled statement.
-/

namespace AnnotationQuery

namespace Graph

variable {V : Type*} {g : Graph V} {h : Hierarchy} {σ : String → V}

/-! ## Patterns -/

/-- The assigned node has the labels of the pattern. -/
def Labels (g : Graph V) (σ : String → V) (n : NodePattern) : Prop :=
  ∀ label ∈ n.labels, g.HasLabel (σ n.aliasName) label

/-- The step joins two nodes by exactly its number of edges, in its direction. -/
def Joins (g : Graph V) (step : PathStep) (u v : V) : Prop :=
  match step.direction with
  | .outgoing => g.Walk step.relation step.hops u v
  | .incoming => g.Walk step.relation step.hops v u

/-- The steps lead from a node through the nodes that are assigned to their aliases. -/
def Follows (g : Graph V) (σ : String → V) (u : V) : List PathStep → Prop
  | [] => True
  | step :: rest =>
    g.Joins step u (σ step.node.aliasName) ∧ g.Labels σ step.node ∧
      g.Follows σ (σ step.node.aliasName) rest

/-- The assignment satisfies the pattern. -/
def Matches (g : Graph V) (σ : String → V) (p : PathPattern) : Prop :=
  g.Labels σ p.start ∧ g.Follows σ (σ p.start.aliasName) p.steps

theorem matches_bound {aliasName : String} {steps : List PathStep} :
    g.Matches σ ⟨.bound aliasName, steps⟩ ↔ g.Follows σ (σ aliasName) steps := by
  simp [Matches, Labels, NodePattern.bound]

theorem joins_outgoing {relation : String} {n : NodePattern} {u v : V} :
    g.Joins ⟨relation, .outgoing, 1, n⟩ u v ↔ g.Edge relation u v :=
  walk_one

theorem joins_incoming {relation : String} {n : NodePattern} {u v : V} :
    g.Joins ⟨relation, .incoming, 1, n⟩ u v ↔ g.Edge relation v u :=
  walk_one

/-- The pattern of a node relates it to its start. -/
theorem matches_pattern {available : List Node} {n : Node} :
    g.Matches σ (n.pattern h available) ↔
      g.Labels σ n.nodePattern ∧ ∀ start, n.start? available = some start →
        g.Joins (n.stepFrom h start) (σ start.aliasName) (σ n.aliasName) := by
  rw [Node.pattern_eq]
  cases n.start? available with
  | none => simp [Matches, PathPattern.single, Follows]
  | some start => simp [matches_bound, Follows, Node.nodePattern, and_comm]

/-- The pattern of a type node can stand behind that of its annotation. -/
theorem matches_andThen_type {available : List Node} {r : Reference} :
    g.Matches σ (((Node.token r).pattern h available).andThen
        ⟨Relation.isA, .outgoing, 1, (Node.type r).nodePattern⟩) ↔
      g.Matches σ ((Node.token r).pattern h available) ∧
        g.Matches σ ((Node.type r).pattern h available) := by
  have htype : g.Matches σ ((Node.type r).pattern h available) ↔
      g.Follows σ (σ r.aliasName) [⟨Relation.isA, .outgoing, 1, (Node.type r).nodePattern⟩] :=
    matches_bound
  have hname : (Node.token r).nodePattern.aliasName = r.aliasName := rfl
  rw [htype, Node.pattern_eq]
  cases (Node.token r).start? available with
  | none => simp [Matches, PathPattern.single, PathPattern.andThen, Follows, hname]
  | some start => simp [matches_bound, PathPattern.andThen, Follows, hname, and_assoc]

theorem matches_group_pattern {available : List Node} {group : Group} {n : Node} :
    g.Matches σ (group.pattern h available n) ↔
      ∀ m ∈ group.boundBy n, g.Matches σ (m.pattern h available) := by
  unfold Group.pattern Group.boundBy
  cases hc : group.companion? n with
  | none => simp
  | some m =>
    obtain ⟨r, rfl, rfl, -⟩ := Group.companion?_eq_some.1 hc
    simp [matches_andThen_type]

/-- The patterns of a group match when the pattern of each of its nodes does. -/
theorem matches_patterns {available : List Node} {group : Group} :
    (∀ p ∈ group.patterns h available, g.Matches σ p) ↔
      ∀ n ∈ group, g.Matches σ (n.pattern h available) := by
  have hsequence : (∀ n ∈ group, g.Matches σ (n.pattern h available)) ↔
      ∀ n ∈ group.bindingSequence, g.Matches σ (n.pattern h available) := by
    simp only [Group.mem_bindingSequence]
  rw [hsequence, Group.bindingSequence, Group.patterns, List.forall_mem_map]
  simp only [matches_group_pattern, List.mem_flatMap]
  constructor
  · rintro hall m ⟨n, hn, hm⟩
    exact hall n hn m hm
  · intro hall n hn m hm
    exact hall m ⟨n, hn, hm⟩

/-! ## Steps -/

/-- Displacements on one side of a base are walks along the axis. -/
theorem displaced_onSameSide {r : Reference} (h0 : r.position ≠ 0) (d : Nat) {u v : V} :
    g.Displaced (r.onSameSide d).offset u v ↔
      if 0 < r.position then g.Walk (Relation.along r.axis) d u v
      else g.Walk (Relation.along r.axis) d v u := by
  rcases Nat.eq_zero_or_pos d with rfl | hd
  · rw [r.onSameSide_zero, displaced_of_zero r.position_base]
    simp [eq_comm]
  · have hpos : (r.onSameSide d).offset.position = r.position.sign * d := r.position_onSameSide d
    have habs : (r.onSameSide d).offset.position.natAbs = d := r.natAbs_onSameSide h0 d
    have haxis : (r.onSameSide d).offset.axis = r.axis := by
      rw [Reference.onSameSide, Reference.atPosition, Reference.offset_withOffset]
      exact Offset.of_axis (by rw [← hpos]; omega) r.axis
    rw [Displaced, haxis, habs, hpos]
    rcases Int.lt_or_gt_of_ne h0 with hneg | hpos
    · rw [Int.sign_eq_neg_one_of_neg hneg, if_neg (by omega), if_neg (by omega)]
    · rw [Int.sign_eq_one_of_pos hpos, if_pos (by omega), if_pos hpos]

/-- The distance of a relative position from a position on its side of the base. -/
theorem natAbs_sub_onSameSide {r : Reference} (h0 : r.position ≠ 0) {d : Nat}
    (hd : d ≤ r.position.natAbs) :
    (r.position - (r.onSameSide d).position).natAbs = r.position.natAbs - d := by
  rw [Reference.position_onSameSide]
  rcases Int.lt_or_gt_of_ne h0 with hneg | hpos
  · rw [Int.sign_eq_neg_one_of_neg hneg]
    omega
  · rw [Int.sign_eq_one_of_pos hpos]
    omega

namespace Fits

variable (hg : g.Fits h) {tier : String} {anchor : V}
include hg

/-- A relative position is reached from a nearer position as it is from the base. -/
theorem displaced_iff_joins {r : Reference} (h0 : r.position ≠ 0) {d : Nat}
    (hd : d < r.position.natAbs) {w x v : V} (hx : g.Displaced (r.onSameSide d).offset w x) :
    g.Displaced r.offset w v ↔ g.Joins ((Node.token r).stepFrom h (r.onSameSide d)) x v := by
  have hr := displaced_onSameSide (g := g) h0 r.position.natAbs (u := w) (v := v)
  rw [r.onSameSide_natAbs] at hr
  rw [displaced_onSameSide h0] at hx
  simp only [hr, Node.stepFrom, if_neg h0, Joins, natAbs_sub_onSameSide h0 (Nat.le_of_lt hd)]
  by_cases hpos : 0 < r.position
  · rw [if_pos hpos] at hx
    simp only [if_pos hpos]
    rw [← hg.walk_split hx, Nat.add_sub_cancel' (Nat.le_of_lt hd)]
  · rw [if_neg hpos] at hx
    simp only [if_neg hpos]
    rw [← hg.walk_split_back hx, Nat.sub_add_cancel (Nat.le_of_lt hd)]

variable (hv : h.validate = .ok ()) (ha : g.Annotation h tier anchor)
include hv ha

/-- A step to a containing annotation leads to the one that the reference names. -/
theorem names_iff_joins_containing {r start : Reference} {x v : V} (hr : r.Climbs h tier)
    (h0 : r.position = 0) (he : r.enclosing? = some start) (hx : g.Names h anchor start x) :
    g.Names h anchor r v ↔ g.Joins ((Node.token r).stepFrom h start) x v := by
  obtain ⟨hstart, hlt⟩ := hr.enclosing he
  have hxtier := hx.annotation hg ha hstart
  have hnames : g.Names h anchor r v ↔ g.Contains h r.tier x v := by
    rw [Reference.eq_containedBy h0 he]
    constructor
    · rintro (_ | ⟨hu, hw, hd⟩)
      obtain rfl := hg.names_unique hv ha hstart hx hu
      obtain rfl := displaced_zero.1 hd
      exact hw
    · exact fun hc => .within hx hc (displaced_zero.2 rfl)
  obtain ⟨d, hd⟩ := Nat.exists_eq_add_of_lt hlt
  have hlevels : h.levels start.tier r.tier = d + 1 := by
    rw [Hierarchy.levels, hd]
    omega
  rw [hnames, hg.contains_iff_walk hv (hr.hasTier ha.1) hd hxtier, Node.stepFrom, if_pos h0,
    Joins, hlevels]

/-- A step along the tier leads to the annotation that the reference names. -/
theorem names_iff_joins_nearest {available : List Node} {r : Reference} {x v : V}
    (hr : r.Climbs h tier) (h0 : r.position ≠ 0)
    (hx : g.Names h anchor (r.nearest available) x) :
    g.Names h anchor r v ↔ g.Joins ((Node.token r).stepFrom h (r.nearest available)) x v := by
  obtain ⟨d, hd, heq, -⟩ := Reference.nearest_spec available h0
  rw [heq] at hx ⊢
  obtain ⟨w, hw, hwx⟩ := names_iff_base.1 hx
  have hbase : (r.onSameSide d).base = r.base := Reference.withOffset_withOffset r _ _
  rw [hbase] at hw
  rw [names_iff_base, ← hg.displaced_iff_joins h0 hd hwx]
  constructor
  · rintro ⟨w', hw', hd'⟩
    obtain rfl := hg.names_unique hv ha (hr.withOffset .zero) hw hw'
    exact hd'
  · exact fun hd' => ⟨w, hw, hd'⟩

/-- From a start that denotes its node, the step to a node leads to what that denotes. -/
theorem joins_iff {available : List Node} {n : Node} {start : Reference} {x v : V}
    (hr : n.reference.Climbs h tier) (hs : n.start? available = some start)
    (hx : g.Names h anchor start x) :
    (g.Joins (n.stepFrom h start) x v ∧ ∀ label ∈ n.labels, g.HasLabel v label) ↔
      g.Denotes h anchor n v := by
  have hcorpus : n.reference.corpus = h.corpus := hr.corpus
  have hlabels : (∀ label ∈ n.labels, g.HasLabel v label) ↔
      g.HasLabel v n.label ∧ g.HasLabel v h.corpus := by
    simp [Node.labels, hcorpus]
  rw [hlabels]
  cases n with
  | token r =>
    have hnames : g.Names h anchor r v ↔ g.Joins ((Node.token r).stepFrom h start) x v := by
      rcases Node.start?_token_cases hs with ⟨h0, he⟩ | ⟨h0, rfl⟩
      · exact hg.names_iff_joins_containing hv ha hr h0 he hx
      · exact hg.names_iff_joins_nearest hv ha hr h0 hx
    rw [← hnames]
    constructor
    · exact fun hn => .token hn.1
    · rintro ⟨hn⟩
      exact ⟨hn, (hn.annotation hg ha hr).2⟩
  | type r =>
    obtain rfl : r = start := Option.some.inj hs
    have hxtier := hx.annotation hg ha hr
    rw [Node.stepFrom, joins_outgoing]
    constructor
    · exact fun hn => .type hx hn.1
    · rintro (_ | ⟨hu, he⟩)
      obtain rfl := hg.names_unique hv ha hr hx hu
      obtain ⟨w, -, hlabel, hcorpus, hall⟩ := hg.typed hxtier
      obtain rfl := hall _ he
      exact ⟨he, hlabel, hcorpus⟩
  | entity kind r =>
    obtain rfl : r = start := Option.some.inj hs
    have hxtier := hx.annotation hg ha hr
    rw [Node.stepFrom, joins_outgoing]
    constructor
    · exact fun hn => .entity hx hn.1
    · rintro (_ | _ | ⟨hu, he⟩)
      obtain rfl := hg.names_unique hv ha hr hx hu
      exact ⟨he, hg.entity_label kind hxtier he⟩
  | attached r name =>
    obtain rfl : r = start := Option.some.inj hs
    rw [Node.stepFrom, joins_incoming]
    constructor
    · exact fun hn => .attached hx hn.1 hn.2.1 hn.2.2
    · rintro (_ | _ | _ | ⟨hu, he, hlabel, hcorpus⟩)
      obtain rfl := hg.names_unique hv ha hr hx hu
      exact ⟨he, hlabel, hcorpus⟩

end Fits

/-! ## Patterns together -/

theorem names_anchor (tier corpus : String) (v : V) : g.Names h v (.anchor tier corpus) v :=
  .root (displaced_zero.2 rfl)

theorem labels_anchor {tier : String} (htier : h.hasTier tier = true) :
    g.Labels σ (Node.token (.anchor tier h.corpus)).nodePattern ↔
      g.Annotation h tier (σ (Reference.anchor tier h.corpus).aliasName) := by
  simp [Labels, Annotation, htier, Node.nodePattern, Node.labels, Node.label, Node.reference,
    Node.aliasName, Reference.anchor, Reference.tier, Reference.corpus]

/-- A node that climbs from the anchor and has no start is the anchor. -/
theorem eq_anchor_of_start?_eq_none {tier : String} {available : List Node} {n : Node}
    (hn : n.reference.Climbs h tier) (hs : n.start? available = none) :
    n = .token (.anchor tier h.corpus) := by
  obtain ⟨corpus, tier', rfl⟩ := Node.start?_eq_none hs
  cases hn
  rfl

section Together

variable {tier : String} {available : List Node} {r₀ : Reference}

/-- When all patterns match, every reference names what is assigned to its alias: the induction is
from the anchor along the starts of the patterns. -/
theorem Fits.names_of_matches (hg : g.Fits h) (hv : h.validate = .ok ())
    (hc : Node.Closed available) (hclimbs : ∀ n ∈ available, n.reference.Climbs h tier)
    (hr₀ : r₀ = .anchor tier h.corpus) (ha : g.Annotation h tier (σ r₀.aliasName))
    (hall : ∀ n ∈ available, g.Matches σ (n.pattern h available)) (r : Reference) :
    .token r ∈ available → g.Names h (σ r₀.aliasName) r (σ r.aliasName) := by
  induction r using Reference.start_induction available with
  | anchor corpus tier' =>
    intro hr
    cases hclimbs _ hr
    rw [hr₀]
    exact names_anchor tier h.corpus _
  | step r start hs ih =>
    intro hr
    obtain ⟨hlabels, hjoins⟩ := matches_pattern.1 (hall _ hr)
    obtain ⟨hn⟩ := (hg.joins_iff hv ha (hclimbs _ hr) hs (ih (Node.start_mem hc hr hs))).1
      ⟨hjoins start hs, hlabels⟩
    exact hn

/-- Over nodes that are closed under dependencies, all patterns match when the anchor is an
annotation of its tier and every node denotes what is assigned to its alias. -/
theorem Fits.matches_iff_denotes (hg : g.Fits h) (hv : h.validate = .ok ())
    (htier : h.hasTier tier = true) (hc : Node.Closed available)
    (hclimbs : ∀ n ∈ available, n.reference.Climbs h tier) (hr₀ : r₀ = .anchor tier h.corpus)
    (hmem : .token r₀ ∈ available) :
    (∀ n ∈ available, g.Matches σ (n.pattern h available)) ↔
      g.Annotation h tier (σ r₀.aliasName) ∧
        ∀ n ∈ available, g.Denotes h (σ r₀.aliasName) n (σ n.aliasName) := by
  have hanchor : g.Labels σ (Node.token r₀).nodePattern ↔
      g.Annotation h tier (σ r₀.aliasName) := by
    rw [hr₀]
    exact labels_anchor htier
  constructor
  · intro hall
    have ha := hanchor.1 (matches_pattern.1 (hall _ hmem)).1
    refine ⟨ha, fun n hn => ?_⟩
    obtain ⟨hlabels, hjoins⟩ := matches_pattern.1 (hall n hn)
    cases hs : n.start? available with
    | none =>
      rw [eq_anchor_of_start?_eq_none (hclimbs n hn) hs, hr₀]
      exact .token (names_anchor tier h.corpus _)
    | some start =>
      have hstart := hg.names_of_matches hv hc hclimbs hr₀ ha hall start (Node.start_mem hc hn hs)
      exact (hg.joins_iff hv ha (hclimbs n hn) hs hstart).1 ⟨hjoins start hs, hlabels⟩
  · rintro ⟨ha, hall⟩ n hn
    rw [matches_pattern]
    cases hs : n.start? available with
    | none =>
      rw [eq_anchor_of_start?_eq_none (hclimbs n hn) hs, ← hr₀]
      exact ⟨hanchor.2 ha, by simp⟩
    | some start =>
      obtain ⟨hstart⟩ := hall _ (Node.start_mem hc hn hs)
      obtain ⟨hjoins, hlabels⟩ := (hg.joins_iff hv ha (hclimbs n hn) hs hstart).2 (hall n hn)
      refine ⟨hlabels, fun start' hs' => ?_⟩
      obtain rfl := Option.some.inj hs'
      exact hjoins

end Together

end Graph

/-! ## The meaning of `MATCH` -/

/-- An assignment satisfies the `MATCH` clause of a compiled statement when the anchor's alias is
assigned an annotation of the anchor's tier and each required alias what its node denotes from
there. Sub-annotations apart, that is a single node. -/
theorem Corpus.match_iff_denotes {l : Listing} {c : Corpus} {q : Query} {s : CompiledStatement}
    {V : Type*} {g : Graph V} (hv : c.hierarchy.validate = .ok ()) (hs : c.compileIn l q = .ok s)
    (hg : g.Fits c.hierarchy) :
    ∃ patterns later, s.statement.clauses = .matching patterns :: later ∧
      (∀ other, .matching other ∉ later) ∧
      (∀ σ : String → V, (∀ p ∈ patterns, g.Matches σ p) ↔
        g.Annotation c.hierarchy q.tier (σ (c.anchor q.tier).aliasName) ∧
          ∀ n, c.Requires q n →
            g.Denotes c.hierarchy (σ (c.anchor q.tier).aliasName) n (σ n.aliasName)) ∧
      ∀ anchor n v v', g.Annotation c.hierarchy q.tier anchor → c.Requires q n →
        (∀ r name, n ≠ .attached r name) → g.Denotes c.hierarchy anchor n v →
        g.Denotes c.hierarchy anchor n v' → v = v' := by
  obtain ⟨p, n, hp, -, hstages, -⟩ := compile_stages hs
  refine ⟨_, _, hstages.clauses_eq, hstages.not_matching, fun σ => ?_,
    fun anchor n v v' ha hn hattached hd hd' => ?_⟩
  · have hclimbs : ∀ n ∈ p.required, n.reference.Climbs c.hierarchy q.tier := fun n hn =>
      ((mem_required hp).1 hn).climbs
    rw [Graph.matches_patterns, hg.matches_iff_denotes hv (hasTier_plan hp) (closed_required hp)
      hclimbs rfl ((mem_required hp).2 .anchor)]
    simp only [mem_required hp]
    rfl
  · exact hg.denotes_unique hv ha hn.climbs hd hd' hattached

/-! ## A graph that fits -/

namespace Graph

/-- Two phones in the one syllable of a word, and the type nodes of the three tiers. -/
def small : Graph (Fin 7) where
  HasLabel v label := label = "small" ∨ (v.val, label) ∈
    [(0, "word"), (1, "syllable"), (2, "phone"), (3, "phone"), (4, "word_type"),
      (5, "syllable_type"), (6, "phone_type")]
  Edge relation u v := (relation, u.val, v.val) ∈
    [(Relation.precedes, 2, 3), (Relation.containedBy, 2, 1), (Relation.containedBy, 3, 1),
      (Relation.containedBy, 1, 0), (Relation.isA, 0, 4), (Relation.isA, 1, 5),
      (Relation.isA, 2, 6), (Relation.isA, 3, 6)]

instance (v : Fin 7) (label : String) : Decidable (small.HasLabel v label) :=
  inferInstanceAs (Decidable (_ ∨ _))

instance (relation : String) (u v : Fin 7) : Decidable (small.Edge relation u v) :=
  inferInstanceAs (Decidable (_ ∈ _))

instance (t : String) (v : Fin 7) : Decidable (small.Annotation Corpus.small.hierarchy t v) :=
  inferInstanceAs (Decidable (_ ∧ _))

theorem tier_small {t : String} {v : Fin 7} (h : small.Annotation Corpus.small.hierarchy t v) :
    t ∈ ["word", "syllable", "phone"] ∧ small.HasLabel v t :=
  ⟨List.contains_iff_mem.1 h.1, h.2.1⟩

theorem fits_small : small.Fits Corpus.small.hierarchy where
  tier_unique {v t t'} h h' := by
    have hall : ∀ v, ∀ t ∈ ["word", "syllable", "phone"], ∀ t' ∈ ["word", "syllable", "phone"],
        small.HasLabel v t → small.HasLabel v t' → t = t' := by decide
    exact hall v t (tier_small h).1 t' (tier_small h').1 (tier_small h).2 (tier_small h').2
  next_unique axis := by cases axis <;> decide +kernel
  previous_unique axis := by cases axis <;> decide +kernel
  along_tier axis t u v he := by
    have hall : ∀ u v, small.Edge (Relation.along axis) u v → u = 2 ∧ v = 3 := by
      cases axis <;> decide +kernel
    have hphones : ∀ t ∈ ["word", "syllable", "phone"],
        (small.Annotation Corpus.small.hierarchy t 2 ↔
          small.Annotation Corpus.small.hierarchy t 3) := by decide
    obtain ⟨rfl, rfl⟩ := hall u v he
    exact ⟨fun h => (hphones t (tier_small h).1).1 h, fun h => (hphones t (tier_small h).1).2 h⟩
  contained {t parent u} hparent hu := by
    obtain ⟨ht, hl⟩ := tier_small hu
    have hsyllable : ∀ u, small.HasLabel u "syllable" → small.Edge Relation.containedBy u 0 ∧
        ∀ v, small.Edge Relation.containedBy u v → v = 0 := by decide +kernel
    have hphone : ∀ u, small.HasLabel u "phone" → small.Edge Relation.containedBy u 1 ∧
        ∀ v, small.Edge Relation.containedBy u v → v = 1 := by decide +kernel
    simp only [List.mem_cons, List.not_mem_nil, or_false] at ht
    rcases ht with rfl | rfl | rfl
    · cases hparent
    · cases hparent
      exact ⟨0, (hsyllable u hl).1, by decide, (hsyllable u hl).2⟩
    · cases hparent
      exact ⟨1, (hphone u hl).1, by decide, (hphone u hl).2⟩
  typed {t u} hu := by
    have hall : ∀ t ∈ ["word", "syllable", "phone"], ∀ u, small.HasLabel u t →
        ∃ v, small.Edge Relation.isA u v ∧ small.HasLabel v (t ++ "_type") ∧
          small.HasLabel v "small" ∧ ∀ v', small.Edge Relation.isA u v' → v' = v := by
      decide +kernel
    exact hall t (tier_small hu).1 u (tier_small hu).2
  entity_unique kind t u v v' _ he _ := by
    have hall : ∀ u v, ¬small.Edge (Relation.toEntity kind) u v := by
      cases kind <;> decide +kernel
    exact absurd he (hall u v)
  entity_label kind t u v _ he := by
    have hall : ∀ u v, ¬small.Edge (Relation.toEntity kind) u v := by
      cases kind <;> decide +kernel
    exact absurd he (hall u v)

end Graph

/-- A query for the phones after a phone of the word `a`. -/
def Query.afterPhoneOfWord : Query :=
  ⟨"phone", none, [⟨⟨["phone", "previous", "word", "label"]⟩, .equal, .literal (.string "a")⟩],
    .delete⟩

theorem Corpus.match_iff_denotes_small :
    small.hierarchy.validate = .ok () ∧ Graph.small.Fits small.hierarchy ∧
      ∃ s patterns later, small.compile .afterPhoneOfWord = .ok s ∧
        s.statement.clauses = .matching patterns :: later ∧
        ∀ σ : String → Fin 7, (∀ p ∈ patterns, Graph.small.Matches σ p) ↔
          Graph.small.Annotation small.hierarchy "phone" (σ "node_phone") ∧
            ∀ n, small.Requires .afterPhoneOfWord n →
              Graph.small.Denotes small.hierarchy (σ "node_phone") n (σ n.aliasName) := by
  have hv : small.hierarchy.validate = .ok () := rfl
  have hok : (small.compile .afterPhoneOfWord).toOption.isSome = true := by decide
  obtain ⟨s, hs⟩ := exists_eq_ok hok
  obtain ⟨patterns, later, hclauses, -, hmeaning, -⟩ :=
    match_iff_denotes hv hs Graph.fits_small
  exact ⟨hv, Graph.fits_small, s, patterns, later, hs, hclauses, hmeaning⟩

end AnnotationQuery
