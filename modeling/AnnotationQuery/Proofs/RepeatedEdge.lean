import AnnotationQuery.Proofs.Compilation
import Mathlib.Data.List.Nodup

/-!
# Edges that a clause asks for twice

A store uses an edge at most once within one clause that matches, and an annotation has one edge of
each type in each direction, apart from those of its sub-annotations. A clause that asks for two
such edges at one alias never matches.

Positions along a tier share their edges, because each starts at the nearest position at hand. The
annotations of two different tiers that contain an annotation do not share theirs: each is reached
from the contained annotation on its own. So filters on two tiers above one annotation, one of them
not through the other, make a statement that never returns a row.

Results:
* `Node.eq_or_containing`: two nodes hang from one annotation by the same edge only if both contain
  it.
* `Corpus.repeatsEdge_iff`: when a compiled statement asks for an edge twice.
-/

namespace AnnotationQuery

/-! ## Edges of patterns -/

/-- An edge as a pattern asks for it: the alias where it starts, its type and its direction. -/
structure EdgeUse where
  start : String
  relation : String
  direction : Direction
deriving DecidableEq, Repr

namespace PathPattern

/-- The first edge of each step, from the node with an alias on. -/
def edgesFrom (start : String) : List PathStep → List EdgeUse
  | [] => []
  | step :: rest => ⟨start, step.relation, step.direction⟩ :: edgesFrom step.node.aliasName rest

/-- The first edge of each step of the pattern. -/
def edges (p : PathPattern) : List EdgeUse :=
  edgesFrom p.start.aliasName p.steps

/-- Two steps ask for edges of one type and direction at one alias. Edges to sub-annotations do not
count, of which there may be several. -/
def RepeatsEdge (patterns : List PathPattern) : Prop :=
  ¬((patterns.flatMap edges).filter (·.relation ≠ Relation.annotates)).Nodup

end PathPattern

/-! ## Edges of nodes -/

/-- How a node hangs from its start. -/
inductive Via where
  | containing
  | along (axis : Axis)
  | type
  | entity (kind : EntityKind)
  | attached
deriving DecidableEq, Repr

/-- The type of the edges. -/
def Via.relation : Via → String
  | containing => Relation.containedBy
  | along axis => Relation.along axis
  | type => Relation.isA
  | entity kind => Relation.toEntity kind
  | attached => Relation.annotates

theorem Via.relation_injective {v w : Via} (h : v.relation = w.relation) : v = w := by
  rcases v with _ | ⟨_ | _⟩ | _ | ⟨_ | _⟩ | _ <;> rcases w with _ | ⟨_ | _⟩ | _ | ⟨_ | _⟩ | _ <;>
    first | rfl | (revert h; decide)

namespace Node

/-- How a node hangs from its start. -/
def via : Node → Via
  | token r => if r.position = 0 then .containing else .along r.axis
  | type _ => .type
  | entity kind _ => .entity kind
  | attached _ _ => .attached

/-- The direction of the edges that lead to a node. -/
def direction : Node → Direction
  | token r => if r.position < 0 then .incoming else .outgoing
  | attached _ _ => .incoming
  | type _ | entity _ _ => .outgoing

theorem stepFrom_relation (h : Hierarchy) (start : Reference) (n : Node) :
    (n.stepFrom h start).relation = n.via.relation := by
  cases n with
  | token r => by_cases h0 : r.position = 0 <;> simp [stepFrom, via, h0, Via.relation]
  | type r | entity kind r | attached r name => rfl

theorem stepFrom_direction (h : Hierarchy) (start : Reference) (n : Node) :
    (n.stepFrom h start).direction = n.direction := by
  cases n with
  | token r =>
    rcases Int.lt_trichotomy r.position 0 with hneg | h0 | hpos
    · simp [stepFrom, direction, hneg, Int.ne_of_lt hneg, Int.not_lt.2 (Int.le_of_lt hneg)]
    · simp [stepFrom, direction, h0]
    · simp [stepFrom, direction, hpos, Int.ne_of_gt hpos, Int.not_lt.2 (Int.le_of_lt hpos)]
  | type r | entity kind r | attached r name => rfl

/-- The edge that the pattern of a node asks for. -/
def edge? (available : List Node) (n : Node) : Option EdgeUse :=
  (n.start? available).map fun start => ⟨start.aliasName, n.via.relation, n.direction⟩

theorem edges_pattern (h : Hierarchy) (available : List Node) (n : Node) :
    (n.pattern h available).edges = (n.edge? available).toList := by
  rw [pattern_eq, edge?]
  cases n.start? available with
  | none => rfl
  | some start =>
    simp [PathPattern.edges, PathPattern.edgesFrom, NodePattern.bound, stepFrom_relation,
      stepFrom_direction]

end Node

namespace Group

variable {h : Hierarchy} {available : List Node} {group : Group}

/-- The edge to a type node starts at the annotation, also behind the pattern of the annotation. -/
theorem edges_andThen_type (r : Reference) (step : PathStep) :
    (((Node.token r).pattern h available).andThen step).edges =
      ((Node.token r).pattern h available).edges ++
        [⟨r.aliasName, step.relation, step.direction⟩] := by
  have hname : (Node.token r).nodePattern.aliasName = r.aliasName := rfl
  rw [Node.pattern_eq]
  cases (Node.token r).start? available with
  | none => rfl
  | some start => simp [PathPattern.edges, PathPattern.andThen, PathPattern.edgesFrom, hname]

theorem edges_pattern (n : Node) : (group.pattern h available n).edges =
    (group.boundBy n).flatMap fun m => (m.edge? available).toList := by
  unfold pattern boundBy
  cases hc : group.companion? n with
  | none => simp [Node.edges_pattern]
  | some m =>
    obtain ⟨r, rfl, rfl, -⟩ := companion?_eq_some.1 hc
    rw [edges_andThen_type, Node.edges_pattern]
    simp [Node.edge?, Node.start?, Node.via, Via.relation, Node.direction]

/-- The patterns of a group ask for the edges of its nodes. -/
theorem edges_patterns : (group.patterns h available).flatMap PathPattern.edges =
    group.bindingSequence.filterMap (Node.edge? available) := by
  unfold patterns bindingSequence
  rw [List.filterMap_eq_flatMap_toList, List.flatMap_map, List.flatMap_assoc]
  simp only [edges_pattern]

end Group

/-! ## Nodes that hang from one annotation -/

namespace Reference

theorem onSameSide_congr {r r' : Reference} (hbase : r.base = r'.base) (haxis : r.axis = r'.axis)
    (hsign : r.position.sign = r'.position.sign) (d : Nat) : r.onSameSide d = r'.onSameSide d := by
  rw [onSameSide, onSameSide, atPosition, atPosition, haxis, hsign,
    ← r.withOffset_withOffset .zero, ← r'.withOffset_withOffset .zero]
  exact congrArg (fun b : Reference => b.withOffset (.of _ r'.axis)) hbase

/-- On one side of a base, two positions at hand do not start at the same position: the farther one
starts at the nearer one or behind it. -/
theorem natAbs_le_of_nearest_eq {available : List Node} {r r' : Reference}
    (hr : Node.token r ∈ available) (h0 : r.position ≠ 0) (h0' : r'.position ≠ 0)
    (hbase : r.base = r'.base) (haxis : r.axis = r'.axis)
    (hsign : r.position.sign = r'.position.sign)
    (hnearest : r.nearest available = r'.nearest available) :
    r'.position.natAbs ≤ r.position.natAbs := by
  obtain ⟨d, hd, heq, -⟩ := nearest_spec available h0
  obtain ⟨d', hd', heq', -, hnone⟩ := nearest_spec available h0'
  have hdd' : d = d' := by
    rw [← natAbs_onSameSide h0 d, ← natAbs_onSameSide h0' d', ← heq, ← heq', hnearest]
  by_contra hlt
  refine hnone r.position.natAbs (by omega) (by omega) ?_
  rw [← onSameSide_congr hbase haxis hsign, onSameSide_natAbs]
  exact hr

theorem base_nearest (available : List Node) {r : Reference} (h0 : r.position ≠ 0) :
    (r.nearest available).base = r.base := by
  obtain ⟨d, -, heq, -⟩ := nearest_spec available h0
  rw [heq]
  exact r.withOffset_withOffset _ _

/-- Positions along a tier share their edges: different positions start at different ones. -/
theorem eq_of_nearest_eq {available : List Node} {r r' : Reference}
    (hr : Node.token r ∈ available) (hr' : Node.token r' ∈ available) (h0 : r.position ≠ 0)
    (h0' : r'.position ≠ 0) (haxis : r.axis = r'.axis)
    (hsign : r.position.sign = r'.position.sign)
    (hnearest : r.nearest available = r'.nearest available) : r = r' := by
  have hbase : r.base = r'.base := by
    rw [← base_nearest available h0, ← base_nearest available h0', hnearest]
  have hle := natAbs_le_of_nearest_eq hr h0 h0' hbase haxis hsign hnearest
  have hge := natAbs_le_of_nearest_eq hr' h0' h0 hbase.symm haxis.symm hsign.symm hnearest.symm
  rw [← r.onSameSide_natAbs, onSameSide_congr hbase haxis hsign, Nat.le_antisymm hge hle,
    onSameSide_natAbs]

end Reference

namespace Node

theorem sign_eq_of_direction {r r' : Reference} (h0 : r.position ≠ 0) (h0' : r'.position ≠ 0)
    (h : (token r).direction = (token r').direction) : r.position.sign = r'.position.sign := by
  rcases Int.lt_or_gt_of_ne h0 with hneg | hpos <;>
    rcases Int.lt_or_gt_of_ne h0' with hneg' | hpos'
  · rw [Int.sign_eq_neg_one_of_neg hneg, Int.sign_eq_neg_one_of_neg hneg']
  · simp [direction, hneg, Int.not_lt.2 (Int.le_of_lt hpos')] at h
  · simp [direction, hneg', Int.not_lt.2 (Int.le_of_lt hpos)] at h
  · rw [Int.sign_eq_one_of_pos hpos, Int.sign_eq_one_of_pos hpos']

/-- Two annotations at hand hang from one annotation by the same edge only if both contain it. -/
theorem token_eq_or_containing {available : List Node} {r r' start : Reference}
    (hr : token r ∈ available) (hr' : token r' ∈ available)
    (hs : (token r).start? available = some start) (hs' : (token r').start? available = some start)
    (hvia : (token r).via = (token r').via)
    (hdirection : (token r).direction = (token r').direction) :
    r = r' ∨ ∃ t t', r = start.containedBy t ∧ r' = start.containedBy t' := by
  rcases start?_token_cases hs with ⟨h0, he⟩ | ⟨h0, rfl⟩ <;>
    rcases start?_token_cases hs' with ⟨h0', he'⟩ | ⟨h0', heq⟩
  · exact .inr ⟨r.tier, r'.tier, Reference.eq_containedBy h0 he, Reference.eq_containedBy h0' he'⟩
  · simp [via, h0, h0'] at hvia
  · simp [via, h0, h0'] at hvia
  · simp only [via, if_neg h0, if_neg h0', Via.along.injEq] at hvia
    exact .inl (Reference.eq_of_nearest_eq hr hr' h0 h0' hvia
      (sign_eq_of_direction h0 h0' hdirection) heq)

theorem via_token (r : Reference) :
    (token r).via = .containing ∨ ∃ axis, (token r).via = .along axis := by
  by_cases h0 : r.position = 0
  · exact .inl (if_pos h0)
  · exact .inr ⟨r.axis, if_neg h0⟩

/-- Two nodes at hand hang from one annotation by the same edge only if they are annotations that
contain it, or sub-annotations. -/
theorem eq_or_containing {available : List Node} {n m : Node} {start : Reference}
    (hn : n ∈ available) (hm : m ∈ available) (hs : n.start? available = some start)
    (hs' : m.start? available = some start) (hvia : n.via = m.via)
    (hdirection : n.direction = m.direction) (hattached : n.via ≠ .attached) :
    n = m ∨ ∃ t t', n = token (start.containedBy t) ∧ m = token (start.containedBy t') := by
  cases n with
  | token r =>
    cases m with
    | token r' =>
      rcases token_eq_or_containing hn hm hs hs' hvia hdirection with rfl | ⟨t, t', rfl, rfl⟩
      · exact .inl rfl
      · exact .inr ⟨t, t', rfl, rfl⟩
    | type _ | entity _ _ | attached _ _ =>
      rcases via_token r with h | ⟨axis, h⟩ <;> rw [h] at hvia <;> cases hvia
  | type r =>
    cases m with
    | type r' => exact .inl (congrArg type (Option.some.inj (hs.trans hs'.symm)))
    | token r' => rcases via_token r' with h | ⟨axis, h⟩ <;> rw [h] at hvia <;> cases hvia
    | entity _ _ | attached _ _ => cases hvia
  | entity kind r =>
    cases m with
    | entity kind' r' =>
      obtain rfl : kind = kind' := Via.entity.inj hvia
      exact .inl (congrArg (entity kind) (Option.some.inj (hs.trans hs'.symm)))
    | token r' => rcases via_token r' with h | ⟨axis, h⟩ <;> rw [h] at hvia <;> cases hvia
    | type _ | attached _ _ => cases hvia
  | attached r name => exact absurd rfl hattached

end Node

/-! ## Statements -/

theorem Node.edge?_eq_some {available : List Node} {n : Node} {e : EdgeUse} :
    n.edge? available = some e ↔ ∃ start, n.start? available = some start ∧
      e = ⟨start.aliasName, n.via.relation, n.direction⟩ := by
  rw [edge?, Option.map_eq_some_iff]
  exact exists_congr fun start => and_congr_right fun _ => eq_comm

/-- Two different nodes hang from one alias by the same edge. -/
def Node.Clash (available nodes : List Node) : Prop :=
  ∃ n ∈ nodes, ∃ m ∈ nodes, n ≠ m ∧ n.via ≠ .attached ∧
    ∃ e, n.edge? available = some e ∧ m.edge? available = some e

/-- An edge is asked for twice when it is the edge of two nodes. -/
theorem Node.nodup_edges_iff {available nodes : List Node} (hn : nodes.Nodup) :
    ¬((nodes.filterMap (edge? available)).filter (·.relation ≠ Relation.annotates)).Nodup ↔
      Clash available nodes := by
  have hcounts : ∀ (n : Node) (e : EdgeUse), n.edge? available = some e →
      (e.relation ≠ Relation.annotates ↔ n.via ≠ .attached) := by
    intro n e he
    obtain ⟨start, -, rfl⟩ := edge?_eq_some.1 he
    exact not_congr ⟨fun h => Via.relation_injective (w := .attached) h, fun h => by rw [h]; rfl⟩
  rw [List.filter_filterMap, nodup_filterMap_iff hn]
  simp only [Option.filter_eq_some_iff, decide_eq_true_eq, not_forall, Clash]
  constructor
  · rintro ⟨n, hn, m, hm, e, ⟨he, hne⟩, ⟨he', -⟩, hnm⟩
    exact ⟨n, hn, m, hm, hnm, (hcounts n e he).1 hne, e, he, he'⟩
  · rintro ⟨n, hn, m, hm, hnm, hvia, e, he, he'⟩
    have hne := (hcounts n e he).2 hvia
    exact ⟨n, hn, m, hm, e, ⟨he, hne⟩, ⟨he', hne⟩, hnm⟩

namespace Group

variable {h : Hierarchy} {available : List Node} {group : Group}

/-- The patterns of a group ask for an edge twice when two of its nodes clash. -/
theorem repeatsEdge_patterns (hn : group.Nodup) :
    PathPattern.RepeatsEdge (group.patterns h available) ↔ Node.Clash available group := by
  rw [PathPattern.RepeatsEdge, edges_patterns, Node.nodup_edges_iff (nodup_bindingSequence hn)]
  simp only [Node.Clash, mem_bindingSequence]

/-- A single pattern asks for no edge twice. -/
theorem not_repeatsEdge_pattern (n : Node) :
    ¬PathPattern.RepeatsEdge [group.pattern h available n] := by
  rw [PathPattern.RepeatsEdge, List.flatMap_singleton, edges_pattern,
    ← List.filterMap_eq_flatMap_toList, Node.nodup_edges_iff (nodup_boundBy n)]
  rintro ⟨k, hk, m, hm, hne, -, e, he, he'⟩
  obtain ⟨start, -, rfl⟩ := Node.edge?_eq_some.1 he
  obtain ⟨start', -, heq⟩ := Node.edge?_eq_some.1 he'
  have hvia : k.via = m.via := Via.relation_injective (EdgeUse.mk.inj heq).2.1
  have htoken : ∀ r : Reference, (Node.token r).via ≠ (Node.type r).via := by
    intro r hr
    rcases Node.via_token r with h | ⟨axis, h⟩ <;> rw [h] at hr <;> cases hr
  rcases mem_boundBy.1 hk with rfl | ⟨r, rfl, rfl, -⟩ <;>
    rcases mem_boundBy.1 hm with rfl | ⟨r', hr', rfl, -⟩
  · exact hne rfl
  · subst hr'
    exact htoken r' hvia
  · exact htoken r hvia.symm
  · injection hr' with hr'
    exact hne (congrArg Node.type hr')

end Group

namespace Corpus

variable {l : Listing} {c : Corpus} {q : Query}

/-- The query requires the annotations of two tiers that contain one annotation. -/
def RequiresTwoAbove (c : Corpus) (q : Query) : Prop :=
  ∃ (r : Reference) (t t' : String), t ≠ t' ∧ c.Requires q (.token (r.containedBy t)) ∧
    c.Requires q (.token (r.containedBy t'))

theorem clash_of_requiresTwoAbove {required : List Node}
    (hmem : ∀ n, n ∈ required ↔ c.Requires q n) (h : c.RequiresTwoAbove q) :
    Node.Clash required required := by
  obtain ⟨r, t, t', hne, ht, ht'⟩ := h
  have hvia : Via.containing ≠ .attached := by decide
  refine ⟨_, (hmem _).2 ht, _, (hmem _).2 ht', fun heq => hne ?_, hvia, _, rfl, rfl⟩
  injection heq with heq
  injection heq

theorem requiresTwoAbove_of_clash {columns : List String} {required : List Node}
    (hmem : ∀ n, n ∈ required ↔ c.Requires q n) (hd : c.DistinctAliases q columns)
    (h : Node.Clash required required) : c.RequiresTwoAbove q := by
  obtain ⟨n, hn, m, hm, hne, hvia, e, he, he'⟩ := h
  obtain ⟨start, hs, rfl⟩ := Node.edge?_eq_some.1 he
  obtain ⟨start', hs', heq⟩ := Node.edge?_eq_some.1 he'
  obtain ⟨halias, hrelation, hdirection⟩ := EdgeUse.mk.inj heq
  have hclosed : Node.Closed required := fun n hn m hm =>
    (hmem m).2 (((hmem n).1 hn).dependency hm)
  have hstart := (hmem _).1 (Node.start_mem hclosed hn hs)
  have hstart' := (hmem _).1 (Node.start_mem hclosed hm hs')
  obtain rfl : start = start' :=
    Node.token.inj (hd (.token start) (.token start') (.inl hstart) (.inl hstart') halias)
  rcases Node.eq_or_containing hn hm hs hs' (Via.relation_injective hrelation) hdirection hvia with
    rfl | ⟨t, t', rfl, rfl⟩
  · exact absurd rfl hne
  · exact ⟨start, t, t', fun htt' => hne (by rw [htt']), (hmem _).1 hn, (hmem _).1 hm⟩

/-- No `OPTIONAL MATCH` of a compiled statement asks for an edge twice. The `MATCH` does when two
required nodes hang from one alias by the same edge. It is enough for this that the query requires
the annotations of two tiers that contain one annotation; when different nodes have different
aliases, it is also necessary. -/
theorem repeatsEdge_iff {s : CompiledStatement} (h : c.compileIn l q = .ok s) :
    (∀ patterns, .optionalMatching patterns ∈ s.statement.clauses →
      ¬PathPattern.RepeatsEdge patterns) ∧
    ∃ required patterns, (∀ n, n ∈ required ↔ c.Requires q n) ∧
      (∀ other, .matching other ∈ s.statement.clauses ↔ other = patterns) ∧
      (PathPattern.RepeatsEdge patterns ↔ Node.Clash required required) ∧
      (c.RequiresTwoAbove q → PathPattern.RepeatsEdge patterns) ∧
      (c.DistinctAliases q s.columns →
        (PathPattern.RepeatsEdge patterns ↔ c.RequiresTwoAbove q)) := by
  obtain ⟨p, n, hp, hcolumns, hstages, -⟩ := compile_stages h
  have hmem : ∀ n, n ∈ p.required ↔ c.Requires q n := fun n => mem_required hp
  have hnodup : p.required.Nodup := (nodup_bound hp).of_append_left
  have hclash : PathPattern.RepeatsEdge (p.required.patterns c.hierarchy p.required) ↔
      Node.Clash p.required p.required := Group.repeatsEdge_patterns hnodup
  refine ⟨fun patterns hk => ?_, p.required, _, hmem, fun other => hstages.matching_mem_iff, hclash,
    fun htwo => ?_, fun hd => ⟨fun hrep => ?_, fun htwo => ?_⟩⟩
  · obtain ⟨pattern, hpattern, rfl⟩ := hstages.optionalMatching_mem_iff.1 hk
    obtain ⟨n, -, rfl⟩ := List.mem_map.1 hpattern
    exact Group.not_repeatsEdge_pattern n
  · exact hclash.2 (clash_of_requiresTwoAbove hmem htwo)
  · exact requiresTwoAbove_of_clash hmem hd (hclash.1 hrep)
  · exact hclash.2 (clash_of_requiresTwoAbove hmem htwo)

end Corpus

/-- A query for phones by their syllable and by their word. -/
def Query.bySyllableAndWord : Query :=
  ⟨"phone", none, [⟨⟨["phone", "syllable", "begin"]⟩, .greater, .literal (.int 1)⟩,
    ⟨⟨["phone", "word", "begin"]⟩, .greater, .literal (.int 2)⟩], .project .empty⟩

theorem Corpus.repeatsEdge_small :
    ∃ s patterns, small.compile .bySyllableAndWord = .ok s ∧
      small.DistinctAliases .bySyllableAndWord s.columns ∧
      small.RequiresTwoAbove .bySyllableAndWord ∧
      .matching patterns ∈ s.statement.clauses ∧ PathPattern.RepeatsEdge patterns := by
  have hok : (small.compile .bySyllableAndWord).toOption.isSome = true := by decide
  obtain ⟨s, hs⟩ := exists_eq_ok hok
  have haliases : (small.plan .arrival .bySyllableAndWord).toOption.map (fun p =>
      (p.required ++ p.optional).map Node.aliasName) =
        some ["node_phone", "node_phone_syllable", "node_phone_word"] := by decide
  have hdistinct := distinctAliases_of_plan hs haliases (by decide)
  have htwo : small.RequiresTwoAbove .bySyllableAndWord := by
    refine ⟨small.anchor "phone", "syllable", "word", by decide, ?_, ?_⟩
    · exact .filter List.mem_cons_self (.path ⟨_, rfl, rfl⟩)
    · exact .filter (List.mem_cons_of_mem _ List.mem_cons_self) (.path ⟨_, rfl, rfl⟩)
  obtain ⟨-, required, patterns, -, hmatching, -, -, hiff⟩ := repeatsEdge_iff hs
  exact ⟨s, patterns, hs, hdistinct, htwo, (hmatching patterns).2 rfl, (hiff hdistinct).2 htwo⟩

end AnnotationQuery
