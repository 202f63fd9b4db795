import AnnotationQuery.Proofs.AliasIdentity
import AnnotationQuery.Proofs.RepeatedEdge

/-!
# Chains of positions

A position along a tier is reached from the nearest position that is bound on its side of the base,
so that the positions of one side form a chain of single steps whose edges add up to the distance
from the base. Patterns are made one after the other, each from the nodes bound so far. Binding
order has put every nearer position in front by then, whatever the order in which a query mentions
them, so that nothing is lost by looking among all nodes of the part.

Results:
* `Reference.exists_nearest`: where the pattern of a position starts.
* `Reference.aliasName_atPosition_inj`: the positions of a reference have different aliases.
* `PathPattern.chain_iff`: the edges of a chain add up to the distance from the base.
* `Corpus.compile_chained`: the chains of compiled statements.
-/

namespace AnnotationQuery

/-! ## The positions of a reference -/

namespace Reference

/-- The position is nearer to the base than that of the reference and on its side. The base is on
both sides. -/
def Before (r : Reference) (d : Int) : Prop :=
  (d = 0 ∨ d.sign = r.position.sign) ∧ d.natAbs < r.position.natAbs

/-- Of the bound positions nearer to the base on the side of the reference, the nearest to the
reference. -/
structure Nearest (bound : Reference → Prop) (r : Reference) (d : Int) : Prop where
  before : r.Before d
  mem : bound (r.atPosition d)
  farthest : ∀ e, r.Before e → bound (r.atPosition e) → e.natAbs ≤ d.natAbs

theorem Before.onSameSide_eq {r : Reference} {d : Int} (h : r.Before d) :
    r.onSameSide d.natAbs = r.atPosition d := by
  rcases h.1 with rfl | hsign
  · simp [onSameSide]
  · rw [onSameSide, ← hsign, Int.sign_mul_natAbs]

@[simp] theorem position_atPosition (r : Reference) (d : Int) : (r.atPosition d).position = d := by
  rw [position, atPosition, offset_withOffset, Offset.of_position]

theorem before_sign_mul {r : Reference} {d : Nat} (hd : d < r.position.natAbs) :
    r.Before (r.position.sign * d) := by
  have h0 : r.position ≠ 0 := by omega
  refine ⟨?_, ?_⟩
  · rcases Nat.eq_zero_or_pos d with rfl | hpos
    · exact .inl (by simp)
    · refine .inr ?_
      have hone : (d : Int).sign = 1 := Int.sign_eq_one_of_pos (by omega)
      rw [Int.sign_mul, Int.sign_sign, hone, Int.mul_one]
  · rwa [← position_onSameSide, natAbs_onSameSide h0]

/-- Going on from a position in front adds up to the distance of the reference. -/
theorem Before.natAbs_add {r : Reference} {d : Int} (h : r.Before d) :
    d.natAbs + (r.position - d).natAbs = r.position.natAbs := by
  obtain ⟨rfl | hsign, hlt⟩ := h
  · simp
  · rcases Int.lt_trichotomy r.position 0 with hneg | h0 | hpos
    · rw [Int.sign_eq_neg_one_of_neg hneg, Int.sign_eq_neg_one_iff_neg] at hsign
      omega
    · omega
    · rw [Int.sign_eq_one_of_pos hpos, Int.sign_eq_one_iff_pos] at hsign
      omega

/-- The pattern of a position starts at the nearest bound one. -/
theorem exists_nearest {available : List Node} {r : Reference} (h0 : r.position ≠ 0)
    (hbase : .token r.base ∈ available) :
    ∃ d, r.nearest available = r.atPosition d ∧ r.Nearest (.token · ∈ available) d := by
  obtain ⟨d, hd, heq, hmem, hnone⟩ := nearest_spec available h0
  refine ⟨r.position.sign * d, heq, before_sign_mul hd, ?_, fun e he hbound => ?_⟩
  · rcases Nat.eq_zero_or_pos d with rfl | hpos
    · rw [← onSameSide, onSameSide_zero]
      exact hbase
    · exact hmem hpos
  · rw [← position_onSameSide, natAbs_onSameSide h0]
    by_contra hlt
    refine hnone e.natAbs (by omega) he.2 ?_
    rw [he.onSameSide_eq]
    exact hbound

/-- Displacements of one reference are told apart by their aliases. -/
theorem offset_eq_of_aliasName {r : Reference} {o o' : Offset}
    (h : (r.withOffset o).aliasName = (r.withOffset o').aliasName) : o = o' := by
  have horigin : ∀ o, (r.withOffset o).origin = r.origin := fun o => by cases r <;> rfl
  have hlonger : ∀ o : Offset, r.origin ≠ r.origin ++ "_" ++ o.word := fun o heq => by
    simpa [String.append_assoc] using congrArg String.length heq
  rw [aliasName_eq, aliasName_eq, tier_withOffset, tier_withOffset, String.append_left_inj,
    String.append_left_inj] at h
  simp only [stem, position, offset_withOffset, horigin] at h
  by_cases h0 : o.position = 0 <;> by_cases h0' : o'.position = 0
  · rw [Offset.eq_zero h0, Offset.eq_zero h0']
  · rw [if_pos h0, if_neg h0'] at h
    exact absurd h (hlonger o')
  · rw [if_neg h0, if_pos h0'] at h
    exact absurd h.symm (hlonger o)
  · rw [if_neg h0, if_neg h0', String.append_right_inj] at h
    exact Offset.word_inj h0 h0' h

/-- The positions of a reference have different aliases. -/
theorem aliasName_atPosition_inj {r : Reference} {d e : Int} :
    (r.atPosition d).aliasName = (r.atPosition e).aliasName ↔ d = e :=
  ⟨fun h => congrArg Offset.position (offset_eq_of_aliasName h), fun h => h ▸ rfl⟩

end Reference

/-! ## Patterns of positions -/

/-- The step leads to the reference from its position `d`. It is written with a range unless it is
a single edge. -/
structure PathStep.LeadsTo (s : PathStep) (r : Reference) (d : Int) : Prop where
  relation_eq : s.relation = Relation.along r.axis
  direction_eq : s.direction = .outgoing ↔ 0 < r.position
  hops_eq : s.hops = (r.position - d).natAbs
  node_eq : s.node = (Node.token r).nodePattern
  range_iff : '*' ∈ s.edgeText.toList ↔ s.hops ≠ 1

/-- The pattern binds the reference by one step from its position `d`. Nothing but the type node may
follow. -/
structure PathPattern.Reaches (p : PathPattern) (r : Reference) (d : Int) : Prop where
  start_eq : p.start = .bound (r.atPosition d).aliasName
  steps_eq : ∃ step rest, p.steps = step :: rest ∧ step.LeadsTo r d ∧
    ∀ s ∈ rest, s.relation = Relation.isA ∧ s.node = (Node.type r).nodePattern

theorem Node.stepFrom_leadsTo (h : Hierarchy) {r : Reference} (h0 : r.position ≠ 0)
    (start : Reference) : ((token r).stepFrom h start).LeadsTo r start.position := by
  have hstep : (token r).stepFrom h start = ⟨Relation.along r.axis,
      if 0 < r.position then .outgoing else .incoming, (r.position - start.position).natAbs,
      (token r).nodePattern⟩ := if_neg h0
  have hlisted := (Relation.lateral_spec (Relation.along_mem_lateral r.axis)).1
  refine ⟨by rw [hstep], ?_, by rw [hstep], by rw [hstep], PathStep.range_mem_iff ?_⟩
  · rw [hstep]
    by_cases hpos : 0 < r.position <;> simp [hpos]
  · rw [hstep]
    exact hlisted

namespace Group

variable {h : Hierarchy} {available : List Node} {group : Group}

/-- The nodes of a group that have patterns of their own, with these. -/
def bindings (h : Hierarchy) (available : List Node) (group : Group) : List (Node × PathPattern) :=
  (group.filter group.leads).map fun n => (n, group.pattern h available n)

theorem map_snd_bindings :
    (group.bindings h available).map Prod.snd = group.patterns h available := by
  rw [bindings, List.map_map]
  rfl

theorem map_fst_bindings :
    (group.bindings h available).map Prod.fst = group.filter group.leads := by
  rw [bindings, List.map_map]
  exact List.map_id _

theorem token_mem_bindings {r : Reference} :
    .token r ∈ (group.bindings h available).map Prod.fst ↔ .token r ∈ group := by
  rw [map_fst_bindings, List.mem_filter, leads_token, and_iff_left rfl]

/-- The pattern of a position starts at the nearest position at hand. -/
theorem reaches_of_mem_bindings (hc : Node.Closed available) (hsub : group ⊆ available)
    {bound : Reference → Prop} (hbound : ∀ r, .token r ∈ available ↔ bound r) {r : Reference}
    {pattern : PathPattern} (hp : (.token r, pattern) ∈ group.bindings h available)
    (h0 : r.position ≠ 0) : ∃ d, r.Nearest bound d ∧ pattern.Reaches r d := by
  obtain rfl : (fun r => .token r ∈ available) = bound := funext fun r => propext (hbound r)
  have hr : Node.token r ∈ group :=
    token_mem_bindings.1 (List.mem_map_of_mem (f := Prod.fst) hp)
  have hbase : .token r.base ∈ available := hc.needs (hsub hr) (Node.needs_base r)
  obtain ⟨d, hstart, hnearest⟩ := Reference.exists_nearest h0 hbase
  obtain ⟨n, -, heq⟩ := List.mem_map.1 hp
  obtain ⟨rfl, rfl⟩ := Prod.mk.inj heq
  have hstep : (Node.token r).pattern h available =
      ⟨.bound (r.atPosition d).aliasName, [(Node.token r).stepFrom h (r.atPosition d)]⟩ := by
    rw [Node.pattern_eq, Node.start?, if_neg h0, hstart]
  have hleads := Node.stepFrom_leadsTo h h0 (r.atPosition d)
  rw [r.position_atPosition] at hleads
  refine ⟨d, hnearest, ?_⟩
  rw [pattern, hstep]
  cases hc : group.companion? (.token r) with
  | none => exact ⟨rfl, _, [], rfl, hleads, List.forall_mem_nil _⟩
  | some m =>
    obtain ⟨r', heq, rfl, -⟩ := companion?_eq_some.1 hc
    obtain rfl := Node.token.inj heq
    refine ⟨rfl, _, _, rfl, hleads, fun s hs => ?_⟩
    rw [List.mem_singleton.1 hs]
    exact ⟨rfl, rfl⟩

/-- A position stands behind the one where its pattern starts. -/
theorem mem_front_of_before {r : Reference} {pattern : PathPattern}
    {before after : List (Node × PathPattern)} (hs : Node.Sorted group)
    (hp : group.bindings h available = before ++ (.token r, pattern) :: after) {d : Int}
    (hd : r.Before d) (hmem : .token (r.atPosition d) ∈ group) :
    .token (r.atPosition d) ∈ before.map Prod.fst := by
  have hsplit : group.filter group.leads =
      before.map Prod.fst ++ .token r :: after.map Prod.fst := by
    rw [← map_fst_bindings, hp, List.map_append, List.map_cons]
  have hsorted : Node.Sorted (group.filter group.leads) := hs.filter _
  rw [hsplit] at hsorted
  refine Node.mem_before hsorted ?_ (Node.order_eq_lt_of_distance (r.depth_withOffset _) ?_)
  · rw [← hsplit, List.mem_filter, leads_token, and_iff_left rfl]
    exact hmem
  · rw [Node.reference, Node.reference, r.position_atPosition]
    exact hd.2

end Group

/-! ## Chains -/

namespace PathPattern

/-- Going from the base to a reference along the patterns that bind its positions takes `n`
edges. -/
inductive Chain (bindings : List (Node × PathPattern)) : Reference → Nat → Prop
  | base {r : Reference} : r.position = 0 → Chain bindings r 0
  | step {r : Reference} {d : Int} {n : Nat} {pattern : PathPattern} {s : PathStep}
    {rest : List PathStep} : r.position ≠ 0 → (.token r, pattern) ∈ bindings →
    pattern.start = .bound (r.atPosition d).aliasName → pattern.steps = s :: rest →
    Chain bindings (r.atPosition d) n → Chain bindings r (n + s.hops)

variable {bindings : List (Node × PathPattern)} {bound : Reference → Prop}

/-- The edges of a chain add up to the distance from the base. -/
theorem chain_iff (hmem : ∀ r, bound r → .token r ∈ bindings.map Prod.fst)
    (hreaches : ∀ r pattern, (.token r, pattern) ∈ bindings → r.position ≠ 0 →
      ∃ d, r.Before d ∧ bound (r.atPosition d) ∧ pattern.Reaches r d)
    {r : Reference} (hr : bound r) {n : Nat} :
    Chain bindings r n ↔ n = r.position.natAbs := by
  constructor
  · intro hchain
    induction hchain with
    | base h0 => rw [h0, Int.natAbs_zero]
    | @step r d n pattern s rest h0 hp hstart hsteps _ ih =>
      obtain ⟨d', hbefore, hd', hreach⟩ := hreaches r pattern hp h0
      obtain ⟨s', rest', hsteps', hleads, -⟩ := hreach.steps_eq
      obtain rfl : d' = d := by
        have halias := hreach.start_eq.symm.trans hstart
        exact Reference.aliasName_atPosition_inj.1 (congrArg NodePattern.aliasName halias)
      obtain ⟨rfl, -⟩ := List.cons.inj (hsteps.symm.trans hsteps')
      rw [ih hd', r.position_atPosition, hleads.hops_eq, hbefore.natAbs_add]
  · rintro rfl
    -- each step leads to a position nearer to the base, which is bound as well
    induction hk : r.position.natAbs using Nat.strongRecOn generalizing r with
    | ind k ih =>
      by_cases h0 : r.position = 0
      · rw [← hk, h0]
        exact .base h0
      · obtain ⟨⟨_, pattern⟩, hp, rfl⟩ := List.mem_map.1 (hmem r hr)
        obtain ⟨d, hbefore, hd, hreach⟩ := hreaches r pattern hp h0
        obtain ⟨s, rest, hsteps, hleads, -⟩ := hreach.steps_eq
        have hfront := ih d.natAbs (hk ▸ hbefore.2) hd (by rw [r.position_atPosition])
        have hchain := Chain.step h0 hp hreach.start_eq hsteps hfront
        rwa [hleads.hops_eq, hbefore.natAbs_add, hk] at hchain

end PathPattern

/-! ## Compiled statements -/

/-- The patterns of a compiled statement bind positions in chains. `required` and `optional` are the
nodes that have patterns of their own in the two parts of the statement, with these patterns. -/
structure Corpus.BindsChains (c : Corpus) (q : Query) (columns : List String)
    (required optional : List (Node × PathPattern)) : Prop where
  nodup : ((required ++ optional).map Prod.fst).Nodup
  required_iff : ∀ r, .token r ∈ required.map Prod.fst ↔ c.Requires q (.token r)
  optional_iff : ∀ r, .token r ∈ optional.map Prod.fst ↔
    c.Shows q columns (.token r) ∧ ¬c.Requires q (.token r)
  reaches_required : ∀ before r pattern after, required = before ++ (.token r, pattern) :: after →
    r.position ≠ 0 → ∃ d, r.Nearest (fun q' => c.Requires q (.token q')) d ∧
      pattern.Reaches r d ∧ .token (r.atPosition d) ∈ before.map Prod.fst
  reaches_optional : ∀ before r pattern after, optional = before ++ (.token r, pattern) :: after →
    r.position ≠ 0 →
      ∃ d, r.Nearest (fun q' => c.Requires q (.token q') ∨ c.Shows q columns (.token q')) d ∧
        pattern.Reaches r d ∧ .token (r.atPosition d) ∈ (required ++ before).map Prod.fst
  chain_iff : ∀ r, c.Requires q (.token r) ∨ c.Shows q columns (.token r) →
    ∀ n, PathPattern.Chain (required ++ optional) r n ↔ n = r.position.natAbs

namespace Corpus

variable {l : Listing} {c : Corpus} {q : Query} {p : Plan}

/-- The patterns of a plan bind its positions in chains. -/
theorem bindsChains_plan (h : c.plan l q = .ok p) :
    c.BindsChains q p.ending.columns (p.required.bindings p.hierarchy p.required)
      (p.optional.bindings p.hierarchy (p.required ++ p.optional)) := by
  obtain ⟨hrequired, hoptional⟩ := sorted_plan h
  have hreaches {r pattern} (hp : (.token r, pattern) ∈
      p.required.bindings p.hierarchy p.required) (h0 : r.position ≠ 0) :=
    Group.reaches_of_mem_bindings (closed_required h) (List.Subset.refl _)
      (fun r => mem_required h (n := .token r)) hp h0
  have hreaches' {r pattern} (hp : (.token r, pattern) ∈
      p.optional.bindings p.hierarchy (p.required ++ p.optional)) (h0 : r.position ≠ 0) :=
    Group.reaches_of_mem_bindings (closed_bound h) (List.subset_append_right _ _)
      (fun r => mem_bound h (n := .token r)) hp h0
  constructor
  case nodup =>
    rw [List.map_append, Group.map_fst_bindings, Group.map_fst_bindings]
    exact (nodup_bound h).sublist (List.filter_sublist.append List.filter_sublist)
  case required_iff => exact fun r => Group.token_mem_bindings.trans (mem_required h)
  case optional_iff => exact fun r => Group.token_mem_bindings.trans (mem_optional h)
  case reaches_required =>
    intro before r pattern after hsplit h0
    obtain ⟨d, hnearest, hreach⟩ :=
      hreaches (hsplit ▸ List.mem_append_right _ List.mem_cons_self) h0
    refine ⟨d, hnearest, hreach, ?_⟩
    exact Group.mem_front_of_before hrequired hsplit hnearest.before
      ((mem_required h).2 hnearest.mem)
  case reaches_optional =>
    intro before r pattern after hsplit h0
    obtain ⟨d, hnearest, hreach⟩ :=
      hreaches' (hsplit ▸ List.mem_append_right _ List.mem_cons_self) h0
    refine ⟨d, hnearest, hreach, ?_⟩
    rw [List.map_append, List.mem_append, Group.token_mem_bindings]
    refine (List.mem_append.1 ((mem_bound h).2 hnearest.mem)).imp_right fun hmem => ?_
    exact Group.mem_front_of_before hoptional hsplit hnearest.before hmem
  case chain_iff =>
    have hmem : ∀ r, c.Requires q (.token r) ∨ c.Shows q p.ending.columns (.token r) →
        .token r ∈ (p.required.bindings p.hierarchy p.required ++
          p.optional.bindings p.hierarchy (p.required ++ p.optional)).map Prod.fst := by
      intro r hr
      rw [List.map_append, List.mem_append, Group.token_mem_bindings, Group.token_mem_bindings,
        ← List.mem_append]
      exact (mem_bound h).2 hr
    refine fun r hr n => PathPattern.chain_iff hmem (fun r pattern hp h0 => ?_) hr
    rcases List.mem_append.1 hp with hp | hp
    · obtain ⟨d, hnearest, hreach⟩ := hreaches hp h0
      exact ⟨d, hnearest.before, .inl hnearest.mem, hreach⟩
    · obtain ⟨d, hnearest, hreach⟩ := hreaches' hp h0
      exact ⟨d, hnearest.before, hnearest.mem, hreach⟩

/-- The positions of a compiled statement are chained from the nearest one that is bound. -/
theorem compile_chained {s : CompiledStatement} (h : c.compileIn l q = .ok s) :
    ∃ (required optional : List (Node × PathPattern)) (filters carried ending : List Clause),
      s.statement.Stages (required.map Prod.snd) filters carried (optional.map Prod.snd) ending ∧
        c.BindsChains q s.columns required optional := by
  obtain ⟨p, n, hp, hcolumns, hstages, -⟩ := compile_stages h
  have hchains := bindsChains_plan hp
  rw [← Group.map_snd_bindings, ← Group.map_snd_bindings, ← hierarchy_plan hp] at hstages
  rw [← hcolumns] at hchains
  exact ⟨_, _, _, _, _, hstages, hchains⟩

end Corpus

/-- A query for the phones in front of two phones, the second one an `a`, with the labels of the
phones on either side of that. -/
def Query.aroundSecond : Query :=
  ⟨"phone", none, [⟨⟨["phone", "following", "following", "label"]⟩, .equal,
    .literal (.string "a")⟩], .project { Projection.empty with
      columns := [.ofPath ⟨["phone", "following", "following", "following", "label"]⟩,
        .ofPath ⟨["phone", "following", "label"]⟩] }⟩

theorem Corpus.compile_chained_small :
    ∃ s, small.compile .aroundSecond = .ok s ∧
      ∃ (required optional : List (Node × PathPattern)) (filters carried ending : List Clause),
        s.statement.Stages (required.map Prod.snd) filters carried (optional.map Prod.snd)
          ending ∧ small.BindsChains .aroundSecond s.columns required optional := by
  have hok : (small.compile .aroundSecond).toOption.isSome = true := by decide
  obtain ⟨s, hs⟩ := exists_eq_ok hok
  exact ⟨s, hs, compile_chained hs⟩

end AnnotationQuery
