import AnnotationQuery.Proofs.Containment
import Mathlib.Data.List.Find

/-!
# Binding in turn

The nodes of a group are bound one after the other, each from the nodes that are bound by then, and
what is bound grows by the node and by the type node that goes with it. Binding order has put every
nearer position in front by then, whatever the order in which a query mentions them, so that nothing
is lost by looking among the nodes bound so far only: the patterns are the same as when each starts
at the nearest of all nodes.

Results:
* `Group.pattern_eq_of_front`: the pattern of a node depends on the nodes in front of it.
* `Group.HasBound.mem_iff`: which nodes are bound already when it is their turn.
* `Group.bindAll_eq`: the patterns and the bound nodes of a group that is bound in turn.
-/

namespace AnnotationQuery

namespace Group

variable {h : Hierarchy} {group : Group} {earlier : List Node}

/-- The pattern of a node depends on the nodes in front of it only. -/
theorem pattern_eq_of_front {available available' : List Node} {n : Node}
    (hfront : ∀ q, Node.order (.token q) n = .lt →
      (.token q ∈ available ↔ .token q ∈ available')) :
    group.pattern h available n = group.pattern h available' n := by
  have hnode : n.pattern h available = n.pattern h available' := by
    cases n with
    | token r =>
      by_cases h0 : r.position = 0
      · simp [Node.pattern, Node.patternOver, Reference.approach?, h0]
      · have hnearest : r.nearest available = r.nearest available' := by
          unfold Reference.nearest
          congr 1
          refine List.find?_congr fun q hq => ?_
          obtain ⟨d, hd, rfl⟩ := List.mem_map.1 hq
          rw [List.mem_reverse, List.mem_range] at hd
          refine decide_eq_decide.2 (hfront _ (Node.order_eq_lt_of_distance ?_ ?_))
          · exact r.depth_onSameSide d
          · rw [Node.reference, Reference.natAbs_onSameSide h0]
            exact hd
        simp [Node.pattern, Node.patternOver, Reference.approach?, h0, hnearest]
    | type r | entity kind r | attached r name => rfl
  rw [pattern, pattern, hnode]

/-- Whether a node is bound by those in front of it, in a group without repetition. -/
theorem leads_eq_false_iff {before after : List Node} {n : Node}
    (hs : Node.Sorted (before ++ n :: after)) :
    leads (before ++ n :: after) n = false ↔ ∃ r, n = .type r ∧ .token r ∈ before := by
  constructor
  · intro hleads
    obtain ⟨r, rfl, hr⟩ := leads_eq_false hleads
    exact ⟨r, rfl, Node.mem_before hs hr (Node.order_eq_lt_of_rank rfl (by simp [Node.rank]))⟩
  · rintro ⟨r, rfl, hr⟩
    simp [leads, Node.tokenOfType?, hr]

/-- What is bound once the nodes of `before` have had their turn: what was bound earlier, these
nodes, and the type nodes that go with them. -/
def HasBound (group : Group) (earlier before bound : List Node) : Prop :=
  ∀ m, m ∈ bound ↔ m ∈ earlier ∨ m ∈ before ∨
    ∃ r, m = .type r ∧ .token r ∈ before ∧ .type r ∈ group

namespace HasBound

variable {before bound : List Node}

theorem start (hb : ∀ n, n ∈ bound ↔ n ∈ earlier) : group.HasBound earlier [] bound := by
  simp [HasBound, hb]

/-- A type node that is bound already changes nothing. -/
theorem skip (hb : group.HasBound earlier before bound) {r : Reference} (hr : .type r ∈ bound) :
    group.HasBound earlier (before ++ [.type r]) bound := by
  intro m
  have hm : m = .type r → m ∈ bound := fun heq => heq ▸ hr
  rw [hb m] at hm ⊢
  simp only [List.mem_append, List.mem_singleton, reduceCtorEq, or_false]
  tauto

/-- The turn of a node that is not bound yet. -/
theorem bind (hb : group.HasBound earlier before bound) (n : Node) :
    group.HasBound earlier (before ++ [n]) (bound ++ group.boundBy n) := by
  intro m
  have htype : (∃ r, m = .type r ∧ .token r ∈ before ++ [n] ∧ Node.type r ∈ group) ↔
      (∃ r, m = .type r ∧ .token r ∈ before ∧ Node.type r ∈ group) ∨
        ∃ r, n = .token r ∧ m = .type r ∧ Node.type r ∈ group := by
    simp only [List.mem_append, List.mem_singleton, ← exists_or]
    exact exists_congr fun r => by rw [eq_comm (a := Node.token r)]; tauto
  rw [List.mem_append, hb m, mem_boundBy, htype, List.mem_append, List.mem_singleton]
  simp only [or_assoc, or_left_comm (a := m = n)]

theorem token_mem_iff (hb : group.HasBound earlier before bound) {r : Reference} :
    .token r ∈ bound ↔ .token r ∈ earlier ∨ .token r ∈ before := by
  simp [hb (.token r)]

/-- A node whose turn it is has been bound only if it goes with an annotation in front of it. -/
theorem mem_iff {after : List Node} {n : Node} (hb : group.HasBound earlier before bound)
    (hgroup : group = before ++ n :: after) (hs : Node.Sorted group)
    (hn : (earlier ++ group).Nodup) : n ∈ bound ↔ group.leads n = false := by
  subst hgroup
  obtain ⟨-, hnodup, hdisjoint⟩ := List.nodup_append'.1 hn
  rw [hb n, leads_eq_false_iff hs]
  constructor
  · rintro (hin | hin | ⟨r, hr, hin, -⟩)
    · exact absurd (List.mem_append_right _ List.mem_cons_self) (hdisjoint hin)
    · exact absurd List.mem_cons_self ((List.nodup_append'.1 hnodup).2.2 hin)
    · exact ⟨r, hr, hin⟩
  · rintro ⟨r, rfl, hin⟩
    exact .inr (.inr ⟨r, rfl, hin, by simp⟩)

end HasBound

/-- Binding the rest of a group when the nodes in front of it have had their turn. -/
theorem bindAll_rest {tier : String} (ht : h.hasTier tier = true)
    (hclimbs : ∀ n ∈ group, n.reference.Climbs h tier) (hs : Node.Sorted group)
    (hn : (earlier ++ group).Nodup) {before rest bound : List Node}
    (hgroup : group = before ++ rest)
    (hb : group.HasBound earlier before bound) :
    group.bindAll h bound rest =
      .ok ((rest.filter group.leads).map (group.pattern h (earlier ++ group)),
        bound ++ (rest.filter group.leads).flatMap group.boundBy) := by
  -- on the nodes whose turn is to come; `HasBound` says what the others have bound
  induction rest generalizing before bound with
  | nil => simp [bindAll, pure, Except.pure]
  | cons n rest ih =>
    have hgroup' : group = (before ++ [n]) ++ rest := by simp [hgroup]
    have hmem := hb.mem_iff hgroup hs hn
    rw [bindAll]
    cases hl : group.leads n with
    | false =>
      have hin : n ∈ bound := hmem.2 hl
      obtain ⟨r, rfl, -⟩ := leads_eq_false hl
      rw [if_pos hin, List.filter_cons_of_neg (by simp [hl])]
      exact ih hgroup' (hb.skip hin)
    | true =>
      have hnot : n ∉ bound := fun hin => by simp [hmem.1 hin] at hl
      have hn : n ∈ group := hgroup ▸ List.mem_append_right _ List.mem_cons_self
      -- the nodes in front of `n` in binding order have had their turn, as the group is sorted
      have hpattern : group.pattern h bound n = group.pattern h (earlier ++ group) n := by
        refine pattern_eq_of_front fun q hq => ?_
        rw [hb.token_mem_iff, List.mem_append]
        refine or_congr_right ⟨fun hin => hgroup ▸ List.mem_append_left _ hin, fun hin => ?_⟩
        exact Node.mem_before (hgroup ▸ hs) (hgroup ▸ hin) hq
      rw [if_neg hnot, group.emit_eq ht (hclimbs n hn), ih hgroup' (hb.bind n), hpattern,
        List.filter_cons_of_pos hl, List.map_cons, List.flatMap_cons, ← List.append_assoc]
      rfl

/-- Binding nodes in turn looks no farther than the nodes bound so far, and finds the same starts as
among all nodes. -/
theorem bindAll_eq {tier : String} (ht : h.hasTier tier = true)
    (hclimbs : ∀ n ∈ group, n.reference.Climbs h tier) (hs : Node.Sorted group)
    (hn : (earlier ++ group).Nodup) {bound : List Node} (hb : ∀ n, n ∈ bound ↔ n ∈ earlier) :
    group.bindAll h bound group =
      .ok (group.patterns h (earlier ++ group), bound ++ group.bindingSequence) :=
  bindAll_rest ht hclimbs hs hn (List.nil_append group).symm (.start hb)

/-- A group that is bound first. -/
theorem bindAll_eq_of_none {tier : String} (group : Group) (ht : h.hasTier tier = true)
    (hclimbs : ∀ n ∈ group, n.reference.Climbs h tier) (hs : Node.Sorted group)
    (hn : group.Nodup) :
    group.bindAll h [] group = .ok (group.patterns h group, group.bindingSequence) := by
  have hn : ([] ++ group).Nodup := hn
  exact bindAll_eq ht hclimbs hs hn fun _ => Iff.rfl

end Group

end AnnotationQuery
