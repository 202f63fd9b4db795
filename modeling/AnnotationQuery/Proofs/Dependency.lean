import AnnotationQuery.Node.Pattern
import Mathlib.Tactic.Common

/-!
# What a node needs

A node hangs from an annotation: a relative position from its base, a containing annotation from the
one it contains, every other node from its own annotation. Following these dependencies leads back
to the anchor. The pattern that binds a node starts at such an annotation, or at a position between
the base and the node when one is at hand.

Results:
* `Node.mem_closure_iff`: the closure of a node consists of what the node needs.
* `Reference.nearest_spec`: the start of a relative position is the nearest position at hand.
* `Node.pattern_eq`: the pattern of a node is one step from its start.
* `Node.start_mem`: among nodes that are closed under dependencies, the start is at hand.
* `Reference.start_induction`: induction from the anchor along starts.
-/

namespace AnnotationQuery

/-! ## Displacements -/

namespace Offset

@[simp] theorem zero_position : zero.position = 0 := rfl

@[simp] theorem of_position (position : Int) (axis : Axis) :
    (of position axis).position = position :=
  rfl

@[simp] theorem of_zero (axis : Axis) : of 0 axis = zero := rfl

theorem of_axis {position : Int} (h : position ≠ 0) (axis : Axis) :
    (of position axis).axis = axis :=
  if_neg h

theorem eq_zero {offset : Offset} (h : offset.position = 0) : offset = zero := by
  obtain ⟨position, axis, haxis⟩ := offset
  obtain rfl : position = 0 := h
  obtain rfl := haxis rfl
  rfl

theorem of_self (r : Offset) : of r.position r.axis = r := by
  obtain ⟨position, axis, haxis⟩ := r
  by_cases h : position = 0
  · obtain rfl := haxis h
    simp [of]
  · simp [of, h]

end Offset

namespace Reference

@[simp] theorem offset_withOffset (r : Reference) (offset : Offset) :
    (r.withOffset offset).offset = offset := by
  cases r <;> rfl

@[simp] theorem withOffset_offset (r : Reference) : r.withOffset r.offset = r := by
  cases r <;> rfl

@[simp] theorem withOffset_withOffset (r : Reference) (o o' : Offset) :
    (r.withOffset o).withOffset o' = r.withOffset o' := by
  cases r <;> rfl

@[simp] theorem position_base (r : Reference) : r.base.position = 0 := by
  simp [position, base]

theorem enclosing?_base (r : Reference) : r.base.enclosing? = r.enclosing? :=
  enclosing?_withOffset r .zero

theorem base_eq_self {r : Reference} (h : r.position = 0) : r.base = r := by
  rw [base, ← Offset.eq_zero h, withOffset_offset]

theorem depth_of_enclosing {r inner : Reference} (h : r.enclosing? = some inner) :
    r.depth = inner.depth + 1 := by
  cases r with
  | root corpus tier offset => cases h
  | within inner' tier offset =>
    obtain rfl : inner' = inner := Option.some.inj h
    rfl

/-- A reference at position 0 above another one is written `containedBy`. -/
theorem eq_containedBy {r inner : Reference} (h0 : r.position = 0)
    (h : r.enclosing? = some inner) : r = inner.containedBy r.tier := by
  cases r with
  | root corpus tier offset => cases h
  | within inner' tier offset =>
    obtain rfl : inner' = inner := Option.some.inj h
    obtain rfl : offset = .zero := Offset.eq_zero h0
    rfl

end Reference

/-! ## Needs -/

namespace Node

/-- A node needs itself and what the node before it needs. -/
inductive Needs : Node → Node → Prop
  | refl (n : Node) : Needs n n
  | step {n k m : Node} : n.dependency? = some k → Needs k m → Needs n m

theorem Needs.single {n m : Node} (h : n.dependency? = some m) : n.Needs m :=
  .step h (.refl m)

theorem Needs.trans {n k m : Node} (h : n.Needs k) (h' : k.Needs m) : n.Needs m := by
  induction h with
  | refl _ => exact h'
  | step hd _ ih => exact .step hd (ih h')

/-- With each of its nodes the list has the node that has to be bound before. -/
def Closed (nodes : List Node) : Prop :=
  ∀ n ∈ nodes, ∀ m, n.dependency? = some m → m ∈ nodes

theorem dependency?_token (r : Reference) :
    (token r).dependency? = (if r.position = 0 then r.enclosing? else some r.base).map token :=
  rfl

theorem self_mem_closure (n : Node) : n ∈ n.closure := by
  rw [closure_eq]
  exact List.mem_cons_self

theorem mem_closure_of_dependency {n k m : Node} (h : n.dependency? = some k)
    (hm : m ∈ k.closure) : m ∈ n.closure := by
  rw [closure_eq, h]
  exact List.mem_cons_of_mem _ hm

theorem needs_base (r : Reference) : (token r).Needs (token r.base) := by
  by_cases h : r.position = 0
  · rw [Reference.base_eq_self h]
    exact .refl _
  · exact .single (by rw [dependency?_token, if_neg h, Option.map_some])

theorem needs_enclosing {r inner : Reference} (h : r.enclosing? = some inner) :
    (token r).Needs (token inner) := by
  refine (needs_base r).trans (.single ?_)
  rw [dependency?_token, if_pos r.position_base, r.enclosing?_base, h, Option.map_some]

theorem needs_of_mem_withBase {r q : Reference} (h : q ∈ r.withBase) :
    (token r).Needs (token q) := by
  have hq : q = r ∨ q = r.base := by
    unfold Reference.withBase at h
    split at h <;> simp_all
  rcases hq with rfl | rfl
  · exact .refl _
  · exact needs_base r

theorem needs_of_mem_chain {r q : Reference} (h : q ∈ r.chain) : (token r).Needs (token q) := by
  induction r with
  | root corpus tier offset => exact needs_of_mem_withBase h
  | within inner tier offset ih =>
    rcases List.mem_append.1 h with h | h
    · exact needs_of_mem_withBase h
    · exact (needs_enclosing (by rfl)).trans (ih h)

theorem needs_of_mem_closure {n m : Node} (h : m ∈ n.closure) : n.Needs m := by
  have hchain : ∀ r, m ∈ r.chain.map token → (token r).Needs m := by
    intro r hm
    obtain ⟨q, hq, rfl⟩ := List.mem_map.1 hm
    exact needs_of_mem_chain hq
  cases n with
  | token r => exact hchain r h
  | type r | entity kind r | attached r name =>
    rcases List.mem_cons.1 h with rfl | h
    · exact .refl _
    · exact .step rfl (hchain r h)

/-- The closure of a node consists of what the node needs. -/
theorem mem_closure_iff {n m : Node} : m ∈ n.closure ↔ n.Needs m := by
  refine ⟨needs_of_mem_closure, fun h => ?_⟩
  induction h with
  | refl n => exact self_mem_closure n
  | step hd _ ih => exact mem_closure_of_dependency hd ih

theorem Closed.needs {nodes : List Node} (hc : Closed nodes) {n m : Node} (hn : n ∈ nodes)
    (h : n.Needs m) : m ∈ nodes := by
  induction h with
  | refl n => exact hn
  | step hd _ ih => exact ih (hc _ hn _ hd)

end Node

/-! ## Starts -/

namespace Reference

@[simp] theorem position_onSameSide (r : Reference) (d : Nat) :
    (r.onSameSide d).position = r.position.sign * d := by
  simp [onSameSide, atPosition, position]

theorem onSameSide_zero (r : Reference) : r.onSameSide 0 = r.base := by
  simp [onSameSide, atPosition, base]

theorem onSameSide_natAbs (r : Reference) : r.onSameSide r.position.natAbs = r := by
  unfold onSameSide atPosition
  rw [Int.sign_mul_natAbs]
  exact (congrArg r.withOffset r.offset.of_self).trans r.withOffset_offset

theorem depth_onSameSide (r : Reference) (d : Nat) : (r.onSameSide d).depth = r.depth :=
  depth_withOffset r _

theorem natAbs_onSameSide {r : Reference} (h : r.position ≠ 0) (d : Nat) :
    (r.onSameSide d).position.natAbs = d := by
  rw [position_onSameSide, Int.natAbs_mul, Int.natAbs_sign_of_ne_zero h, Nat.one_mul,
    Int.natAbs_natCast]

/-- A relative position is reached from the nearest position at hand on its side, and from the base
if there is none. -/
theorem nearest_spec (available : List Node) {r : Reference} (h : r.position ≠ 0) :
    ∃ d < r.position.natAbs, r.nearest available = r.onSameSide d ∧
      (0 < d → .token (r.onSameSide d) ∈ available) ∧
      ∀ e, d < e → e < r.position.natAbs → .token (r.onSameSide e) ∉ available := by
  have hpos : 0 < r.position.natAbs := Int.natAbs_pos.2 h
  unfold nearest
  generalize r.position.natAbs = n at hpos
  induction n with
  | zero => omega
  | succ n ih =>
    rw [List.range_succ, List.reverse_append, List.reverse_singleton, List.singleton_append,
      List.map_cons, List.find?_cons]
    by_cases hmem : Node.token (r.onSameSide n) ∈ available
    · exact ⟨n, by omega, by simp [hmem], fun _ => hmem, fun e h1 h2 => by omega⟩
    · simp only [hmem, decide_false]
      rcases Nat.eq_zero_or_pos n with rfl | hn
      · exact ⟨0, by omega, by simp [onSameSide_zero], by omega, fun e h1 h2 => by omega⟩
      · obtain ⟨d, hd, heq, hav, hnone⟩ := ih hn
        refine ⟨d, by omega, heq, hav, fun e h1 h2 => ?_⟩
        rcases Nat.lt_succ_iff_lt_or_eq.1 h2 with h2 | rfl
        · exact hnone e h1 h2
        · exact hmem

theorem depth_nearest (available : List Node) {r : Reference} (h : r.position ≠ 0) :
    (r.nearest available).depth = r.depth := by
  obtain ⟨d, -, heq, -⟩ := nearest_spec available h
  rw [heq, depth_onSameSide]

theorem natAbs_nearest_lt (available : List Node) {r : Reference} (h : r.position ≠ 0) :
    (r.nearest available).position.natAbs < r.position.natAbs := by
  obtain ⟨d, hd, heq, -⟩ := nearest_spec available h
  rw [heq, natAbs_onSameSide h]
  exact hd

theorem nearest_mem {available : List Node} {r : Reference} (h : r.position ≠ 0)
    (hbase : .token r.base ∈ available) : .token (r.nearest available) ∈ available := by
  obtain ⟨d, -, heq, hav, -⟩ := nearest_spec available h
  rw [heq]
  rcases Nat.eq_zero_or_pos d with rfl | hd
  · rw [onSameSide_zero]
    exact hbase
  · exact hav hd

end Reference

namespace Node

/-- The annotation at which the pattern of a node starts; the anchor has none. -/
def start? (available : List Node) : Node → Option Reference
  | token r => if r.position = 0 then r.enclosing? else some (r.nearest available)
  | type r | entity _ r | attached r _ => some r

/-- The edges from a start to a node, and the node. -/
def stepFrom (h : Hierarchy) (start : Reference) (n : Node) : PathStep :=
  match n with
  | token r =>
    if r.position = 0 then
      ⟨Relation.containedBy, .outgoing, h.levels start.tier r.tier, n.nodePattern⟩
    else ⟨Relation.along r.axis, if 0 < r.position then .outgoing else .incoming,
      (r.position - start.position).natAbs, n.nodePattern⟩
  | type _ => ⟨Relation.isA, .outgoing, 1, n.nodePattern⟩
  | entity kind _ => ⟨Relation.toEntity kind, .outgoing, 1, n.nodePattern⟩
  | attached _ _ => ⟨Relation.annotates, .incoming, 1, n.nodePattern⟩

@[simp] theorem stepFrom_node (h : Hierarchy) (start : Reference) (n : Node) :
    (n.stepFrom h start).node = n.nodePattern := by
  cases n with
  | token r => by_cases h0 : r.position = 0 <;> simp [stepFrom, h0]
  | type r | entity kind r | attached r name => rfl

/-- The pattern of a node is one step from its start. -/
theorem pattern_eq (h : Hierarchy) (available : List Node) (n : Node) :
    n.pattern h available =
      match n.start? available with
      | some start => ⟨.bound start.aliasName, [n.stepFrom h start]⟩
      | none => .single n.nodePattern := by
  cases n with
  | token r =>
    by_cases h0 : r.position = 0
    · cases he : r.enclosing? <;>
        simp [pattern, patternOver, levels, contained?, Reference.approach?, start?, stepFrom,
          reference, h0, he]
    · simp [pattern, patternOver, Reference.approach?, start?, stepFrom, h0]
  | type r | entity kind r | attached r name => rfl

/-- A containing annotation starts at the one that it contains, a relative position at the nearest
one. -/
theorem start?_token_cases {available : List Node} {r start : Reference}
    (h : (token r).start? available = some start) :
    (r.position = 0 ∧ r.enclosing? = some start) ∨
      (r.position ≠ 0 ∧ start = r.nearest available) := by
  by_cases h0 : r.position = 0
  · exact .inl ⟨h0, by simpa [start?, h0] using h⟩
  · exact .inr ⟨h0, by simpa [start?, h0] using h.symm⟩

/-- A node without a start is an anchor. -/
theorem start?_eq_none {available : List Node} {n : Node} (h : n.start? available = none) :
    ∃ corpus tier, n = token (.root corpus tier .zero) := by
  cases n with
  | token r =>
    cases r with
    | root corpus tier offset =>
      by_cases h0 : offset.position = 0
      · exact ⟨corpus, tier, by rw [Offset.eq_zero h0]⟩
      · simp [start?, Reference.position, Reference.offset, h0] at h
    | within inner tier offset =>
      by_cases h0 : offset.position = 0 <;>
        simp [start?, Reference.position, Reference.offset, Reference.enclosing?, h0] at h
  | type r | entity kind r | attached r name => cases h

/-- Among nodes that are closed under dependencies, the start of each node is at hand. -/
theorem start_mem {available : List Node} (hc : Closed available) {n : Node} (hn : n ∈ available)
    {start : Reference} (h : n.start? available = some start) : token start ∈ available := by
  cases n with
  | token r =>
    rcases start?_token_cases h with ⟨h0, he⟩ | ⟨h0, rfl⟩
    · exact hc _ hn _ (by rw [dependency?_token, if_pos h0, he, Option.map_some])
    · exact Reference.nearest_mem h0 (hc _ hn _ (by rw [dependency?_token, if_neg h0]; rfl))
  | type r | entity kind r | attached r name =>
    obtain rfl := Option.some.inj h
    exact hc _ hn _ rfl

end Node

/-- Induction along the starts of patterns: from a node's start to the node. A start is less deeply
nested than the node, or closer to the same base. -/
theorem Reference.start_induction (available : List Node) {motive : Reference → Prop}
    (anchor : ∀ corpus tier, motive (.root corpus tier .zero))
    (step : ∀ r start, (Node.token r).start? available = some start → motive start → motive r)
    (r : Reference) : motive r := by
  cases hs : (Node.token r).start? available with
  | none =>
    obtain ⟨corpus, tier, h⟩ := Node.start?_eq_none hs
    obtain rfl : r = .root corpus tier .zero := by injection h
    exact anchor corpus tier
  | some start => exact step r start hs (start_induction available anchor step start)
termination_by (r.depth, r.position.natAbs)
decreasing_by
  rcases Node.start?_token_cases hs with ⟨-, he⟩ | ⟨h0, rfl⟩
  · have := depth_of_enclosing he
    exact Prod.Lex.left _ _ (by omega)
  · rw [depth_nearest available h0]
    exact Prod.Lex.right _ (natAbs_nearest_lt available h0)

end AnnotationQuery
