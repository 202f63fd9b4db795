import AnnotationQuery.Proofs.Dependency
import AnnotationQuery.Proofs.Lists

/-!
# Binding in order

Putting the nodes in place one by one is a stable sort. It puts every node behind the start of its
pattern, so that a group can be bound pattern by pattern. A type node shares the pattern of its
annotation when both are in the group; apart from that each node has a pattern of its own, and every
node of the group is introduced exactly once.

Results:
* `Node.order_start`: a start comes before the node in binding order.
* `Listing.sorted_eq_mergeSort`: binding order is made by a stable sort.
* `Node.Sorted.eq_of_perm`: binding order leaves no choice when aliases are different.
* `Node.start_before`: the start of a node stands before it in a sorted group.
* `Group.mem_bindingSequence`, `Group.nodup_bindingSequence`: the patterns of a group bind its
  nodes, each once.
* `Group.introduced_pattern`: what a pattern introduces.
-/

namespace AnnotationQuery

namespace Node

/-! ## The order -/

theorem order_eq_lt_of_depth {m n : Node} (h : m.reference.depth < n.reference.depth) :
    order m n = .lt := by
  simp [order, compareLex, compareOn, Nat.compare_eq_lt.2 h]

theorem order_eq_lt_of_distance {m n : Node} (hd : m.reference.depth = n.reference.depth)
    (h : m.reference.position.natAbs < n.reference.position.natAbs) : order m n = .lt := by
  simp [order, compareLex, compareOn, hd, Nat.compare_eq_lt.2 h]

theorem order_eq_lt_of_rank {m n : Node} (hr : m.reference = n.reference)
    (h : m.rank < n.rank) : order m n = .lt := by
  simp [order, compareLex, compareOn, hr, Nat.compare_eq_lt.2 h]

/-- The start of a pattern comes before the node that the pattern binds. -/
theorem order_start {available : List Node} {n : Node} {start : Reference}
    (h : n.start? available = some start) : order (token start) n = .lt := by
  cases n with
  | token r =>
    rcases start?_token_cases h with ⟨h0, he⟩ | ⟨h0, rfl⟩
    · exact order_eq_lt_of_depth (by simp [reference, Reference.depth_of_enclosing he])
    · exact order_eq_lt_of_distance (Reference.depth_nearest available h0)
        (Reference.natAbs_nearest_lt available h0)
  | type r | attached r name =>
    obtain rfl := Option.some.inj h
    exact order_eq_lt_of_rank rfl (by simp [rank])
  | entity kind r =>
    obtain rfl := Option.some.inj h
    exact order_eq_lt_of_rank rfl (by cases kind <;> simp [rank])

instance : Std.TransCmp order :=
  inferInstanceAs (Std.TransCmp (compareLex _ _))

theorem order_swap (m n : Node) : order m n = (order n m).swap :=
  Std.OrientedCmp.eq_swap

theorem order_self (n : Node) : order n n = .eq :=
  Std.ReflCmp.compare_self

/-- Nodes in ascending binding order. -/
def Sorted (nodes : List Node) : Prop :=
  nodes.Pairwise fun m n => (order m n).isLE

theorem place_append {before : List Node} {n : Node}
    (h : ∀ m ∈ before, (order n m).isLE = false) (after : List Node) :
    n.place (before ++ after) = before ++ n.place after := by
  induction before with
  | nil => rfl
  | cons m before ih =>
    rw [List.forall_mem_cons] at h
    rw [List.cons_append, place, h.1, ih h.2]
    rfl

theorem place_of_isLE {n : Node} {nodes : List Node} (h : ∀ m ∈ nodes, (order n m).isLE = true) :
    n.place nodes = n :: nodes := by
  cases nodes with
  | nil => rfl
  | cons m nodes => rw [place, if_pos (h m List.mem_cons_self)]

theorem isLE_trans (k m n : Node) (hkm : (order k m).isLE = true) (hmn : (order m n).isLE = true) :
    (order k n).isLE = true :=
  Std.TransCmp.isLE_trans hkm hmn

theorem isLE_total (m n : Node) : ((order m n).isLE || (order n m).isLE) = true := by
  rw [order_swap n m]
  cases order m n <;> rfl

end Node

namespace Listing

/-- Putting the nodes in place one by one is a stable sort. -/
theorem sorted_eq_mergeSort (l : Listing) (nodes : List Node) :
    l.sorted nodes = (l.list nodes).mergeSort fun m n => (Node.order m n).isLE := by
  unfold sorted
  induction l.list nodes with
  | nil => rw [List.foldr_nil, List.mergeSort_nil]
  | cons n nodes ih =>
    obtain ⟨before, after, hsort, hrest, hbefore⟩ :=
      List.mergeSort_cons Node.isLE_trans Node.isLE_total n nodes
    have hpairwise := List.pairwise_mergeSort Node.isLE_trans Node.isLE_total (n :: nodes)
    rw [hsort] at hpairwise
    have hafter := (List.pairwise_cons.1 (List.pairwise_append.1 hpairwise).2.1).1
    rw [List.foldr_cons, ih, hrest, hsort, Node.place_append (by simpa using hbefore),
      Node.place_of_isLE hafter]

theorem sorted_perm (l : Listing) (nodes : List Node) : (l.sorted nodes).Perm nodes := by
  rw [sorted_eq_mergeSort]
  exact (List.mergeSort_perm _ _).trans (l.perm nodes)

theorem mem_sorted {l : Listing} {n : Node} {nodes : List Node} :
    n ∈ l.sorted nodes ↔ n ∈ nodes :=
  (l.sorted_perm nodes).mem_iff

theorem sorted_sorted (l : Listing) (nodes : List Node) : Node.Sorted (l.sorted nodes) := by
  rw [sorted_eq_mergeSort]
  exact List.pairwise_mergeSort Node.isLE_trans Node.isLE_total _

end Listing

namespace Node

/-- The last thing that nodes are ordered by is their alias. -/
theorem aliasName_eq_of_order {m n : Node} (h : order m n = .eq) : m.aliasName = n.aliasName := by
  simp only [order, compareLex_eq_eq, compareOn] at h
  exact Std.LawfulEqOrd.eq_of_compare h.2.2.2.2

/-- Nodes with different aliases have one binding order. -/
theorem Sorted.eq_of_perm {nodes nodes' : List Node} (hs : Sorted nodes) (hs' : Sorted nodes')
    (hperm : nodes.Perm nodes')
    (hdistinct : ∀ m ∈ nodes, ∀ n ∈ nodes, m.aliasName = n.aliasName → m = n) :
    nodes = nodes' := by
  refine hperm.eq_of_pairwise (fun m n hm hn hle hge => ?_) hs hs'
  have heq : order m n = .eq := by
    rw [order_swap n m] at hge
    cases h : order m n <;> simp_all
  exact hdistinct m hm n (hperm.mem_iff.2 hn) (aliasName_eq_of_order heq)

/-- The same nodes, all with different aliases, have one binding order. -/
theorem Sorted.eq_of_mem {nodes nodes' : List Node} (hs : Sorted nodes) (hs' : Sorted nodes')
    (hn : nodes.Nodup) (hn' : nodes'.Nodup) (hmem : ∀ m, m ∈ nodes ↔ m ∈ nodes')
    (hdistinct : ∀ m ∈ nodes, ∀ k ∈ nodes, m.aliasName = k.aliasName → m = k) : nodes = nodes' :=
  hs.eq_of_perm hs' ((List.perm_ext_iff_of_nodup hn hn').2 hmem) hdistinct

/-- In a sorted group, what comes before a node in binding order stands before it. -/
theorem mem_before {before after : List Node} {m n : Node} (hs : Sorted (before ++ n :: after))
    (hmem : m ∈ before ++ n :: after) (hlt : order m n = .lt) : m ∈ before := by
  rcases List.mem_append.1 hmem with hmem | hmem
  · exact hmem
  · rcases List.mem_cons.1 hmem with heq | hmem
    · rw [heq, order_self] at hlt
      cases hlt
    · have hle := (List.pairwise_cons.1 (List.pairwise_append.1 hs).2.1).1 _ hmem
      rw [order_swap, hlt] at hle
      cases hle

/-- In a sorted group, the start of a node stands before the node. -/
theorem start_before {available before after : List Node} {n : Node} {start : Reference}
    (hs : Sorted (before ++ n :: after)) (hmem : token start ∈ before ++ n :: after)
    (h : n.start? available = some start) : token start ∈ before :=
  mem_before hs hmem (order_start h)

end Node

/-! ## Groups -/

namespace Group

variable {group : Group}

theorem leads_token (r : Reference) : group.leads (.token r) = true := rfl

theorem leads_eq_false {n : Node} (h : group.leads n = false) :
    ∃ r, n = .type r ∧ Node.token r ∈ group := by
  cases n with
  | type r => exact ⟨r, rfl, by simpa [leads, Node.tokenOfType?] using h⟩
  | token r | entity kind r | attached r name => cases h

theorem not_mem_of_leads_type {r : Reference} (h : group.leads (.type r) = true) :
    Node.token r ∉ group := by
  simpa [leads, Node.tokenOfType?] using h

theorem companion?_eq_some {n m : Node} :
    group.companion? n = some m ↔ ∃ r, n = .token r ∧ m = .type r ∧ Node.type r ∈ group := by
  cases n with
  | token r =>
    simp only [companion?, Node.typeNode?, Option.filter_eq_some_iff, Option.some.injEq,
      List.contains_iff_mem, Node.token.injEq]
    constructor
    · rintro ⟨rfl, hm⟩
      exact ⟨r, rfl, rfl, hm⟩
    · rintro ⟨q, rfl, rfl, hm⟩
      exact ⟨rfl, hm⟩
  | type r | entity kind r | attached r name => simp [companion?, Node.typeNode?]

theorem mem_boundBy {n m : Node} :
    m ∈ group.boundBy n ↔ m = n ∨ ∃ r, n = .token r ∧ m = .type r ∧ Node.type r ∈ group := by
  simp [boundBy, companion?_eq_some]

/-- The patterns of a group bind its nodes. -/
theorem mem_bindingSequence {n : Node} : n ∈ group.bindingSequence ↔ n ∈ group := by
  simp only [bindingSequence, List.mem_flatMap, List.mem_filter, mem_boundBy]
  constructor
  · rintro ⟨m, ⟨hm, -⟩, rfl | ⟨r, rfl, rfl, hr⟩⟩
    · exact hm
    · exact hr
  · intro hn
    cases hl : group.leads n with
    | true => exact ⟨n, ⟨hn, hl⟩, .inl rfl⟩
    | false =>
      obtain ⟨r, rfl, hr⟩ := leads_eq_false hl
      exact ⟨.token r, ⟨hr, leads_token r⟩, .inr ⟨r, rfl, rfl, hn⟩⟩

theorem mem_aliases {a : String} : a ∈ group.aliases ↔ ∃ n ∈ group, n.aliasName = a := by
  simp only [aliases, List.mem_map, mem_bindingSequence]

theorem nodup_boundBy (n : Node) : (group.boundBy n).Nodup := by
  unfold boundBy
  cases h : group.companion? n with
  | none => simp
  | some m =>
    obtain ⟨r, rfl, rfl, -⟩ := companion?_eq_some.1 h
    simp

/-- Two leading nodes bind nothing together. -/
theorem boundBy_disjoint {m n : Node} (hm : m ∈ group) (hml : group.leads m = true) (hn : n ∈ group)
    (hnl : group.leads n = true) (hne : m ≠ n) : (group.boundBy m).Disjoint (group.boundBy n) := by
  intro k hkm hkn
  rcases mem_boundBy.1 hkm with rfl | ⟨r, rfl, rfl, -⟩ <;>
    rcases mem_boundBy.1 hkn with h | ⟨q, rfl, h, -⟩
  · exact hne h
  · subst h
    exact not_mem_of_leads_type hml hn
  · subst h
    exact not_mem_of_leads_type hnl hm
  · injection h with h
    exact hne (congrArg Node.token h)

/-- No node of a group is bound twice. -/
theorem nodup_bindingSequence (h : group.Nodup) : group.bindingSequence.Nodup := by
  refine List.nodup_flatMap.2 ⟨fun n _ => nodup_boundBy n, ?_⟩
  refine (h.filter _).imp_of_mem fun hm hn hne => ?_
  exact boundBy_disjoint (List.mem_of_mem_filter hm) (List.of_mem_filter hm)
    (List.mem_of_mem_filter hn) (List.of_mem_filter hn) hne

end Group

/-! ## What patterns introduce -/

/-- The nodes that a pattern introduces, those with labels. -/
def PathPattern.introduced (p : PathPattern) : List NodePattern :=
  p.nodes.filter (!·.labels.isEmpty)

theorem Node.introduced_pattern (h : Hierarchy) (available : List Node) (n : Node) :
    (n.pattern h available).introduced = [n.nodePattern] := by
  rw [pattern_eq]
  cases n.start? available <;>
    simp [PathPattern.introduced, PathPattern.nodes, PathPattern.single, NodePattern.bound,
      nodePattern, labels]

namespace Group

/-- A pattern introduces the node that leads it and the type node that goes with it. -/
theorem introduced_pattern (h : Hierarchy) (available : List Node) (group : Group) (n : Node) :
    (group.pattern h available n).introduced = (group.boundBy n).map Node.nodePattern := by
  have hn := n.introduced_pattern h available
  unfold pattern boundBy
  cases group.companion? n with
  | none => exact hn
  | some m =>
    simp only [PathPattern.introduced, PathPattern.nodes, PathPattern.andThen, List.map_append,
      ← List.cons_append, List.filter_append] at hn ⊢
    rw [hn]
    simp [Node.nodePattern, Node.labels]

/-- The patterns of a group introduce its nodes. -/
theorem introduced_patterns (h : Hierarchy) (available : List Node) (group : Group) :
    (group.patterns h available).flatMap PathPattern.introduced =
      group.bindingSequence.map Node.nodePattern := by
  unfold patterns bindingSequence
  rw [List.flatMap_map, List.map_flatMap]
  simp only [introduced_pattern]

theorem nodePattern_mem_introduced (h : Hierarchy) (available : List Node) {group : Group}
    {n : Node} (hn : n ∈ group) :
    n.nodePattern ∈ (group.patterns h available).flatMap PathPattern.introduced := by
  rw [introduced_patterns]
  exact List.mem_map_of_mem (mem_bindingSequence.2 hn)

end Group

end AnnotationQuery
