import AnnotationQuery.Proofs.Dependency
import AnnotationQuery.Proofs.Resolution

/-!
# Annotation graphs

A graph store holds labelled nodes and typed edges. Annotations carry the label of their tier and
that of the corpus. A graph fits a hierarchy when its edges are those of annotations: each
annotation has at most one neighbour on each side along an axis, one annotation of the tier above
that contains it, one type node, and at most one speaker and one discourse.

In a graph that fits, a reference names at most one node once the anchor is chosen, and what a node
of a statement denotes does not depend on how the statement reaches it.

Results:
* `Graph.Fits.walk_split`: along an axis, a longer walk continues a shorter one.
* `Graph.Fits.contains_iff_walk`: the annotation of a tier that contains another one is so many
  containment edges away as the tiers are apart.
* `Graph.Names.annotation`, `Graph.Fits.names_unique`: what a reference names is one annotation of
  its tier.
* `Graph.Fits.denotes_unique`: a node that is not a sub-annotation denotes one graph node.
-/

namespace AnnotationQuery

/-- A graph of labelled nodes and typed edges. -/
structure Graph (V : Type*) where
  HasLabel : V → String → Prop
  Edge : String → V → V → Prop

namespace Graph

variable {V : Type*} {g : Graph V} {h : Hierarchy}

/-! ## Walks -/

/-- The second node is reached from the first one over exactly so many edges of one type. -/
inductive Walk (g : Graph V) (relation : String) : Nat → V → V → Prop
  | nil (u : V) : Walk g relation 0 u u
  | cons {n : Nat} {u w v : V} :
    g.Edge relation u w → Walk g relation n w v → Walk g relation (n + 1) u v

section Walk

variable {relation : String} {m n : Nat} {u v w : V}

@[simp] theorem walk_zero : g.Walk relation 0 u v ↔ u = v := by
  constructor
  · rintro ⟨⟩
    rfl
  · rintro rfl
    exact .nil u

theorem walk_succ : g.Walk relation (n + 1) u v ↔
    ∃ w, g.Edge relation u w ∧ g.Walk relation n w v := by
  constructor
  · rintro ⟨⟩
    exact ⟨_, ‹_›, ‹_›⟩
  · rintro ⟨w, he, hw⟩
    exact .cons he hw

@[simp] theorem walk_one : g.Walk relation 1 u v ↔ g.Edge relation u v := by
  simp [walk_succ]

theorem walk_add : g.Walk relation (m + n) u v ↔
    ∃ w, g.Walk relation m u w ∧ g.Walk relation n w v := by
  induction m generalizing u with
  | zero => simp
  | succ m ih =>
    rw [Nat.add_right_comm, walk_succ]
    simp only [ih, walk_succ]
    constructor
    · rintro ⟨w, he, x, hm, hn⟩
      exact ⟨x, ⟨w, he, hm⟩, hn⟩
    · rintro ⟨x, ⟨w, he, hm⟩, hn⟩
      exact ⟨w, he, x, hm, hn⟩

theorem Walk.target_unique (hf : ∀ u v v', g.Edge relation u v → g.Edge relation u v' → v = v')
    (hv : g.Walk relation n u v) (hw : g.Walk relation n u w) : v = w := by
  induction hv with
  | nil u => exact walk_zero.1 hw
  | cons he _ ih =>
    obtain ⟨x, he', hw⟩ := walk_succ.1 hw
    obtain rfl := hf _ _ _ he he'
    exact ih hw

theorem Walk.source_unique (hf : ∀ u u' v, g.Edge relation u v → g.Edge relation u' v → u = u')
    (hu : g.Walk relation n u v) (hw : g.Walk relation n w v) : u = w := by
  induction hu generalizing w with
  | nil v => exact (walk_zero.1 hw).symm
  | cons he _ ih =>
    obtain ⟨x, he', hw⟩ := walk_succ.1 hw
    obtain rfl := ih hw
    exact hf _ _ _ he he'

/-- What each edge keeps, a walk keeps. -/
theorem Walk.preserves {P : V → Prop} (hp : ∀ u v, g.Edge relation u v → (P u ↔ P v))
    (hw : g.Walk relation n u v) : P u ↔ P v := by
  induction hw with
  | nil u => rfl
  | cons he _ ih => exact (hp _ _ he).trans ih

end Walk

/-! ## Graphs that fit a hierarchy -/

/-- The node is an annotation of a tier of the corpus. -/
def Annotation (g : Graph V) (h : Hierarchy) (tier : String) (v : V) : Prop :=
  h.hasTier tier = true ∧ g.HasLabel v tier ∧ g.HasLabel v h.corpus

/-- The edges of the graph are those that annotations of the hierarchy have. -/
structure Fits (g : Graph V) (h : Hierarchy) : Prop where
  /-- No annotation belongs to two tiers. -/
  tier_unique : ∀ {v : V} {t t' : String},
    g.Annotation h t v → g.Annotation h t' v → t = t'
  /-- An annotation has at most one successor. -/
  next_unique : ∀ (axis : Axis) (u v v' : V),
    g.Edge (Relation.along axis) u v → g.Edge (Relation.along axis) u v' → v = v'
  /-- An annotation has at most one predecessor. -/
  previous_unique : ∀ (axis : Axis) (u u' v : V),
    g.Edge (Relation.along axis) u v → g.Edge (Relation.along axis) u' v → u = u'
  /-- Neighbours belong to one tier. -/
  along_tier : ∀ (axis : Axis) (t : String) (u v : V),
    g.Edge (Relation.along axis) u v → (g.Annotation h t u ↔ g.Annotation h t v)
  /-- An annotation below the highest tier is contained in one annotation of the tier above. -/
  contained : ∀ {t : String} {parent : Tier} {u : V},
    h.parentOf t = .ok (some parent) → g.Annotation h t u →
    ∃ v, g.Edge Relation.containedBy u v ∧ g.Annotation h parent.name v ∧
      ∀ v', g.Edge Relation.containedBy u v' → v' = v
  /-- An annotation has one type node. -/
  typed : ∀ {t : String} {u : V}, g.Annotation h t u →
    ∃ v, g.Edge Relation.isA u v ∧ g.HasLabel v (t ++ "_type") ∧ g.HasLabel v h.corpus ∧
      ∀ v', g.Edge Relation.isA u v' → v' = v
  /-- An annotation has at most one speaker and one discourse. -/
  entity_unique : ∀ (kind : EntityKind) {t : String} {u v v' : V}, g.Annotation h t u →
    g.Edge (Relation.toEntity kind) u v → g.Edge (Relation.toEntity kind) u v' → v = v'
  /-- Speakers and discourses of annotations are labelled as such. -/
  entity_label : ∀ (kind : EntityKind) {t : String} {u v : V}, g.Annotation h t u →
    g.Edge (Relation.toEntity kind) u v → g.HasLabel v kind.label ∧ g.HasLabel v h.corpus

/-! ## What nodes denote -/

/-- The second node is displaced from the first one by so many annotations along an axis. -/
def Displaced (g : Graph V) (offset : Offset) (u v : V) : Prop :=
  if 0 ≤ offset.position then g.Walk (Relation.along offset.axis) offset.position.natAbs u v
  else g.Walk (Relation.along offset.axis) offset.position.natAbs v u

/-- The second node is the annotation of a tier that contains the first one: the first annotation of
that tier on the way up. -/
inductive Contains (g : Graph V) (h : Hierarchy) (tier : String) : V → V → Prop
  | direct {u v : V} :
    g.Edge Relation.containedBy u v → g.Annotation h tier v → Contains g h tier u v
  | above {u w v : V} : g.Edge Relation.containedBy u w → ¬g.Annotation h tier w →
    Contains g h tier w v → Contains g h tier u v

/-- With this anchor, the reference names this node. -/
inductive Names (g : Graph V) (h : Hierarchy) (anchor : V) : Reference → V → Prop
  | root {corpus tier : String} {offset : Offset} {v : V} :
    g.Displaced offset anchor v → Names g h anchor (.root corpus tier offset) v
  | within {inner : Reference} {tier : String} {offset : Offset} {u w v : V} :
    Names g h anchor inner u → g.Contains h tier u w → g.Displaced offset w v →
    Names g h anchor (.within inner tier offset) v

/-- With this anchor, the node of a statement denotes this node of the graph. -/
inductive Denotes (g : Graph V) (h : Hierarchy) (anchor : V) : Node → V → Prop
  | token {r : Reference} {v : V} : g.Names h anchor r v → Denotes g h anchor (.token r) v
  | type {r : Reference} {u v : V} :
    g.Names h anchor r u → g.Edge Relation.isA u v → Denotes g h anchor (.type r) v
  | entity {kind : EntityKind} {r : Reference} {u v : V} : g.Names h anchor r u →
    g.Edge (Relation.toEntity kind) u v → Denotes g h anchor (.entity kind r) v
  | attached {r : Reference} {name : String} {u v : V} : g.Names h anchor r u →
    g.Edge Relation.annotates v u → g.HasLabel v name → g.HasLabel v h.corpus →
    Denotes g h anchor (.attached r name) v

/-! ## Displacements -/

theorem displaced_zero {u v : V} : g.Displaced .zero u v ↔ u = v := by
  simp [Displaced]

theorem displaced_of_zero {offset : Offset} (h0 : offset.position = 0) {u v : V} :
    g.Displaced offset u v ↔ u = v := by
  rw [Offset.eq_zero h0, displaced_zero]

theorem names_iff_base {anchor : V} {r : Reference} {v : V} :
    g.Names h anchor r v ↔ ∃ w, g.Names h anchor r.base w ∧ g.Displaced r.offset w v := by
  cases r with
  | root corpus tier offset =>
    constructor
    · rintro ⟨hd⟩
      exact ⟨anchor, .root (displaced_zero.2 rfl), hd⟩
    · rintro ⟨w, ⟨hw⟩, hd⟩
      obtain rfl := displaced_zero.1 hw
      exact .root hd
  | within inner tier offset =>
    constructor
    · rintro (_ | ⟨hu, hw, hd⟩)
      exact ⟨_, .within hu hw (displaced_zero.2 rfl), hd⟩
    · rintro ⟨w, (_ | ⟨hu, hw, hw'⟩), hd⟩
      obtain rfl := displaced_zero.1 hw'
      exact .within hu hw hd

namespace Fits

variable (hg : g.Fits h)
include hg

/-- Along an axis, a walk forward goes through every node that a shorter one ends at. -/
theorem walk_split {axis : Axis} {m n : Nat} {u w v : V} (hm : g.Walk (Relation.along axis) m u w) :
    g.Walk (Relation.along axis) (m + n) u v ↔ g.Walk (Relation.along axis) n w v := by
  rw [walk_add]
  constructor
  · rintro ⟨x, hx, hn⟩
    obtain rfl := hx.target_unique (hg.next_unique axis) hm
    exact hn
  · exact fun hn => ⟨w, hm, hn⟩

/-- The same backward. -/
theorem walk_split_back {axis : Axis} {m n : Nat} {u w v : V}
    (hm : g.Walk (Relation.along axis) m w u) :
    g.Walk (Relation.along axis) (n + m) v u ↔ g.Walk (Relation.along axis) n v w := by
  rw [walk_add]
  constructor
  · rintro ⟨x, hn, hx⟩
    obtain rfl := hx.source_unique (hg.previous_unique axis) hm
    exact hn
  · exact fun hn => ⟨w, hn, hm⟩

theorem displaced_unique {offset : Offset} {u v v' : V} (hv : g.Displaced offset u v)
    (hv' : g.Displaced offset u v') : v = v' := by
  unfold Displaced at hv hv'
  split at hv
  · rw [if_pos ‹_›] at hv'
    exact hv.target_unique (hg.next_unique _) hv'
  · rw [if_neg ‹_›] at hv'
    exact hv.source_unique (hg.previous_unique _) hv'

theorem displaced_tier {offset : Offset} {u v : V} (hd : g.Displaced offset u v) (t : String) :
    g.Annotation h t u ↔ g.Annotation h t v := by
  unfold Displaced at hd
  split at hd
  · exact hd.preserves (hg.along_tier _ t)
  · exact (hd.preserves (hg.along_tier _ t)).symm

/-! ## Containing annotations -/

/-- On the way up from an annotation below another tier, the annotation of that tier comes after so
many edges as the tiers are apart. -/
theorem contains_iff_walk (hv : h.validate = .ok ()) {t t' : String} {d : Nat} {u v : V}
    (ht : h.hasTier t = true) (hp : h.position t' = h.position t + d + 1)
    (hu : g.Annotation h t' u) :
    g.Contains h t u v ↔ g.Walk Relation.containedBy (d + 1) u v := by
  induction d generalizing t' u with
  | zero =>
    obtain ⟨parent, hparent, hhas, hpos⟩ := Hierarchy.parentOf_eq hv hu.1 hp
    obtain rfl : parent.name = t := Hierarchy.position_injective hhas hpos
    obtain ⟨w, -, hw, hall⟩ := hg.contained hparent hu
    rw [walk_one]
    constructor
    · rintro (⟨he, -⟩ | ⟨he, hno, -⟩)
      · exact he
      · rw [hall _ he] at hno
        exact absurd hw hno
    · intro he
      exact .direct he (hall _ he ▸ hw)
  | succ d ih =>
    obtain ⟨parent, hparent, hhas, hpos⟩ := Hierarchy.parentOf_eq hv hu.1 hp
    obtain ⟨w, -, hw, hall⟩ := hg.contained hparent hu
    have hno : ¬g.Annotation h t w := by
      intro ht'
      rw [← hg.tier_unique hw ht'] at hpos
      omega
    rw [walk_succ]
    constructor
    · rintro (⟨he, hv'⟩ | ⟨he, -, hc⟩)
      · exact absurd (hall _ he ▸ hv') hno
      · obtain rfl := hall _ he
        exact ⟨_, he, (ih hpos hw).1 hc⟩
    · rintro ⟨x, he, hwalk⟩
      obtain rfl := hall _ he
      exact .above he hno ((ih hpos hw).2 hwalk)

theorem contains_unique (hv : h.validate = .ok ()) {t t' : String} {u v v' : V}
    (ht : h.hasTier t = true) (hlt : h.position t < h.position t') (hu : g.Annotation h t' u)
    (hc : g.Contains h t u v) (hc' : g.Contains h t u v') : v = v' := by
  induction hc generalizing t' with
  | direct he hw =>
    obtain ⟨k, hk⟩ := Nat.exists_eq_add_of_lt hlt
    obtain ⟨parent, hparent, hhas, hpos⟩ := Hierarchy.parentOf_eq hv hu.1 hk
    obtain ⟨x, -, -, hall⟩ := hg.contained hparent hu
    cases hc' with
    | direct he' _ => rw [hall _ he, hall _ he']
    | above he' hno _ => exact absurd (hall _ he' ▸ hall _ he ▸ hw) hno
  | above he hno hc ih =>
    obtain ⟨k, hk⟩ := Nat.exists_eq_add_of_lt hlt
    obtain ⟨parent, hparent, hhas, hpos⟩ := Hierarchy.parentOf_eq hv hu.1 hk
    obtain ⟨x, -, hx, hall⟩ := hg.contained hparent hu
    obtain rfl := hall _ he
    have hne : h.position t ≠ h.position parent.name := by
      intro heq
      rw [Hierarchy.position_injective ht heq] at hno
      exact hno hx
    cases hc' with
    | direct he' hw => exact absurd (hall _ he' ▸ hw) hno
    | above he' _ hc' => exact ih (by omega) hx (hall _ he' ▸ hc')

end Fits

theorem Contains.annotation {t : String} {u v : V} (hc : g.Contains h t u v) :
    g.Annotation h t v := by
  induction hc with
  | direct _ hv => exact hv
  | above _ _ _ ih => exact ih

/-! ## References -/

section Names

variable {tier : String} {anchor : V}

/-- What a reference names is an annotation of its tier. -/
theorem Names.annotation (hg : g.Fits h) (ha : g.Annotation h tier anchor) {r : Reference} {v : V}
    (hr : r.Climbs h tier) (hv : g.Names h anchor r v) : g.Annotation h r.tier v := by
  cases hv with
  | root hd =>
    cases hr
    exact (hg.displaced_tier hd _).1 ha
  | within _ hc hd => exact (hg.displaced_tier hd _).1 hc.annotation

/-- A reference names at most one node. -/
theorem Fits.names_unique (hg : g.Fits h) (hv : h.validate = .ok ())
    (ha : g.Annotation h tier anchor) {r : Reference} {v v' : V} (hr : r.Climbs h tier)
    (hn : g.Names h anchor r v) (hn' : g.Names h anchor r v') : v = v' := by
  induction hn generalizing v' with
  | root hd =>
    obtain ⟨hd'⟩ := hn'
    exact hg.displaced_unique hd hd'
  | within hu hc hd ih =>
    have htier := hr.hasTier ha.1
    obtain ⟨hinner, hlt⟩ := hr.enclosing rfl
    obtain _ | ⟨hu', hc', hd'⟩ := hn'
    obtain rfl := ih hinner hu'
    obtain rfl := hg.contains_unique hv htier hlt (hu.annotation hg ha hinner) hc hc'
    exact hg.displaced_unique hd hd'

/-- Given the anchor, a node of a statement denotes at most one node of the graph, except that an
annotation may have several sub-annotations of one kind. -/
theorem Fits.denotes_unique (hg : g.Fits h) (hv : h.validate = .ok ())
    (ha : g.Annotation h tier anchor) {n : Node} {v v' : V}
    (hr : n.reference.Climbs h tier) (hn : g.Denotes h anchor n v) (hn' : g.Denotes h anchor n v')
    (hattached : ∀ r name, n ≠ .attached r name) : v = v' := by
  cases hn with
  | token hu =>
    obtain ⟨hu'⟩ := hn'
    exact hg.names_unique hv ha hr hu hu'
  | type hu he =>
    obtain _ | ⟨hu', he'⟩ := hn'
    obtain rfl := hg.names_unique hv ha hr hu hu'
    obtain ⟨w, -, -, -, hall⟩ := hg.typed (hu.annotation hg ha hr)
    rw [hall _ he, hall _ he']
  | entity hu he =>
    obtain _ | _ | ⟨hu', he'⟩ := hn'
    obtain rfl := hg.names_unique hv ha hr hu hu'
    exact hg.entity_unique _ (hu.annotation hg ha hr) he he'
  | attached _ _ _ _ => exact absurd rfl (hattached _ _)

end Names

end Graph

end AnnotationQuery
