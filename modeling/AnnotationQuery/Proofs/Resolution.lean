import AnnotationQuery.Compiled.Condition
import AnnotationQuery.Compiled.Output
import AnnotationQuery.Proofs.Results
import AnnotationQuery.Proofs.TierOrder

/-!
# What paths refer to

A path that resolves refers to one graph node, apart from membership in a subset, where the filter
decides between the annotation and its type node. The reference of the node starts at the anchor and
goes up to higher and higher tiers.

Results:
* `Path.climbs_resolve`: resolved references climb.
* `Reference.Climbs.hasTier`: every tier on the way exists.
* `Resolved.node?_of_term`, `Resolved.node?_of_outputTerm`: the node of a term is the one that its
  path refers to.
* `Corpus.FilterRefers.climbs`: what a filter refers to belongs to a reference that climbs.
-/

namespace AnnotationQuery

/-! ## References that climb -/

namespace Reference

/-- The reference starts at the anchor on a tier, and each containing annotation that it goes up to
is of a tier strictly above. -/
inductive Climbs (h : Hierarchy) (tier : String) : Reference → Prop
  | root (offset : Offset) : Climbs h tier (root h.corpus tier offset)
  | within {inner : Reference} {t : String} (offset : Offset) :
    Climbs h tier inner → h.position t < h.position inner.tier →
    Climbs h tier (within inner t offset)

variable {h : Hierarchy} {tier : String} {r : Reference}

theorem Climbs.withOffset (hr : r.Climbs h tier) (offset : Offset) :
    (r.withOffset offset).Climbs h tier := by
  cases hr with
  | root _ => exact .root offset
  | within _ hinner hlt => exact .within offset hinner hlt

theorem Climbs.enclosing {inner : Reference} (hr : r.Climbs h tier)
    (he : r.enclosing? = some inner) :
    inner.Climbs h tier ∧ h.position r.tier < h.position inner.tier := by
  cases hr with
  | root _ => cases he
  | within _ hinner hlt =>
    obtain rfl := Option.some.inj he
    exact ⟨hinner, hlt⟩

theorem Climbs.corpus (hr : r.Climbs h tier) : r.corpus = h.corpus := by
  induction hr with
  | root _ => rfl
  | within _ _ _ ih => exact ih

theorem Climbs.position_le (hr : r.Climbs h tier) : h.position r.tier ≤ h.position tier := by
  induction hr with
  | root _ => exact Nat.le_refl _
  | within _ _ hlt ih => exact Nat.le_trans (Nat.le_of_lt hlt) ih

end Reference

/-- Every tier that a reference goes up to exists. -/
theorem Reference.Climbs.hasTier {h : Hierarchy} {tier : String} {r : Reference}
    (hr : r.Climbs h tier) (ht : h.hasTier tier = true) : h.hasTier r.tier = true := by
  rw [Hierarchy.hasTier_iff_position_lt] at ht ⊢
  exact Nat.lt_of_le_of_lt hr.position_le ht

namespace Path

variable {h : Hierarchy} {config : Config} {tier : String}

theorem finish_eq_ok {result resolved : Resolved} {steps : List String}
    (hf : finish result steps = .ok resolved) : resolved = result := by
  cases steps with
  | nil => exact (Except.ok.inj hf).symm
  | cons step rest => cases hf

theorem reference_resolveCollected {r : Reference} {t : String} {steps : List String}
    {resolved : Resolved} (hf : resolveCollected h r t steps = .ok resolved) :
    resolved.reference = r := by
  cases steps with
  | nil => cases hf
  | cons step rest =>
    simp only [resolveCollected] at hf
    split at hf
    · rw [finish_eq_ok hf, Resolved.reference]
    · split at hf
      · rw [finish_eq_ok hf, Resolved.reference]
      · cases hf

theorem reference_resolveEntity {kind : EntityKind} {r : Reference} {steps : List String}
    {resolved : Resolved} (hf : resolveEntity h kind r steps = .ok resolved) :
    resolved.reference = r := by
  simp only [resolveEntity] at hf
  split at hf
  · rw [finish_eq_ok hf, Resolved.reference]
  · cases hf

theorem reference_resolveName {r : Reference} {step : String} {rest : List String}
    {resolved : Resolved} (hf : resolveName h r step rest = .ok resolved) :
    resolved.reference = r := by
  unfold resolveName at hf
  split at hf
  · cases rest with
    | nil => rw [← Except.ok.inj hf, Resolved.reference]
    | cons step rest =>
      simp only [resolveAttached] at hf
      split at hf
      · rw [finish_eq_ok hf, Resolved.reference]
      · cases hf
  · split at hf
    · rw [finish_eq_ok hf, Resolved.reference]
    · cases hf

theorem climbs_resolveFrom {r : Reference} {steps : List String} {resolved : Resolved}
    (hr : r.Climbs h tier) (hf : resolveFrom h config r steps = .ok resolved) :
    resolved.reference.Climbs h tier := by
  induction steps generalizing r with
  | nil =>
    rw [← Except.ok.inj hf]
    exact hr
  | cons step rest ih =>
    unfold resolveFrom at hf
    split at hf
    · split at hf
      · cases hf
      · exact ih (hr.withOffset _) hf
    · rw [reference_resolveEntity hf]
      exact hr
    · rw [finish_eq_ok hf]
      exact hr
    · rw [finish_eq_ok hf]
      exact hr
    · split at hf
      · split at hf
        · cases hf
        · split at hf
          · rename_i hlt
            exact ih (.within _ hr hlt) hf
          · rw [reference_resolveCollected hf]
            exact hr
      · rw [reference_resolveName hf]
        exact hr

/-- A path that resolves climbs from the anchor. -/
theorem climbs_resolve {path : Path} {resolved : Resolved}
    (hf : path.resolve h config tier = .ok resolved) : resolved.reference.Climbs h tier := by
  have hanchor : (Reference.anchor tier h.corpus).Climbs h tier := .root .zero
  unfold resolve at hf
  split at hf
  · cases hf
  · split at hf
    · cases hf
    · rw [mapError_eq_ok] at hf
      split at hf
      · exact climbs_resolveFrom hanchor hf
      · split at hf
        · rename_i hlt
          exact climbs_resolveFrom (.within _ hanchor hlt) hf
        · rw [reference_resolveCollected hf]
          exact hanchor

end Path

/-! ## Nodes that paths refer to -/

/-- The graph node that a path refers to. The path alone does not tell it for a subset. -/
def Resolved.node? : Resolved → Option Node
  | node r | duration r | collected r _ _ => some (.token r)
  | property r p => some (.ofSide r p.side)
  | subset _ => none
  | attached r name _ => some (.attached r name)
  | entity kind r _ => some (.entity kind r)

theorem Node.reference_ofSide (r : Reference) (side : Side) : (ofSide r side).reference = r := by
  cases side <;> rfl

theorem Resolved.reference_node {resolved : Resolved} {n : Node} (h : resolved.node? = some n) :
    n.reference = resolved.reference := by
  cases resolved with
  | subset r => cases h
  | property r p =>
    obtain rfl := Option.some.inj h
    exact Node.reference_ofSide r p.side
  | node r | duration r | collected r _ _ | attached r _ _ | entity _ r _ =>
    obtain rfl := Option.some.inj h
    rfl

theorem Resolved.node?_of_term {resolved : Resolved} {term : Term} (h : resolved.term = .ok term) :
    resolved.node? = some term.node := by
  cases resolved with
  | attached r name p =>
    cases p <;> rw [← Except.ok.inj h] <;> rfl
  | subset r | collected r _ _ => cases h
  | node r | property r p | duration r | entity _ r _ =>
    rw [← Except.ok.inj h]
    rfl

theorem Term.node_collected (levels : Nat) (r : Reference) (tier : String) (leaf : CollectedLeaf) :
    (Term.collected levels r tier leaf).node = .token r := by
  cases leaf with
  | duration => rfl
  | property p =>
    simp only [Term.collected]
    split <;> rfl

/-- The term of an output is that of a filter, or collected from a lower tier. -/
theorem Resolved.outputTerm_eq_ok {h : Hierarchy} {resolved : Resolved} {term : Term}
    (ht : resolved.outputTerm h = .ok term) :
    resolved.term = .ok term ∨
      ∃ r tier leaf, resolved = .collected r tier leaf ∧
        term = .collected (h.levels tier r.tier) r tier leaf := by
  cases resolved with
  | collected r tier leaf => exact .inr ⟨r, tier, leaf, rfl, (Except.ok.inj ht).symm⟩
  | node _ | property _ _ | duration _ | subset _ | attached _ _ _ | entity _ _ _ => exact .inl ht

theorem Resolved.node?_of_outputTerm {h : Hierarchy} {resolved : Resolved} {term : Term}
    (ht : resolved.outputTerm h = .ok term) : resolved.node? = some term.node := by
  rcases outputTerm_eq_ok ht with ht | ⟨r, tier, leaf, rfl, rfl⟩
  · exact node?_of_term ht
  · rw [Term.node_collected]
    rfl

namespace Corpus

variable {c : Corpus} {tier : String}

/-- A path refers to a node as seen from the anchor of queries on a tier. -/
def Refers (c : Corpus) (tier : String) (path : Path) (n : Node) : Prop :=
  ∃ resolved, c.resolve tier path = .ok resolved ∧ resolved.node? = some n

/-- A filter refers to a node: one of its paths does, or it tests a subset that the node carries. -/
inductive FilterRefers (c : Corpus) (tier : String) (f : Filter) : Node → Prop
  | path {n : Node} : c.Refers tier f.path n → FilterRefers c tier f n
  | operand {other : Path} {n : Node} :
    f.operand = .path other → c.Refers tier other n → FilterRefers c tier f n
  | subset {r : Reference} {name : String} {side : Side} :
    c.resolve tier f.path = .ok (.subset r) → f.operand = .literal (.string name) →
    (c.hierarchy.tier? r.tier).bind (·.subsetSide? name) = some side →
    FilterRefers c tier f (.ofSide r side)

theorem Refers.climbs {path : Path} {n : Node} (h : c.Refers tier path n) :
    n.reference.Climbs c.hierarchy tier := by
  obtain ⟨resolved, hr, hn⟩ := h
  rw [Resolved.reference_node hn]
  exact Path.climbs_resolve hr

theorem FilterRefers.climbs {f : Filter} {n : Node} (h : c.FilterRefers tier f n) :
    n.reference.Climbs c.hierarchy tier := by
  cases h with
  | path h => exact h.climbs
  | operand _ h => exact h.climbs
  | @subset r _ _ hr _ _ =>
    rw [Node.reference_ofSide]
    exact Path.climbs_resolve hr

end Corpus

end AnnotationQuery
