import AnnotationQuery.Proofs.BindingOrder
import AnnotationQuery.Proofs.Resolution

/-!
# How far a containing annotation is above

A containment step spans as many tiers as its ends are apart, and that number exists only between a
tier and one strictly above it. The resolver lets no other pair of tiers arise: a reference goes up
to strictly higher tiers only, and a list is collected from a strictly lower tier. So the number is
always found, whatever the hierarchy is.

Results:
* `Hierarchy.below_levels`: the number of tiers between a tier and one above it.
* `Path.below_of_collected`: lists are collected from lower tiers.
* `Corpus.outputTerm_eq_ok`: the terms of paths in the output.
* `Node.emit_eq`, `Group.emit_eq`: the patterns of nodes whose references climb.
-/

namespace AnnotationQuery

/-! ## Tiers and their distance -/

namespace Hierarchy

/-- The first tier is the given number of places below the second one, and the hierarchy can tell
so. -/
structure Below (h : Hierarchy) (lower higher : String) (n : Nat) : Prop where
  places : ∃ i, h.tierNames[i]? = some higher ∧ h.tierNames[i + n]? = some lower
  pos : 0 < n
  isHigher_eq : h.isHigher higher lower = .ok true
  depthBetween_eq : h.depthBetween lower higher = .ok n

variable {h : Hierarchy} {lower higher : String}

theorem below_levels (hlower : h.hasTier lower = true)
    (hlt : h.position higher < h.position lower) :
    h.Below lower higher (h.levels lower higher) := by
  have hhigher : h.hasTier higher = true := by
    rw [hasTier_iff_position_lt] at hlower ⊢
    exact Nat.lt_trans hlt hlower
  constructor
  case places =>
    have hsum : h.position higher + h.levels lower higher = h.position lower :=
      Nat.add_sub_of_le (Nat.le_of_lt hlt)
    exact ⟨h.position higher, getElem?_position hhigher, hsum ▸ getElem?_position hlower⟩
  case pos => exact Nat.sub_pos_of_lt hlt
  case isHigher_eq =>
    rw [isHigher, index_eq_ok hhigher, index_eq_ok hlower]
    exact congrArg Except.ok (decide_eq_true hlt)
  case depthBetween_eq =>
    rw [depthBetween, index_eq_ok hlower, index_eq_ok hhigher]
    exact if_neg (Nat.not_le.2 hlt)

/-- Of two different tiers one is below the other. -/
theorem below_of_not_lt (hlower : h.hasTier lower = true) (hne : lower ≠ higher)
    (hlt : ¬h.position lower < h.position higher) :
    h.Below lower higher (h.levels lower higher) := by
  refine below_levels hlower (Nat.lt_of_le_of_ne (Nat.not_lt.1 hlt) fun heq => ?_)
  exact hne (position_injective hlower heq.symm)

end Hierarchy

/-! ## Paths to lower tiers -/

namespace Path

variable {h : Hierarchy} {config : Config} {tier lower : String} {r start : Reference}
  {leaf : CollectedLeaf}

theorem eq_of_resolveCollected {t : String} {steps : List String}
    (hf : resolveCollected h start t steps = .ok (.collected r lower leaf)) :
    r = start ∧ lower = t := by
  cases steps with
  | nil => cases hf
  | cons step rest =>
    simp only [resolveCollected] at hf
    split at hf
    · cases finish_eq_ok hf
      exact ⟨rfl, rfl⟩
    · split at hf
      · cases finish_eq_ok hf
        exact ⟨rfl, rfl⟩
      · cases hf

theorem resolveEntity_ne_collected {kind : EntityKind} {steps : List String} :
    resolveEntity h kind start steps ≠ .ok (.collected r lower leaf) := by
  intro hf
  simp only [resolveEntity] at hf
  split at hf
  · cases finish_eq_ok hf
  · cases hf

theorem resolveName_ne_collected {step : String} {rest : List String} :
    resolveName h start step rest ≠ .ok (.collected r lower leaf) := by
  intro hf
  unfold resolveName at hf
  split at hf
  · cases rest with
    | nil => cases hf
    | cons step rest =>
      simp only [resolveAttached] at hf
      split at hf
      · cases finish_eq_ok hf
      · cases hf
  · split at hf
    · cases finish_eq_ok hf
    · cases hf

theorem below_of_resolveFrom {steps : List String}
    (hf : resolveFrom h config start steps = .ok (.collected r lower leaf)) :
    h.Below lower r.tier (h.levels lower r.tier) := by
  induction steps generalizing start with
  | nil => cases hf
  | cons step rest ih =>
    unfold resolveFrom at hf
    split at hf
    · split at hf
      · cases hf
      · exact ih hf
    · exact absurd hf resolveEntity_ne_collected
    · cases finish_eq_ok hf
    · cases finish_eq_ok hf
    · split at hf
      · rename_i hstep
        split at hf
        · cases hf
        · rename_i hne
          split at hf
          · exact ih hf
          · rename_i hnlt
            obtain ⟨rfl, rfl⟩ := eq_of_resolveCollected hf
            exact Hierarchy.below_of_not_lt hstep hne hnlt
      · exact absurd hf resolveName_ne_collected

/-- A list is collected from a tier below the one that the path has reached. -/
theorem below_of_collected {path : Path}
    (hf : path.resolve h config tier = .ok (.collected r lower leaf)) :
    h.Below lower r.tier (h.levels lower r.tier) := by
  unfold resolve at hf
  split at hf
  · cases hf
  · rename_i first rest _
    split at hf
    · cases hf
    · rename_i hfirst
      rw [Bool.not_eq_true', Bool.not_eq_false] at hfirst
      rw [mapError_eq_ok] at hf
      split at hf
      · exact below_of_resolveFrom hf
      · rename_i hne
        split at hf
        · exact below_of_resolveFrom hf
        · rename_i hnlt
          obtain ⟨rfl, rfl⟩ := eq_of_resolveCollected hf
          exact Hierarchy.below_of_not_lt hfirst hne hnlt

end Path

namespace Corpus

variable {c : Corpus} {tier : String}

/-- Looking up how far a lower tier is below never fails. -/
theorem outputTerm_eq (path : Path) :
    c.outputTerm tier path = c.resolve tier path >>= fun resolved =>
      (resolved.outputTerm c.hierarchy).mapError (.invalidPath path) := by
  unfold outputTerm
  cases hr : c.resolve tier path with
  | error e => rfl
  | ok resolved =>
    cases resolved with
    | collected r lower leaf =>
      change (do return Term.collected (← c.hierarchy.depthBetween lower r.tier) r lower leaf) = _
      rw [(Path.below_of_collected hr).depthBetween_eq]
      rfl
    | node _ | property _ _ | duration _ | subset _ | attached _ _ _ | entity _ _ _ => rfl

theorem outputTerm_eq_ok {path : Path} {term : Term} :
    c.outputTerm tier path = .ok term ↔
      ∃ resolved, c.resolve tier path = .ok resolved ∧
        resolved.outputTerm c.hierarchy = .ok term := by
  simp only [outputTerm_eq, bind_eq_ok, mapError_eq_ok]

end Corpus

/-! ## Patterns of containing annotations -/

theorem Reference.Climbs.below_enclosing {h : Hierarchy} {tier : String} {r inner : Reference}
    (ht : h.hasTier tier = true) (hr : r.Climbs h tier) (he : r.enclosing? = some inner) :
    h.Below inner.tier r.tier (h.levels inner.tier r.tier) := by
  obtain ⟨hinner, hlt⟩ := hr.enclosing he
  exact Hierarchy.below_levels (hinner.hasTier ht) hlt

variable {h : Hierarchy} {tier : String} {n : Node}

theorem Node.enclosing_of_contained {inner : Reference} (hc : n.contained? = some inner) :
    n.reference.enclosing? = some inner := by
  cases n with
  | token r =>
    simp only [contained?] at hc
    split at hc
    · exact hc
    · cases hc
  | type r | entity kind r | attached r name => cases hc

/-- Looking up how far a containing annotation is above never fails. -/
theorem Node.emit_eq (ht : h.hasTier tier = true) (hn : n.reference.Climbs h tier)
    (bound : List Node) : n.emit h bound = .ok (n.pattern h bound) := by
  unfold emit pattern levels
  cases hc : n.contained? with
  | none => rfl
  | some inner =>
    have hbelow := hn.below_enclosing ht (enclosing_of_contained hc)
    simp only [hbelow.depthBetween_eq]
    rfl

theorem Group.emit_eq (ht : h.hasTier tier = true) (hn : n.reference.Climbs h tier)
    (bound : List Node) (group : Group) :
    group.emit h bound n = .ok (group.pattern h bound n) := by
  unfold emit pattern
  rw [n.emit_eq ht hn bound]
  cases group.companion? n <;> rfl

end AnnotationQuery
