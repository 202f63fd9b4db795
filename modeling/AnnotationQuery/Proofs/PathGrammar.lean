import AnnotationQuery.Proofs.Dependency
import AnnotationQuery.Proofs.Plan
import AnnotationQuery.Proofs.Resolution
import Mathlib.Algebra.Ring.Int.Defs

/-!
# The grammar of paths

A path starts at the anchor, at an annotation that contains it, or at the annotations of a lower
tier inside it. From a single annotation it goes on with moves along the tier and with higher tiers,
each of which it may move along again, and it closes with at most one ending. A move is allowed
while the annotation is not displaced along the other axis, and along the pause axis only on the
pause tier.

The grammar counts the moves of a tier all at once: the displacement is their sum, on the axis of
the last move. The resolver goes step by step, with the displacement so far as its state.

Results:
* `Path.resolveFrom_moves`, `Path.resolveFrom_legs`: what a run over moves and over tiers leads to.
* `Path.continues_of_resolveFrom`, `Path.resolveFrom_of_continues`: what the resolver accepts behind
  an annotation.
* `Path.resolve_eq_ok_iff`: a path resolves just when the grammar derives it, and then to what the
  grammar says.
-/

namespace AnnotationQuery

/-! ## Tiers by their places -/

namespace Hierarchy

variable {h : Hierarchy}

/-- The first tier stands in front of the second in the list of the tiers. -/
def Above (h : Hierarchy) (higher lower : String) : Prop :=
  ∃ i j : Nat, i < j ∧ h.tierNames[i]? = some higher ∧ h.tierNames[j]? = some lower

theorem position_of_getElem? (hn : h.tierNames.Nodup) {i : Nat} {name : String}
    (hi : h.tierNames[i]? = some name) : h.position name = i := by
  obtain ⟨hlt, rfl⟩ := List.getElem?_eq_some_iff.1 hi
  exact hn.idxOf_getElem i hlt

theorem above_iff (hn : h.tierNames.Nodup) {higher lower : String} :
    h.Above higher lower ↔
      h.hasTier higher = true ∧ h.hasTier lower = true ∧ h.position higher < h.position lower := by
  constructor
  · rintro ⟨i, j, hlt, hi, hj⟩
    have hhigher : higher ∈ h.tierNames := List.mem_of_getElem? hi
    have hlower : lower ∈ h.tierNames := List.mem_of_getElem? hj
    refine ⟨List.contains_iff_mem.2 hhigher, List.contains_iff_mem.2 hlower, ?_⟩
    rw [position_of_getElem? hn hi, position_of_getElem? hn hj]
    exact hlt
  · rintro ⟨hhigher, hlower, hlt⟩
    exact ⟨_, _, hlt, getElem?_position hhigher, getElem?_position hlower⟩

theorem ne_of_above (hn : h.tierNames.Nodup) {higher lower : String}
    (habove : h.Above higher lower) : higher ≠ lower := by
  rintro rfl
  exact absurd ((above_iff hn).1 habove).2.2 (Nat.lt_irrefl _)

/-- Two tiers with different names are in one order or the other. -/
theorem above_or_above (hn : h.tierNames.Nodup) {a b : String} (ha : h.hasTier a = true)
    (hb : h.hasTier b = true) (hne : a ≠ b) (hlt : ¬ h.position a < h.position b) :
    h.Above b a := by
  have hpositions : h.position a ≠ h.position b := fun heq => hne (position_injective ha heq)
  exact (above_iff hn).2 ⟨hb, ha, by omega⟩

theorem tier?_eq_some_iff (hn : h.tierNames.Nodup) {name : String} {t : Tier} :
    h.tier? name = some t ↔ t ∈ h.tiers ∧ t.name = name := by
  have hfound : ∀ {t : Tier}, h.tier? name = some t → t ∈ h.tiers ∧ t.name = name :=
    fun hfind => ⟨List.mem_of_find?_eq_some hfind,
      eq_of_beq (List.find?_some (p := fun t : Tier => t.name == name) hfind)⟩
  constructor
  · exact hfound
  · rintro ⟨hmem, rfl⟩
    have hsome : (h.tier? t.name).isSome = true :=
      List.find?_isSome.2 ⟨t, hmem, beq_self_eq_true t.name⟩
    obtain ⟨u, hu⟩ := Option.isSome_iff_exists.1 hsome
    obtain ⟨humem, huname⟩ := hfound hu
    rw [hu, List.inj_on_of_nodup_map hn humem hmem huname]

end Hierarchy

namespace Path

/-! ## The grammar -/

/-- A step along a tier. -/
structure Move where
  forward : Bool
  axis : Axis
deriving DecidableEq, Repr

namespace Move

/-- The step of a path that stands for a move. -/
def word : Move → String
  | ⟨false, .precedence⟩ => "previous"
  | ⟨true, .precedence⟩ => "following"
  | ⟨false, .pause⟩ => "previous_pause"
  | ⟨true, .pause⟩ => "following_pause"

def delta (m : Move) : Int :=
  if m.forward then 1 else -1

end Move

/-- The displacement that moves lead to: their sum, on the axis of the last one. -/
def after (start : Offset) (moves : List Move) : Offset :=
  .of (start.position + (moves.map Move.delta).sum)
    ((moves.getLast?.map Move.axis).getD start.axis)

/-- Every move is made while the annotation is not displaced along the other axis, and along the
pause axis only on the pause tier. -/
def Admissible (config : Config) (tier : String) (start : Offset) (moves : List Move) : Prop :=
  ∀ before m rest, moves = before ++ m :: rest →
    ((after start before).position ≠ 0 → (after start before).axis = m.axis) ∧
      (m.axis = .pause → tier = config.pauseTier)

/-- A higher tier that a path goes up to, and the moves that it makes there. -/
structure Leg where
  tier : String
  moves : List Move

def Leg.words (leg : Leg) : List String :=
  leg.tier :: leg.moves.map Move.word

/-- Each leg goes up to a tier strictly above, whose name is no keyword, and its moves are
admissible. -/
def Climb (h : Hierarchy) (config : Config) : String → List Leg → Prop
  | _, [] => True
  | tier, leg :: legs =>
    Keyword.ofText? leg.tier = none ∧ h.Above leg.tier tier ∧
      Admissible config leg.tier .zero leg.moves ∧ Climb h config leg.tier legs

/-- The annotation that legs lead to. -/
def ascend (r : Reference) (legs : List Leg) : Reference :=
  legs.foldl (fun r leg => .within r leg.tier (after .zero leg.moves)) r

/-- The name means nothing as a keyword and names no tier. -/
def Free (h : Hierarchy) (name : String) : Prop :=
  Keyword.ofText? name = none ∧ name ∉ h.tierNames

/-- What one step selects from the annotations of a lower tier. -/
inductive Collects (h : Hierarchy) (lower : String) : String → CollectedLeaf → Prop
  | duration : Collects h lower "duration" .duration
  | property {t : Tier} {step : String} {p : SidedProperty} :
    step ≠ "duration" → t ∈ h.tiers → t.name = lower → t.property? step = some p →
    Collects h lower step (.property p)

/-- The endings of a path behind an annotation, and what the path then stands for. -/
inductive Ends (h : Hierarchy) (r : Reference) : List String → Resolved → Prop
  | node : Ends h r [] (.node r)
  | subset : Ends h r ["subset"] (.subset r)
  | duration : Ends h r ["duration"] (.duration r)
  | entity {kind : EntityKind} {p : Property} :
    h.entityProperty? kind "name" = some p → Ends h r [kind.word] (.entity kind r p)
  | entityProperty {kind : EntityKind} {step : String} {p : Property} :
    h.entityProperty? kind step = some p → Ends h r [kind.word, step] (.entity kind r p)
  | attached {t : Tier} {name : String} {s : Subannotation} :
    Free h name → t ∈ h.tiers → t.name = r.tier → t.subannotation? name = some s →
    Ends h r [name] (.attached r s.name none)
  | attachedProperty {t : Tier} {name step : String} {s : Subannotation} {p : Property} :
    Free h name → t ∈ h.tiers → t.name = r.tier → t.subannotation? name = some s →
    s.property? step = some p → Ends h r [name, step] (.attached r s.name (some p))
  | property {t : Tier} {step : String} {p : SidedProperty} :
    Free h step → t ∈ h.tiers → t.name = r.tier → t.subannotation? step = none →
    t.property? step = some p → Ends h r [step] (.property r p)
  | collected {lower step : String} {leaf : CollectedLeaf} :
    Keyword.ofText? lower = none → h.Above r.tier lower → Collects h lower step leaf →
    Ends h r [lower, step] (.collected r lower leaf)

/-- The paths as seen from an anchor, and what they stand for. Only the first step is a tier
whatever its name is. -/
inductive Derives (h : Hierarchy) (config : Config) (anchorTier : String) :
    List String → Resolved → Prop
  | fromAnchor {moves : List Move} {legs : List Leg} {ending : List String} {resolved : Resolved} :
    Admissible config anchorTier .zero moves → Climb h config anchorTier legs →
    Ends h (ascend (.root h.corpus anchorTier (after .zero moves)) legs) ending resolved →
    Derives h config anchorTier
      (anchorTier :: (moves.map Move.word ++ (legs.flatMap Leg.words ++ ending))) resolved
  | fromHigher {leg : Leg} {legs : List Leg} {ending : List String} {resolved : Resolved} :
    h.Above leg.tier anchorTier → Admissible config leg.tier .zero leg.moves →
    Climb h config leg.tier legs →
    Ends h (ascend (.anchor anchorTier h.corpus) (leg :: legs)) ending resolved →
    Derives h config anchorTier (leg.words ++ (legs.flatMap Leg.words ++ ending)) resolved
  | fromLower {lower step : String} {leaf : CollectedLeaf} :
    h.Above anchorTier lower → Collects h lower step leaf →
    Derives h config anchorTier [lower, step]
      (.collected (.anchor anchorTier h.corpus) lower leaf)

/-! ## Moves -/

variable {h : Hierarchy} {config : Config}

theorem after_nil (start : Offset) : after start [] = start := by
  show Offset.of (start.position + 0) start.axis = start
  rw [Int.add_zero]
  exact Offset.of_self start

theorem after_cons (start : Offset) (m : Move) (moves : List Move) :
    after start (m :: moves) = after (.of (start.position + m.delta) m.axis) moves := by
  cases moves with
  | nil =>
    rw [after_nil]
    show Offset.of (start.position + (m.delta + 0)) m.axis = _
    rw [Int.add_zero]
  | cons next moves =>
    show Offset.of (start.position + (m.delta + ((next :: moves).map Move.delta).sum)) _ =
      Offset.of (start.position + m.delta + ((next :: moves).map Move.delta).sum) _
    rw [Int.add_assoc]
    rfl

theorem admissible_nil (config : Config) (tier : String) (start : Offset) :
    Admissible config tier start [] := by
  intro before m rest hmoves
  exact absurd hmoves.symm (by simp)

theorem admissible_cons {tier : String} {start : Offset} {m : Move} {moves : List Move} :
    Admissible config tier start (m :: moves) ↔
      ((start.position ≠ 0 → start.axis = m.axis) ∧ (m.axis = .pause → tier = config.pauseTier)) ∧
        Admissible config tier (.of (start.position + m.delta) m.axis) moves := by
  constructor
  · intro hall
    constructor
    · have hfirst := hall [] m moves rfl
      rwa [after_nil] at hfirst
    · intro before next rest hmoves
      have hnext := hall (m :: before) next rest (by rw [hmoves, List.cons_append])
      rwa [after_cons] at hnext
  · rintro ⟨hfirst, hrest⟩ before next rest hmoves
    cases before with
    | nil =>
      obtain ⟨rfl, -⟩ := List.cons.inj hmoves
      rwa [after_nil]
    | cons m' before =>
      obtain ⟨rfl, htail⟩ := List.cons.inj hmoves
      rw [after_cons]
      exact hrest before next rest htail

/-! ## Keywords -/

theorem mem_words_of_ofText? {step : String} {keyword : Keyword}
    (hk : Keyword.ofText? step = some keyword) : (step, keyword) ∈ Keyword.words := by
  obtain ⟨before, rest, hwords, -⟩ := List.lookup_eq_some_iff.1 hk
  rw [hwords]
  exact List.mem_append_right before List.mem_cons_self

theorem ofText?_word (m : Move) : Keyword.ofText? m.word = some (.move m.delta m.axis) := by
  obtain ⟨forward, axis⟩ := m
  cases forward <;> cases axis <;> rfl

theorem eq_word_of_ofText? {step : String} {delta : Int} {axis : Axis}
    (hk : Keyword.ofText? step = some (.move delta axis)) :
    ∃ m : Move, step = m.word ∧ delta = m.delta ∧ axis = m.axis := by
  have hmem := mem_words_of_ofText? hk
  simp only [Keyword.words, List.mem_cons, Prod.mk.injEq, Keyword.move.injEq, reduceCtorEq,
    and_false, List.not_mem_nil, or_false] at hmem
  rcases hmem with ⟨rfl, rfl, rfl⟩ | ⟨rfl, rfl, rfl⟩ | ⟨rfl, rfl, rfl⟩ | ⟨rfl, rfl, rfl⟩
  · exact ⟨⟨false, .precedence⟩, rfl, rfl, rfl⟩
  · exact ⟨⟨true, .precedence⟩, rfl, rfl, rfl⟩
  · exact ⟨⟨false, .pause⟩, rfl, rfl, rfl⟩
  · exact ⟨⟨true, .pause⟩, rfl, rfl, rfl⟩

theorem eq_word_of_entity {step : String} {kind : EntityKind}
    (hk : Keyword.ofText? step = some (.entity kind)) : step = kind.word := by
  have hmem := mem_words_of_ofText? hk
  simp only [Keyword.words, List.mem_cons, Prod.mk.injEq, Keyword.entity.injEq, reduceCtorEq,
    and_false, List.not_mem_nil, or_false, false_or] at hmem
  rcases hmem with ⟨rfl, rfl⟩ | ⟨rfl, rfl⟩ <;> rfl

theorem eq_of_subset {step : String} (hk : Keyword.ofText? step = some .subset) :
    step = "subset" := by
  simpa [Keyword.words] using mem_words_of_ofText? hk

theorem eq_of_duration {step : String} (hk : Keyword.ofText? step = some .duration) :
    step = "duration" := by
  simpa [Keyword.words] using mem_words_of_ofText? hk

theorem ofText?_entity (kind : EntityKind) :
    Keyword.ofText? kind.word = some (.entity kind) := by
  cases kind <;> rfl

theorem moveFault?_eq_none_iff {r : Reference} {axis : Axis} :
    moveFault? config r axis = none ↔
      (r.position ≠ 0 → r.axis = axis) ∧ (axis = .pause → r.tier = config.pauseTier) := by
  have hzero : r.axis = .pause → r.position ≠ 0 := by
    intro hpause hposition
    have hprecedence : r.axis = .precedence := r.offset.axis_of_zero hposition
    rw [hpause] at hprecedence
    cases hprecedence
  cases axis with
  | precedence =>
    by_cases hpause : r.axis = .pause
    · simp [moveFault?, hpause, hzero hpause]
    · have hprecedence : r.axis = .precedence := by
        cases haxis : r.axis with
        | precedence => rfl
        | pause => exact absurd haxis hpause
      simp [moveFault?, hprecedence]
  | pause =>
    by_cases htier : r.tier = config.pauseTier
    · cases haxis : r.axis <;> simp [moveFault?, htier, haxis]
    · simp [moveFault?, htier]

/-! ## What is accepted -/

theorem resolveFrom_moves {r : Reference} {moves : List Move}
    (hmoves : Admissible config r.tier r.offset moves) (rest : List String) :
    resolveFrom h config r (moves.map Move.word ++ rest) =
      resolveFrom h config (r.withOffset (after r.offset moves)) rest := by
  induction moves generalizing r with
  | nil => rw [after_nil, Reference.withOffset_offset]; rfl
  | cons m moves ih =>
    obtain ⟨hfirst, hrest⟩ := admissible_cons.1 hmoves
    have hallowed : moveFault? config r m.axis = none := moveFault?_eq_none_iff.2 hfirst
    have hmoved := ih (r := r.moved m.delta m.axis) (by
      rw [Reference.moved, Reference.tier_withOffset, Reference.offset_withOffset]
      exact hrest)
    rw [after_cons]
    show resolveFrom h config r (m.word :: (moves.map Move.word ++ rest)) = _
    rw [resolveFrom, ofText?_word]
    simp only [hallowed, hmoved]
    rw [Reference.moved, Reference.withOffset_withOffset, Reference.offset_withOffset]
    rfl

theorem resolveFrom_legs (hn : h.tierNames.Nodup) {r : Reference} {legs : List Leg}
    (hlegs : Climb h config r.tier legs) (rest : List String) :
    resolveFrom h config r (legs.flatMap Leg.words ++ rest) =
      resolveFrom h config (ascend r legs) rest := by
  induction legs generalizing r with
  | nil => rfl
  | cons leg legs ih =>
    obtain ⟨hkeyword, habove, hmoves, hclimb⟩ := hlegs
    obtain ⟨htier, -, hlt⟩ := (Hierarchy.above_iff hn).1 habove
    have hne : leg.tier ≠ r.tier := Hierarchy.ne_of_above hn habove
    have hmoved := resolveFrom_moves (h := h) (r := r.containedBy leg.tier) hmoves
      (legs.flatMap Leg.words ++ rest)
    have hrest := ih (r := .within r leg.tier (after .zero leg.moves)) hclimb
    rw [List.flatMap_cons, List.append_assoc]
    show resolveFrom h config r (leg.tier :: (leg.moves.map Move.word ++ _)) = _
    rw [resolveFrom, hkeyword]
    simp only [htier, if_true, if_neg hne, if_pos hlt, hmoved]
    exact hrest

theorem resolveCollected_of_collects (hn : h.tierNames.Nodup) {r : Reference} {lower step : String}
    {leaf : CollectedLeaf} (hc : Collects h lower step leaf) :
    resolveCollected h r lower [step] = .ok (.collected r lower leaf) := by
  cases hc with
  | duration => rfl
  | @property t step p hstep hmem hname hp =>
    have hkeyword : Keyword.ofText? step ≠ some .duration := fun hk => hstep (eq_of_duration hk)
    have htier : h.tier? lower = some t := (Hierarchy.tier?_eq_some_iff hn).2 ⟨hmem, hname⟩
    rw [resolveCollected, if_neg hkeyword, htier, Option.bind_some, hp]
    rfl

theorem resolveFrom_of_ends (hn : h.tierNames.Nodup) {r : Reference} {ending : List String}
    {resolved : Resolved} (he : Ends h r ending resolved) :
    resolveFrom h config r ending = .ok resolved := by
  have hfree : ∀ {name : String} (rest : List String), Free h name →
      resolveFrom h config r (name :: rest) = resolveName h r name rest := by
    intro name rest hname
    have htier : ¬ h.hasTier name = true := fun ht => hname.2 (List.contains_iff_mem.1 ht)
    rw [resolveFrom, hname.1]
    exact if_neg htier
  have hentity : ∀ (kind : EntityKind) (rest : List String),
      resolveFrom h config r (kind.word :: rest) = resolveEntity h kind r rest := by
    intro kind rest
    rw [resolveFrom, ofText?_entity]
  have hcurrent : ∀ {t : Tier}, t ∈ h.tiers → t.name = r.tier → h.tier? r.tier = some t :=
    fun hmem hname => (Hierarchy.tier?_eq_some_iff hn).2 ⟨hmem, hname⟩
  cases he with
  | node => rfl
  | subset => rfl
  | duration => rfl
  | entity hp =>
    rw [hentity]
    simp only [resolveEntity, List.head?_nil, Option.getD_none, hp]
    rfl
  | entityProperty hp =>
    rw [hentity]
    simp only [resolveEntity, List.head?_cons, Option.getD_some, hp]
    rfl
  | attached hname hmem htier hs =>
    rw [hfree _ hname, resolveName, hcurrent hmem htier, Option.bind_some, hs]
    rfl
  | attachedProperty hname hmem htier hs hp =>
    rw [hfree _ hname, resolveName, hcurrent hmem htier, Option.bind_some, hs]
    simp only [resolveAttached, hp]
    rfl
  | property hname hmem htier hs hp =>
    rw [hfree _ hname, resolveName, hcurrent hmem htier, Option.bind_some, Option.bind_some, hs, hp]
    rfl
  | @collected lower step leaf hkeyword habove hc =>
    obtain ⟨-, hlower, hlt⟩ := (Hierarchy.above_iff hn).1 habove
    have hne : lower ≠ r.tier := (Hierarchy.ne_of_above hn habove).symm
    rw [resolveFrom, hkeyword]
    simp only [hlower, if_true, if_neg hne, if_neg (Nat.lt_asymm hlt)]
    exact resolveCollected_of_collects hn hc

/-! ## What accepted steps are -/

theorem finish_eq_ok_iff {result resolved : Resolved} {steps : List String} :
    finish result steps = .ok resolved ↔ steps = [] ∧ resolved = result := by
  cases steps with
  | nil =>
    show Except.ok result = .ok resolved ↔ _
    simp [eq_comm]
  | cons step rest =>
    show Except.error _ = .ok resolved ↔ _
    simp

theorem collects_of_resolveCollected (hn : h.tierNames.Nodup) {r : Reference} {lower : String}
    {steps : List String} {resolved : Resolved}
    (hf : resolveCollected h r lower steps = .ok resolved) :
    ∃ step leaf, steps = [step] ∧ Collects h lower step leaf ∧
      resolved = .collected r lower leaf := by
  cases steps with
  | nil => cases hf
  | cons step rest =>
    rw [resolveCollected] at hf
    split at hf
    · rename_i hkeyword
      obtain ⟨rfl, rfl⟩ := finish_eq_ok_iff.1 hf
      obtain rfl := eq_of_duration hkeyword
      exact ⟨_, _, rfl, .duration, rfl⟩
    · rename_i hkeyword
      split at hf
      · rename_i p hp
        obtain ⟨rfl, rfl⟩ := finish_eq_ok_iff.1 hf
        obtain ⟨t, ht, hp⟩ := Option.bind_eq_some_iff.1 hp
        obtain ⟨hmem, hname⟩ := (Hierarchy.tier?_eq_some_iff hn).1 ht
        have hstep : step ≠ "duration" := by
          rintro rfl
          exact hkeyword rfl
        exact ⟨_, _, rfl, .property hstep hmem hname hp, rfl⟩
      · cases hf

theorem ends_of_resolveEntity {kind : EntityKind} {r : Reference} {rest : List String}
    {resolved : Resolved} (hf : resolveEntity h kind r rest = .ok resolved) :
    Ends h r (kind.word :: rest) resolved := by
  unfold resolveEntity at hf
  simp only at hf
  split at hf
  · rename_i p hp
    obtain ⟨hrest, rfl⟩ := finish_eq_ok_iff.1 hf
    cases rest with
    | nil => exact .entity hp
    | cons step rest =>
      obtain rfl : rest = [] := hrest
      exact .entityProperty hp
  · cases hf

theorem ends_of_resolveName (hn : h.tierNames.Nodup) {r : Reference} {name : String}
    {rest : List String} {resolved : Resolved} (hname : Free h name)
    (hf : resolveName h r name rest = .ok resolved) : Ends h r (name :: rest) resolved := by
  unfold resolveName at hf
  split at hf
  · rename_i s hs
    obtain ⟨t, ht, hs⟩ := Option.bind_eq_some_iff.1 hs
    obtain ⟨hmem, htier⟩ := (Hierarchy.tier?_eq_some_iff hn).1 ht
    cases rest with
    | nil =>
      obtain rfl := Except.ok.inj hf
      exact .attached hname hmem htier hs
    | cons step rest =>
      simp only [resolveAttached] at hf
      split at hf
      · rename_i p hp
        obtain ⟨rfl, rfl⟩ := finish_eq_ok_iff.1 hf
        exact .attachedProperty hname hmem htier hs hp
      · cases hf
  · rename_i hs
    split at hf
    · rename_i p hp
      obtain ⟨t, ht, hp⟩ := Option.bind_eq_some_iff.1 hp
      obtain ⟨hmem, htier⟩ := (Hierarchy.tier?_eq_some_iff hn).1 ht
      obtain ⟨rfl, rfl⟩ := finish_eq_ok_iff.1 hf
      rw [ht, Option.bind_some] at hs
      exact .property hname hmem htier hs hp
    · cases hf

/-- The steps behind an annotation are moves, then higher tiers with their moves, then an ending. -/
def Continues (h : Hierarchy) (config : Config) (r : Reference) (steps : List String)
    (resolved : Resolved) : Prop :=
  ∃ moves legs ending, steps = moves.map Move.word ++ (legs.flatMap Leg.words ++ ending) ∧
    Admissible config r.tier r.offset moves ∧ Climb h config r.tier legs ∧
    Ends h (ascend (r.withOffset (after r.offset moves)) legs) ending resolved

theorem Continues.ending {r : Reference} {ending : List String} {resolved : Resolved}
    (he : Ends h r ending resolved) : Continues h config r ending resolved := by
  refine ⟨[], [], ending, rfl, admissible_nil _ _ _, trivial, ?_⟩
  rw [after_nil, Reference.withOffset_offset]
  exact he

theorem Continues.move {r : Reference} {m : Move} {rest : List String} {resolved : Resolved}
    (hallowed : moveFault? config r m.axis = none)
    (hrest : Continues h config (r.moved m.delta m.axis) rest resolved) :
    Continues h config r (m.word :: rest) resolved := by
  obtain ⟨moves, legs, ending, rfl, hmoves, hlegs, he⟩ := hrest
  rw [Reference.moved, Reference.tier_withOffset, Reference.offset_withOffset] at hmoves
  rw [Reference.moved, Reference.tier_withOffset] at hlegs
  rw [Reference.moved, Reference.withOffset_withOffset, Reference.offset_withOffset] at he
  refine ⟨m :: moves, legs, ending, rfl, ?_, hlegs, ?_⟩
  · exact admissible_cons.2 ⟨moveFault?_eq_none_iff.1 hallowed, hmoves⟩
  · rw [after_cons]
    exact he

theorem Continues.leg {r : Reference} {tier : String} {rest : List String} {resolved : Resolved}
    (hkeyword : Keyword.ofText? tier = none) (habove : h.Above tier r.tier)
    (hrest : Continues h config (r.containedBy tier) rest resolved) :
    Continues h config r (tier :: rest) resolved := by
  obtain ⟨moves, legs, ending, rfl, hmoves, hlegs, he⟩ := hrest
  refine ⟨[], ⟨tier, moves⟩ :: legs, ending, ?_, admissible_nil _ _ _,
    ⟨hkeyword, habove, hmoves, hlegs⟩, ?_⟩
  · rw [List.flatMap_cons, List.append_assoc]
    rfl
  · rw [after_nil, Reference.withOffset_offset]
    exact he

theorem continues_of_resolveFrom (hn : h.tierNames.Nodup) {r : Reference}
    (ht : h.hasTier r.tier = true) {steps : List String} {resolved : Resolved}
    (hf : resolveFrom h config r steps = .ok resolved) : Continues h config r steps resolved := by
  induction steps generalizing r with
  | nil =>
    obtain rfl := Except.ok.inj hf
    exact .ending .node
  | cons step rest ih =>
    rw [resolveFrom] at hf
    cases hkeyword : Keyword.ofText? step with
    | none =>
      rw [hkeyword] at hf
      simp only at hf
      split at hf
      · rename_i htier
        split at hf
        · cases hf
        · rename_i hne
          split at hf
          · rename_i hlt
            exact .leg hkeyword ((Hierarchy.above_iff hn).2 ⟨htier, ht, hlt⟩) (ih htier hf)
          · rename_i hnlt
            obtain ⟨next, leaf, rfl, hc, rfl⟩ := collects_of_resolveCollected hn hf
            have habove := Hierarchy.above_or_above hn htier ht hne hnlt
            exact .ending (.collected hkeyword habove hc)
      · rename_i htier
        have hfree : Free h step := ⟨hkeyword, fun hmem => htier (List.contains_iff_mem.2 hmem)⟩
        exact .ending (ends_of_resolveName hn hfree hf)
    | some keyword =>
      rw [hkeyword] at hf
      cases keyword with
      | move delta axis =>
        obtain ⟨m, rfl, rfl, rfl⟩ := eq_word_of_ofText? hkeyword
        simp only at hf
        split at hf
        · cases hf
        · rename_i hallowed
          exact .move hallowed (ih (by rwa [Reference.moved, Reference.tier_withOffset]) hf)
      | entity kind =>
        obtain rfl := eq_word_of_entity hkeyword
        exact .ending (ends_of_resolveEntity hf)
      | subset =>
        obtain rfl := eq_of_subset hkeyword
        obtain ⟨rfl, rfl⟩ := finish_eq_ok_iff.1 hf
        exact .ending .subset
      | duration =>
        obtain rfl := eq_of_duration hkeyword
        obtain ⟨rfl, rfl⟩ := finish_eq_ok_iff.1 hf
        exact .ending .duration

theorem resolveFrom_of_continues (hn : h.tierNames.Nodup) {r : Reference} {steps : List String}
    {resolved : Resolved} (hc : Continues h config r steps resolved) :
    resolveFrom h config r steps = .ok resolved := by
  obtain ⟨moves, legs, ending, rfl, hmoves, hlegs, he⟩ := hc
  rw [resolveFrom_moves hmoves, resolveFrom_legs hn (by rwa [Reference.tier_withOffset])]
  exact resolveFrom_of_ends hn he

/-! ## Whole paths -/

/-- The three ways to start a path. -/
theorem resolve_eq_ok_of_cons {anchorTier first : String} {rest : List String} {path : Path}
    {resolved : Resolved} (hsteps : path.steps = first :: rest) :
    path.resolve h config anchorTier = .ok resolved ↔
      h.hasTier first = true ∧
        (if first = anchorTier then resolveFrom h config (.anchor anchorTier h.corpus) rest
          else if h.position first < h.position anchorTier then
            resolveFrom h config ((Reference.anchor anchorTier h.corpus).containedBy first) rest
          else resolveCollected h (.anchor anchorTier h.corpus) first rest) = .ok resolved := by
  unfold resolve
  rw [hsteps]
  by_cases hfirst : h.hasTier first = true
  · simp only [hfirst, Bool.not_true, Bool.false_eq_true, if_false, mapError_eq_ok, true_and]
  · simp [hfirst]

/-- A path resolves just when the grammar derives it, and it stands for what the grammar says. There
is an anchor only on a tier of the hierarchy. -/
theorem resolve_eq_ok_iff (hn : h.tierNames.Nodup) {anchorTier : String}
    (ht : h.hasTier anchorTier = true) (path : Path) (resolved : Resolved) :
    path.resolve h config anchorTier = .ok resolved ↔
      Derives h config anchorTier path.steps resolved := by
  constructor
  · intro hf
    cases hsteps : path.steps with
    | nil =>
      unfold resolve at hf
      rw [hsteps] at hf
      cases hf
    | cons first rest =>
      obtain ⟨hfirst, hf⟩ := (resolve_eq_ok_of_cons hsteps).1 hf
      split at hf
      · rename_i heq
        subst heq
        obtain ⟨moves, legs, ending, rfl, hmoves, hlegs, he⟩ :=
          continues_of_resolveFrom hn (by exact hfirst) hf
        exact .fromAnchor hmoves hlegs he
      · rename_i hne
        split at hf
        · rename_i hlt
          obtain ⟨moves, legs, ending, rfl, hmoves, hlegs, he⟩ :=
            continues_of_resolveFrom hn (by exact hfirst) hf
          have habove := (Hierarchy.above_iff hn).2 ⟨hfirst, ht, hlt⟩
          have hd : Derives h config anchorTier
              ((⟨first, moves⟩ : Leg).words ++ (legs.flatMap Leg.words ++ ending)) resolved :=
            .fromHigher habove hmoves hlegs he
          exact hd
        · rename_i hnlt
          obtain ⟨step, leaf, rfl, hc, rfl⟩ := collects_of_resolveCollected hn hf
          exact .fromLower (Hierarchy.above_or_above hn hfirst ht hne hnlt) hc
  · intro hd
    generalize hsteps : path.steps = steps at hd
    cases hd with
    | fromAnchor hmoves hlegs he =>
      refine (resolve_eq_ok_of_cons hsteps).2 ⟨ht, ?_⟩
      rw [if_pos rfl]
      exact resolveFrom_of_continues hn ⟨_, _, _, rfl, hmoves, hlegs, he⟩
    | @fromHigher leg legs ending _ habove hmoves hlegs he =>
      obtain ⟨hleg, -, hlt⟩ := (Hierarchy.above_iff hn).1 habove
      have hne : leg.tier ≠ anchorTier := Hierarchy.ne_of_above hn habove
      refine (resolve_eq_ok_of_cons hsteps).2 ⟨hleg, ?_⟩
      rw [if_neg hne, if_pos hlt]
      exact resolveFrom_of_continues hn ⟨leg.moves, legs, ending, rfl, hmoves, hlegs, he⟩
    | @fromLower lower step leaf habove hc =>
      obtain ⟨-, hlower, hlt⟩ := (Hierarchy.above_iff hn).1 habove
      have hne : lower ≠ anchorTier := (Hierarchy.ne_of_above hn habove).symm
      refine (resolve_eq_ok_of_cons hsteps).2 ⟨hlower, ?_⟩
      rw [if_neg hne, if_neg (Nat.lt_asymm hlt)]
      exact resolveCollected_of_collects hn hc

/-- Two phones back, up to the word around it, three words on with pauses left out, and its
begin. -/
def wordAfterPauses : List String :=
  ["phone", "previous", "previous", "word", "following_pause", "following_pause", "following_pause",
    "begin"]

theorem resolve_eq_ok_iff_small :
    Corpus.small.hierarchy.tierNames.Nodup ∧ Corpus.small.hierarchy.hasTier "phone" = true ∧
      Derives Corpus.small.hierarchy Corpus.small.config "phone" wordAfterPauses
        (.property (.within (.root "small" "phone" (.of (-2) .precedence)) "word" (.of 3 .pause))
          ⟨"begin", .float, .token⟩) := by
  have hn : Corpus.small.hierarchy.tierNames.Nodup := by decide
  have ht : Corpus.small.hierarchy.hasTier "phone" = true := by decide
  exact ⟨hn, ht, (resolve_eq_ok_iff hn ht ⟨wordAfterPauses⟩ _).1 rfl⟩

end Path

end AnnotationQuery
