import AnnotationQuery.Proofs.TierOrder
import Mathlib.Data.List.Nodup
import Mathlib.Data.Nat.Basic
import Mathlib.Order.RelClasses

/-!
# The chain of tiers

The tiers of a valid hierarchy form one chain, and all ways to move along it agree: the tiers above
one and those below it make up the others, "higher" is a strict total order, and two tiers are as
many levels apart as one has to go up from the lower to the higher. A name that is no tier is
unknown to every one of them.

A hierarchy that is built tier by tier repeats no tier name, since a repeated one is refused. So
only the corpus name or the tiers may be missing from it.

Results:
* `Hierarchy.leadsUp_iff`: going up from tier to tier, by the places of the tiers.
* `Hierarchy.chain_of_validate`: a valid hierarchy is a chain.
* `Hierarchy.Built.nodup`, `Hierarchy.validate_of_nodup`: what may be wrong with a hierarchy that is
  built.
* `Hierarchy.navigation`: both together.
-/

namespace AnnotationQuery.Hierarchy

/-! ## Chains -/

/-- Going up so many times, each time to the tier directly above, leads from one tier to another. -/
inductive LeadsUp (h : Hierarchy) : String → Nat → String → Prop
  | here (name : String) : LeadsUp h name 0 name
  | up {name other : String} {parent : Tier} {n : Nat} :
    h.parentOf name = .ok (some parent) → LeadsUp h parent.name n other →
    LeadsUp h name (n + 1) other

/-- The functions that move between tiers know no tier with this name. When two names are unknown,
the first one is reported. -/
structure Unknown (h : Hierarchy) (name : String) : Prop where
  parentOf_eq : h.parentOf name = .error (.unknownTier name)
  lowerTiersOf_eq : h.lowerTiersOf name = .error (.unknownTier name)
  higherTiersOf_eq : h.higherTiersOf name = .error (.unknownTier name)
  isHigher_left : ∀ other, h.isHigher name other = .error (.unknownTier name)
  isHigher_right : ∀ other ∈ h.tierNames, h.isHigher other name = .error (.unknownTier name)
  depthBetween_left : ∀ other, h.depthBetween name other = .error (.unknownTier name)
  depthBetween_right : ∀ other ∈ h.tierNames,
    h.depthBetween other name = .error (.unknownTier name)

/-- The functions that move between tiers describe one chain. -/
structure Chain (h : Hierarchy) : Prop where
  /-- The tiers above a tier, the tier and those below it are all tiers in order. -/
  split : ∀ t ∈ h.tiers, ∃ above below, h.higherTiersOf t.name = .ok above ∧
    h.lowerTiersOf t.name = .ok below ∧ above ++ t :: below = h.tiers
  /-- Of any two tiers it is known whether the first is higher. -/
  decided : ∀ a ∈ h.tierNames, ∀ b ∈ h.tierNames, ∃ higher, h.isHigher a b = .ok higher
  strictTotal : IsStrictTotalOrder {name // name ∈ h.tierNames} fun a b =>
    h.isHigher a b = .ok true
  /-- The depth exists between a tier and a higher one. -/
  depth_iff : ∀ a ∈ h.tierNames, ∀ b ∈ h.tierNames,
    (∃ n, h.depthBetween a b = .ok n) ↔ h.isHigher b a = .ok true
  /-- It says how often one has to go up. -/
  depth_leadsUp : ∀ {a b n}, h.depthBetween a b = .ok n → ∀ m, h.LeadsUp a m b ↔ m = n
  depth_add : ∀ {a b c m n}, h.depthBetween a b = .ok m → h.depthBetween b c = .ok n →
    h.depthBetween a c = .ok (m + n)
  unknown : ∀ {name}, name ∉ h.tierNames → h.Unknown name

/-- The hierarchy was built by adding tiers, each of which was accepted, and properties of speakers
and discourses. -/
inductive Built : Hierarchy → Prop
  | bare (corpus : String) : Built (bare corpus)
  | tier {h extended : Hierarchy} {t : Tier} :
    Built h → h.addTier t = .ok extended → Built extended
  | entities {h : Hierarchy} (speaker discourse : List Property) :
    Built h → Built { h with speakerProperties := speaker, discourseProperties := discourse }

/-! ## Moving by places -/

variable {h : Hierarchy} {a b c : String} {m n : Nat}

theorem index_of_mem (ha : a ∈ h.tierNames) : h.index a = .ok (h.position a) :=
  index_eq_ok (List.contains_iff_mem.2 ha)

theorem index_of_not_mem (ha : a ∉ h.tierNames) : h.index a = .error (.unknownTier a) :=
  if_neg fun hcontains => ha (List.contains_iff_mem.1 hcontains)

theorem unknown_of_not_mem (ha : a ∉ h.tierNames) : h.Unknown a where
  parentOf_eq := by rw [parentOf, index_of_not_mem ha]; rfl
  lowerTiersOf_eq := by rw [lowerTiersOf, index_of_not_mem ha]; rfl
  higherTiersOf_eq := by rw [higherTiersOf, index_of_not_mem ha]; rfl
  isHigher_left _ := by rw [isHigher, index_of_not_mem ha]; rfl
  isHigher_right _ hother := by rw [isHigher, index_of_mem hother, index_of_not_mem ha]; rfl
  depthBetween_left _ := by rw [depthBetween, index_of_not_mem ha]; rfl
  depthBetween_right _ hother := by
    rw [depthBetween, index_of_mem hother, index_of_not_mem ha]; rfl

theorem isHigher_of_mem (ha : a ∈ h.tierNames) (hb : b ∈ h.tierNames) :
    h.isHigher a b = .ok (decide (h.position a < h.position b)) := by
  rw [isHigher, index_of_mem ha, index_of_mem hb]
  rfl

theorem isHigher_iff (ha : a ∈ h.tierNames) (hb : b ∈ h.tierNames) :
    h.isHigher a b = .ok true ↔ h.position a < h.position b := by
  rw [isHigher_of_mem ha hb, Except.ok.injEq, decide_eq_true_iff]

theorem depthBetween_of_mem (ha : a ∈ h.tierNames) (hb : b ∈ h.tierNames) :
    h.depthBetween a b =
      if h.position a ≤ h.position b then .error (.hierarchy (.notContained a b))
      else .ok (h.position a - h.position b) := by
  rw [depthBetween, index_of_mem ha, index_of_mem hb]
  rfl

theorem depthBetween_iff :
    h.depthBetween a b = .ok n ↔ a ∈ h.tierNames ∧ b ∈ h.tierNames ∧ 0 < n ∧
      h.position a = h.position b + n := by
  by_cases ha : a ∈ h.tierNames
  · by_cases hb : b ∈ h.tierNames
    · simp only [depthBetween_of_mem ha hb, ha, hb, true_and]
      split
      · rename_i hle
        exact iff_of_false (by simp) (by omega)
      · rw [Except.ok.injEq]
        omega
    · rw [(unknown_of_not_mem hb).depthBetween_right a ha]
      simp [hb]
  · rw [(unknown_of_not_mem ha).depthBetween_left]
    simp [ha]

/-- One goes up from a tier to the one whose place is one less, and from no other name. -/
theorem parentOf_eq_some (hv : h.validate = .ok ()) {parent : Tier}
    (hp : h.parentOf a = .ok (some parent)) :
    a ∈ h.tierNames ∧ parent.name ∈ h.tierNames ∧
      h.position a = h.position parent.name + 1 := by
  by_cases ha : a ∈ h.tierNames
  · cases hk : h.position a with
    | zero =>
      rw [parentOf, index_of_mem ha, hk] at hp
      cases hp
    | succ k =>
      obtain ⟨other, hother, hmem, hposition⟩ := parentOf_eq hv (List.contains_iff_mem.2 ha) hk
      rw [hother] at hp
      obtain rfl : other = parent := by simpa using hp
      exact ⟨ha, List.contains_iff_mem.1 hmem, by rw [hposition]⟩
  · rw [(unknown_of_not_mem ha).parentOf_eq] at hp
    cases hp

/-- Going up leads to the tier that is so many places higher. -/
theorem leadsUp_iff (hv : h.validate = .ok ()) (ha : a ∈ h.tierNames) :
    h.LeadsUp a n b ↔ b ∈ h.tierNames ∧ h.position a = h.position b + n := by
  constructor
  · intro hup
    induction hup with
    | here => exact ⟨ha, rfl⟩
    | up hparent _ ih =>
      obtain ⟨-, hmem, hposition⟩ := parentOf_eq_some hv hparent
      obtain ⟨hb, hrest⟩ := ih hmem
      exact ⟨hb, by omega⟩
  · rintro ⟨hb, hposition⟩
    induction n generalizing a with
    | zero =>
      obtain rfl := position_injective (List.contains_iff_mem.2 ha) hposition
      exact .here a
    | succ n ih =>
      obtain ⟨parent, hparent, hmem, hplace⟩ :=
        parentOf_eq hv (List.contains_iff_mem.2 ha) (k := h.position b + n) hposition
      exact .up hparent (ih (List.contains_iff_mem.1 hmem) hplace)

/-- A tier stands at the place of its name. -/
theorem split_at_position (hn : h.tierNames.Nodup) {t : Tier} (ht : t ∈ h.tiers) :
    h.tiers.take (h.position t.name) ++ t :: h.tiers.drop (h.position t.name + 1) = h.tiers := by
  obtain ⟨i, hi, rfl⟩ := List.getElem_of_mem ht
  have hplace : h.position h.tiers[i].name = i := by
    have hlt : i < h.tierNames.length := by rwa [tierNames, List.length_map]
    have hname : h.tierNames[i] = h.tiers[i].name := List.getElem_map ..
    rw [position, ← hname]
    exact hn.idxOf_getElem i hlt
  rw [hplace, List.getElem_cons_drop, List.take_append_drop]

/-! ## Valid hierarchies -/

/-- The place of a tier. -/
def place (h : Hierarchy) (t : {name // name ∈ h.tierNames}) : Nat :=
  h.position t

theorem place_injective (h : Hierarchy) : Function.Injective h.place :=
  fun a _ hab => Subtype.ext (position_injective (List.contains_iff_mem.2 a.2) hab)

theorem strictTotal_isHigher (h : Hierarchy) :
    IsStrictTotalOrder {name // name ∈ h.tierNames} fun a b => h.isHigher a b = .ok true := by
  have hplaces : (fun a b : {name // name ∈ h.tierNames} => h.isHigher a b = .ok true) =
      Function.onFun (· < ·) h.place := by
    funext a b
    exact propext (isHigher_iff a.2 b.2)
  rw [hplaces]
  exact h.place_injective.isStrictTotalOrder_onFun (· < ·)

theorem chain_of_validate (hv : h.validate = .ok ()) : h.Chain where
  split t ht := by
    have hmem : t.name ∈ h.tierNames := List.mem_map_of_mem ht
    refine ⟨_, _, ?_, ?_, split_at_position (nodup_tierNames hv) ht⟩
    · rw [higherTiersOf, index_of_mem hmem]; rfl
    · rw [lowerTiersOf, index_of_mem hmem]; rfl
  decided a ha b hb := ⟨_, isHigher_of_mem ha hb⟩
  strictTotal := strictTotal_isHigher h
  depth_iff a ha b hb := by
    rw [isHigher_iff hb ha]
    constructor
    · rintro ⟨n, hn⟩
      obtain ⟨-, -, hpos, hposition⟩ := depthBetween_iff.1 hn
      omega
    · intro hlt
      exact ⟨h.position a - h.position b, depthBetween_iff.2 ⟨ha, hb, by omega, by omega⟩⟩
  depth_leadsUp hn m := by
    obtain ⟨ha, hb, -, hposition⟩ := depthBetween_iff.1 hn
    rw [leadsUp_iff hv ha]
    constructor
    · rintro ⟨-, hm⟩
      omega
    · rintro rfl
      exact ⟨hb, hposition⟩
  depth_add hm hn := by
    obtain ⟨ha, -, hmpos, hab⟩ := depthBetween_iff.1 hm
    obtain ⟨-, hc, -, hbc⟩ := depthBetween_iff.1 hn
    exact depthBetween_iff.2 ⟨ha, hc, by omega, by omega⟩
  unknown := unknown_of_not_mem

/-! ## Hierarchies built tier by tier -/

theorem firstRepeated?_eq_none {seen names : List String} (hn : names.Nodup)
    (hseen : List.Disjoint seen names) : firstRepeated? seen names = none := by
  induction names generalizing seen with
  | nil => rfl
  | cons name names ih =>
    obtain ⟨hname, hnames⟩ := List.nodup_cons.1 hn
    obtain ⟨hnot, hrest⟩ := List.disjoint_cons_right.1 hseen
    have hcontains : seen.contains name = false := by simpa using hnot
    rw [firstRepeated?, hcontains]
    exact ih hnames (List.disjoint_cons_left.2 ⟨hname, hrest⟩)

theorem Built.nodup (hb : h.Built) : h.tierNames.Nodup := by
  induction hb with
  | bare => exact List.nodup_nil
  | @tier h extended t _ hadd ih =>
    unfold addTier at hadd
    split at hadd
    · cases hadd
    · rename_i hnot
      obtain rfl := Except.ok.inj hadd
      have hnew : t.name ∉ h.tierNames := fun hmem => hnot (List.contains_iff_mem.2 hmem)
      have hnames : tierNames { h with tiers := h.tiers ++ [t] } = h.tierNames.concat t.name := by
        rw [tierNames, List.map_append, List.concat_eq_append]
        rfl
      rw [hnames]
      exact ih.concat hnew
  | entities _ _ _ ih => exact ih

/-- With tier names that are not repeated, only the corpus name or the tiers may be missing. -/
theorem validate_of_nodup (hn : h.tierNames.Nodup) :
    h.validate =
      if h.corpus = "" then .error (.hierarchy .noCorpus)
      else if h.tiers = [] then .error (.hierarchy .noTier)
      else .ok () := by
  rw [validate, firstRepeated?_eq_none hn (List.disjoint_nil_left _)]

/-- A valid hierarchy is one chain for all functions that move between its tiers. A hierarchy that
is built repeats no tier name, and it is valid unless the corpus name or the tiers are missing. -/
theorem navigation (h : Hierarchy) :
    (h.validate = .ok () → h.Chain) ∧
      (h.Built → h.tierNames.Nodup ∧
        h.validate =
          if h.corpus = "" then .error (.hierarchy .noCorpus)
          else if h.tiers = [] then .error (.hierarchy .noTier)
          else .ok ()) :=
  ⟨chain_of_validate, fun hb => ⟨hb.nodup, validate_of_nodup hb.nodup⟩⟩

/-- Words, syllables and phones, built from the highest tier down. -/
def phonetic : Hierarchy :=
  ⟨"small", [.bare "word", .bare "syllable", .bare "phone"], [], []⟩

theorem phonetic_built : phonetic.Built :=
  .tier (t := .bare "phone")
    (.tier (t := .bare "syllable") (.tier (t := .bare "word") (.bare "small") rfl) rfl) rfl

theorem navigation_phonetic :
    phonetic.validate = .ok () ∧ phonetic.Chain ∧ phonetic.Built ∧
      phonetic.tierNames.Nodup ∧
      phonetic.depthBetween "phone" "word" = .ok 2 ∧ phonetic.LeadsUp "phone" 2 "word" := by
  have hv : phonetic.validate = .ok () := rfl
  have hdepth : phonetic.depthBetween "phone" "word" = .ok 2 := rfl
  obtain ⟨hchain, hbuilt⟩ := navigation phonetic
  exact ⟨hv, hchain hv, phonetic_built, (hbuilt phonetic_built).1, hdepth,
    ((hchain hv).depth_leadsUp hdepth 2).2 rfl⟩

end AnnotationQuery.Hierarchy
