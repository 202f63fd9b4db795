import AnnotationQuery.Hierarchy.Lookup
import Mathlib.Data.List.Nodup
import Mathlib.Tactic.Common

/-!
# The order of the tiers

In a valid hierarchy no tier name is repeated, so a tier is determined by its position, and the
position of the tier directly above is one less.

Results:
* `Hierarchy.nodup_tierNames`: a valid hierarchy repeats no tier name.
* `Hierarchy.position_injective`: tiers with the same position are the same.
* `Hierarchy.parentOf_eq`: below the highest tier there is a tier directly above.
-/

namespace AnnotationQuery.Hierarchy

variable {h : Hierarchy}

theorem nodup_of_firstRepeated? {seen names : List String}
    (hn : firstRepeated? seen names = none) : names.Nodup ∧ List.Disjoint seen names := by
  induction names generalizing seen with
  | nil => exact ⟨List.nodup_nil, List.disjoint_nil_right _⟩
  | cons name names ih =>
    simp only [firstRepeated?, List.contains_iff_mem] at hn
    split at hn
    · cases hn
    · rename_i hseen
      obtain ⟨hnodup, hdisjoint⟩ := ih hn
      rw [List.disjoint_cons_left] at hdisjoint
      exact ⟨List.nodup_cons.2 ⟨hdisjoint.1, hnodup⟩,
        List.disjoint_cons_right.2 ⟨hseen, hdisjoint.2⟩⟩

theorem nodup_tierNames (hv : h.validate = .ok ()) : h.tierNames.Nodup := by
  simp only [validate] at hv
  split at hv
  · cases hv
  · split at hv
    · cases hv
    · split at hv
      · cases hv
      · rename_i hn
        exact (nodup_of_firstRepeated? hn).1

theorem hasTier_iff_position_lt {name : String} :
    h.hasTier name = true ↔ h.position name < h.tierNames.length := by
  rw [hasTier, position, List.contains_iff_mem, List.idxOf_lt_length_iff]

theorem hasTier_of_tier {name : String} {t : Tier} (ht : h.tier name = .ok t) :
    h.hasTier name = true := by
  rw [tier_eq_ok_iff] at ht
  have hname : t.name = name := by simpa using List.find?_some ht
  rw [hasTier, List.contains_iff_mem, ← hname]
  exact List.mem_map_of_mem (List.mem_of_find?_eq_some ht)

theorem exists_tier {name : String} (ht : h.hasTier name = true) : ∃ t, h.tier name = .ok t := by
  rw [hasTier, List.contains_iff_mem] at ht
  obtain ⟨t, hmem, hname⟩ := List.mem_map.1 ht
  cases hfind : h.tier? name with
  | some t => exact ⟨t, tier_eq_ok_iff.2 hfind⟩
  | none =>
    have hnot := List.find?_eq_none.1 hfind t hmem
    simp [hname] at hnot

theorem getElem?_position {name : String} (hn : h.hasTier name = true) :
    h.tierNames[h.position name]? = some name := by
  rw [hasTier, List.contains_iff_mem] at hn
  exact List.getElem?_idxOf hn

theorem position_injective {t t' : String} (ht : h.hasTier t = true)
    (hp : h.position t = h.position t') : t = t' := by
  rw [hasTier, List.contains_iff_mem] at ht
  exact (List.idxOf_inj ht).1 hp

/-- Below the highest tier there is a tier directly above, whose position is one less. -/
theorem parentOf_eq (hv : h.validate = .ok ()) {t : String} {k : Nat} (ht : h.hasTier t = true)
    (hp : h.position t = k + 1) :
    ∃ parent, h.parentOf t = .ok (some parent) ∧ h.hasTier parent.name = true ∧
      h.position parent.name = k := by
  have hlen : k < h.tiers.length := by
    have := hasTier_iff_position_lt.1 ht
    rw [tierNames, List.length_map] at this
    omega
  have hname : h.tierNames[k]? = some h.tiers[k].name := by
    rw [tierNames, List.getElem?_map, List.getElem?_eq_getElem hlen, Option.map_some]
  have hmem : h.tiers[k].name ∈ h.tierNames := List.mem_of_getElem? hname
  refine ⟨h.tiers[k], ?_, by rwa [hasTier, List.contains_iff_mem], ?_⟩
  · rw [parentOf, index_eq_ok ht, hp]
    exact congrArg Except.ok (List.getElem?_eq_getElem hlen)
  · have hlen' : k < h.tierNames.length := by rwa [tierNames, List.length_map]
    rw [List.getElem?_eq_getElem hlen', Option.some_inj] at hname
    rw [position, ← hname]
    exact (nodup_tierNames hv).idxOf_getElem k hlen'

end AnnotationQuery.Hierarchy
