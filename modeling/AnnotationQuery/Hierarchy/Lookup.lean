import AnnotationQuery.Error

/-!
# Navigating a hierarchy

Tiers are looked up by name; where names are repeated, which a valid hierarchy excludes, the first
one counts. The tiers form one chain, so "higher" compares positions in the list.

* `Hierarchy.validate`: a valid hierarchy has a corpus name and at least one tier, and no tier name
  is repeated.
* `Hierarchy.addTier`: adds a tier below the lowest one.
* `Hierarchy.levels`: the number of containment steps between two tiers.
-/

namespace AnnotationQuery

namespace Hierarchy

/-- A hierarchy without tiers. -/
def bare (corpus : String) : Hierarchy :=
  ⟨corpus, [], [], []⟩

/-- The names of the tiers from the highest to the lowest. -/
def tierNames (h : Hierarchy) : List String :=
  h.tiers.map (·.name)

def hasTier (h : Hierarchy) (name : String) : Bool :=
  h.tierNames.contains name

def tier? (h : Hierarchy) (name : String) : Option Tier :=
  h.tiers.find? (·.name == name)

/-- The tier with this name (`tier`). -/
def tier (h : Hierarchy) (name : String) : Except QueryError Tier :=
  match h.tier? name with
  | some t => .ok t
  | none => .error (.unknownTier name)

/-- The position of a tier; the highest one has position 0. A name that is missing counts behind
all tiers. -/
def position (h : Hierarchy) (name : String) : Nat :=
  h.tierNames.idxOf name

/-- The position of a tier that has to exist (`index_of`). -/
def index (h : Hierarchy) (name : String) : Except QueryError Nat :=
  if h.hasTier name then .ok (h.position name) else .error (.unknownTier name)

/-! ## Building -/

/-- Adds a tier below the lowest one (`with_tier`). -/
def addTier (h : Hierarchy) (t : Tier) : Except QueryError Hierarchy :=
  if h.hasTier t.name then .error (.hierarchy (.repeatedTier t.name))
  else .ok { h with tiers := h.tiers ++ [t] }

/-- The first name of a list that stands in it a second time, at that second place. -/
def firstRepeated? (seen : List String) : List String → Option String
  | [] => none
  | name :: names => if seen.contains name then some name else firstRepeated? (name :: seen) names

/-- Checks that the hierarchy has a corpus name and a tier and that no tier name is repeated
(`validate`). -/
def validate (h : Hierarchy) : Except QueryError Unit :=
  if h.corpus = "" then .error (.hierarchy .noCorpus)
  else if h.tiers = [] then .error (.hierarchy .noTier)
  else
    match firstRepeated? [] h.tierNames with
    | some name => .error (.hierarchy (.repeatedTier name))
    | none => .ok ()

/-! ## Neighbours -/

def highest? (h : Hierarchy) : Option Tier :=
  h.tiers.head?

def lowest? (h : Hierarchy) : Option Tier :=
  h.tiers.getLast?

/-- The tier directly above, if there is one (`parent_of`). -/
def parentOf (h : Hierarchy) (name : String) : Except QueryError (Option Tier) := do
  match ← h.index name with
  | 0 => return none
  | i + 1 => return h.tiers[i]?

/-- The tiers below, nearest first (`lower_tiers_of`). -/
def lowerTiersOf (h : Hierarchy) (name : String) : Except QueryError (List Tier) := do
  return h.tiers.drop ((← h.index name) + 1)

/-- The tiers above, highest first (`higher_tiers_of`). -/
def higherTiersOf (h : Hierarchy) (name : String) : Except QueryError (List Tier) := do
  return h.tiers.take (← h.index name)

/-- Is the first tier strictly above the second (`is_higher`)? -/
def isHigher (h : Hierarchy) (name other : String) : Except QueryError Bool := do
  let i ← h.index name
  let j ← h.index other
  return i < j

/-- The number of containment steps from a tier up to another, for tiers known to exist in that
order. -/
def levels (h : Hierarchy) (lower higher : String) : Nat :=
  h.position lower - h.position higher

/-- The number of containment steps from a tier up to a higher one (`depth_between`). -/
def depthBetween (h : Hierarchy) (lower higher : String) : Except QueryError Nat := do
  let i ← h.index lower
  let j ← h.index higher
  if i ≤ j then .error (.hierarchy (.notContained lower higher)) else return i - j

/-! ## Declarations -/

def subannotationsOf (h : Hierarchy) (name : String) : Except QueryError (List Subannotation) :=
  return (← h.tier name).subannotations

/-- The subsets of a tier with their sides, the token side first (`subset_names`). -/
def subsetsOf (h : Hierarchy) (name : String) : Except QueryError (List (String × Side)) :=
  return (← h.tier name).subsets

/-- The properties of a tier, implicit ones included (`declared_properties`). -/
def propertiesOf (h : Hierarchy) (name : String) : Except QueryError (List SidedProperty) :=
  return (← h.tier name).properties

/-- A property of the speakers or discourses (`speaker_property`, `discourse_property`). -/
def entityProperty? (h : Hierarchy) (kind : EntityKind) (name : String) : Option Property :=
  findProperty? Implicit.entity
    (match kind with
      | .speaker => h.speakerProperties
      | .discourse => h.discourseProperties) name

theorem tier_eq_ok_iff {h : Hierarchy} {name : String} {t : Tier} :
    h.tier name = .ok t ↔ h.tier? name = some t := by
  unfold tier
  cases h.tier? name <;> simp

theorem index_eq_ok {h : Hierarchy} {name : String} (hn : h.hasTier name = true) :
    h.index name = .ok (h.position name) := by
  simp [index, hn]

end Hierarchy

end AnnotationQuery
