import AnnotationQuery.Value.Basic

/-!
# Hierarchies

A corpus is annotated on tiers, such as words, syllables and phones, and each annotation is
contained in one annotation of the tier above. A hierarchy lists the tiers from the highest to the
lowest and declares what their annotations carry: properties of the single annotation (the token)
or of the type node that all tokens with the same label share, subsets on either side, and
sub-annotations. Speakers and discourses have properties of their own.

Some properties need no declaration: the `Implicit` lists.
-/

namespace AnnotationQuery

/-- Where a property or subset is stored: on the annotation or on its type node (`PropertySide`). -/
inductive Side where
  | token
  | type
deriving DecidableEq, Repr

def Side.word : Side → String
  | token => "token"
  | type => "type"

/-- The two kinds of nodes that annotations are linked to across all tiers. -/
inductive EntityKind where
  | speaker
  | discourse
deriving DecidableEq, Repr

/-- The word for a kind of entity, which is also the path step that leads to it. -/
def EntityKind.word : EntityKind → String
  | speaker => "speaker"
  | discourse => "discourse"

/-- A declared property (`PropertyDeclaration`). -/
structure Property where
  name : String
  kind : ValueKind
deriving DecidableEq, Repr

/-- A property together with the side it is stored on (`DeclaredProperty`). -/
structure SidedProperty where
  name : String
  kind : ValueKind
  side : Side
deriving DecidableEq, Repr

/-- A sub-annotation of a tier, such as a burst (`SubannotationDeclaration`). It is attached to
single annotations. -/
structure Subannotation where
  name : String
  properties : List Property
deriving DecidableEq, Repr

/-- A level of the hierarchy (`AnnotationTier`). -/
structure Tier where
  name : String
  tokenProperties : List Property
  typeProperties : List Property
  tokenSubsets : List String
  typeSubsets : List String
  subannotations : List Subannotation
deriving DecidableEq, Repr

/-- A tier that declares nothing. -/
def Tier.bare (name : String) : Tier :=
  ⟨name, [], [], [], [], []⟩

/-- The tiers of a corpus from the highest to the lowest, and the properties of its entities. -/
structure Hierarchy where
  corpus : String
  tiers : List Tier
  speakerProperties : List Property
  discourseProperties : List Property
deriving DecidableEq, Repr

namespace Implicit

/-- The properties of every annotation. -/
def token : List Property :=
  [⟨"id", .string⟩, ⟨"begin", .float⟩, ⟨"end", .float⟩]

/-- The properties of every type node. -/
def type : List Property :=
  [⟨"label", .string⟩]

/-- The properties of every sub-annotation. -/
def attached : List Property :=
  [⟨"id", .string⟩, ⟨"begin", .float⟩, ⟨"end", .float⟩, ⟨"label", .string⟩]

/-- The properties of every speaker and discourse. -/
def entity : List Property :=
  [⟨"name", .string⟩]

end Implicit

/-- Looks a property up, the implicit ones first (`find_property`). -/
def findProperty? (implicit declared : List Property) (name : String) : Option Property :=
  (implicit.find? (·.name == name)).or (declared.find? (·.name == name))

namespace Subannotation

def property? (s : Subannotation) (name : String) : Option Property :=
  findProperty? Implicit.attached s.properties name

end Subannotation

namespace Tier

/-- Looks a property up, the token side first. -/
def property? (t : Tier) (name : String) : Option SidedProperty :=
  ((findProperty? Implicit.token t.tokenProperties name).map fun p => ⟨p.name, p.kind, .token⟩).or
    ((findProperty? Implicit.type t.typeProperties name).map fun p => ⟨p.name, p.kind, .type⟩)

/-- All properties: token side before type side, implicit ones before declared ones. -/
def properties (t : Tier) : List SidedProperty :=
  (Implicit.token ++ t.tokenProperties).map (fun p => ⟨p.name, p.kind, .token⟩) ++
    (Implicit.type ++ t.typeProperties).map (fun p => ⟨p.name, p.kind, .type⟩)

/-- The side on which a subset is declared, the token side first (`subset_side`). -/
def subsetSide? (t : Tier) (name : String) : Option Side :=
  if name ∈ t.tokenSubsets then some .token
  else if name ∈ t.typeSubsets then some .type
  else none

/-- All subsets, the token side first. -/
def subsets (t : Tier) : List (String × Side) :=
  t.tokenSubsets.map (·, .token) ++ t.typeSubsets.map (·, .type)

def subannotation? (t : Tier) (name : String) : Option Subannotation :=
  t.subannotations.find? (·.name == name)

end Tier

end AnnotationQuery
