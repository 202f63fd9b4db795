/-!
# References

A reference names an annotation relative to the anchor of a query. It starts at the anchor or at an
annotation of a higher tier that contains an annotation already named, and then moves along its own
tier: by so many annotations back or forward, counted with or without pauses.

* `Offset`: a displacement; the displacement 0 has only one form.
* `Reference.aliasName`: the name of the annotation in a statement.
* `Reference.enclosing?_withOffset`: moving along a tier keeps the annotation the count starts from.
-/

namespace AnnotationQuery

/-- How annotations are counted when a reference moves along its tier. -/
inductive Axis where
  /-- Every annotation counts. -/
  | precedence
  /-- Pauses are left out. -/
  | pause
deriving DecidableEq, Repr

/-- A displacement along a tier, negative towards earlier annotations. -/
structure Offset where
  position : Int
  axis : Axis
  axis_of_zero : position = 0 → axis = .precedence
deriving DecidableEq, Repr

namespace Offset

/-- No displacement. -/
def zero : Offset :=
  ⟨0, .precedence, fun _ => rfl⟩

/-- The displacement to a position; position 0 is on the precedence axis. -/
def of (position : Int) (axis : Axis) : Offset :=
  ⟨position, if position = 0 then .precedence else axis, by intro h; simp [h]⟩

end Offset

/-- An annotation relative to the anchor of a query (`AnnotationAttribute`). -/
inductive Reference where
  /-- Counted from the anchor. -/
  | root (corpus tier : String) (offset : Offset)
  /-- Counted from the annotation of `tier` that contains `inner`. -/
  | within (inner : Reference) (tier : String) (offset : Offset)
deriving DecidableEq, Repr

namespace Reference

/-- The anchor of a query on a tier. -/
def anchor (tier corpus : String) : Reference :=
  root corpus tier .zero

def tier : Reference → String
  | root _ tier _ => tier
  | within _ tier _ => tier

def offset : Reference → Offset
  | root _ _ offset => offset
  | within _ _ offset => offset

def position (r : Reference) : Int :=
  r.offset.position

def axis (r : Reference) : Axis :=
  r.offset.axis

def corpus : Reference → String
  | root corpus _ _ => corpus
  | within inner _ _ => inner.corpus

/-- The contained annotation that the count starts above, if the count does not start at the
anchor. -/
def enclosing? : Reference → Option Reference
  | root _ _ _ => none
  | within inner _ _ => some inner

/-- The same reference with another displacement. -/
def withOffset : Reference → Offset → Reference
  | root corpus tier _, offset => root corpus tier offset
  | within inner tier _, offset => within inner tier offset

/-- The annotation of a higher tier that contains this one (`contained_by`). -/
def containedBy (r : Reference) (tier : String) : Reference :=
  within r tier .zero

/-- Moves along the tier (`moved`). -/
def moved (r : Reference) (delta : Int) (axis : Axis) : Reference :=
  r.withOffset (.of (r.position + delta) axis)

/-- The same reference at another position (`at`). -/
def atPosition (r : Reference) (position : Int) : Reference :=
  r.withOffset (.of position r.axis)

/-- The annotation that the count starts at (`base`). -/
def base (r : Reference) : Reference :=
  r.withOffset .zero

def isAnchor : Reference → Bool
  | root _ _ offset => offset.position == 0
  | within _ _ _ => false

/-- The number of times the reference goes up to a containing annotation (`depth`). -/
def depth : Reference → Nat
  | root _ _ _ => 0
  | within inner _ _ => inner.depth + 1

/-- The part of an alias that stands for a tier and a displacement (`segment`). -/
def segment (tier : String) (offset : Offset) : String :=
  let pause := match offset.axis with
    | .precedence => ""
    | .pause => "pause"
  if offset.position < 0 then "prev" ++ pause ++ toString offset.position.natAbs ++ "_" ++ tier
  else if 0 < offset.position then
    "foll" ++ pause ++ toString offset.position.natAbs ++ "_" ++ tier
  else tier

/-- The name of the annotation in a statement (`alias`). -/
def aliasName : Reference → String
  | root _ tier offset => "node_" ++ segment tier offset
  | within inner tier offset => inner.aliasName ++ "_" ++ segment tier offset

/-- The name of the type node of the annotation in a statement (`type_alias`). -/
def typeAlias (r : Reference) : String :=
  "type_" ++ r.aliasName

theorem enclosing?_withOffset (r : Reference) (offset : Offset) :
    (r.withOffset offset).enclosing? = r.enclosing? := by
  cases r <;> rfl

theorem depth_withOffset (r : Reference) (offset : Offset) :
    (r.withOffset offset).depth = r.depth := by
  cases r <;> rfl

theorem tier_withOffset (r : Reference) (offset : Offset) :
    (r.withOffset offset).tier = r.tier := by
  cases r <;> rfl

end Reference

end AnnotationQuery
