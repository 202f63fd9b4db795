import AnnotationQuery.Hierarchy.Lookup
import AnnotationQuery.Node.Order
import AnnotationQuery.Statement.Basic

/-!
# Binding nodes

Each node is bound by a pattern that starts at a node bound before. A relative position starts at
the nearest position that is bound on its side of the base, so that neighbouring positions are
joined by single edges. The type node of an annotation is bound in the annotation's own pattern when
both belong to the same group of nodes.

* `Node.patternOver`: the pattern of one node.
* `Node.emit`: the same when the distance to a containing annotation has to be looked up, which may
  fail; `Node.pattern` takes it as known.
* `Group`: nodes that are bound together. `Group.bindAll` binds them one after the other.
* `Group.patterns`, `Group.aliases`: what this comes to for a group in binding order.
-/

namespace AnnotationQuery

/-! ## Edge types -/

namespace Relation

def precedes : String := "precedes"
def precedesPause : String := "precedes_pause"
def containedBy : String := "contained_by"
def isA : String := "is_a"
def annotates : String := "annotates"
def spokenBy : String := "spoken_by"
def spokenIn : String := "spoken_in"

/-- The edges from an annotation to the next one along an axis. -/
def along : Axis → String
  | .precedence => precedes
  | .pause => precedesPause

/-- The edges from an annotation to an entity. -/
def toEntity : EntityKind → String
  | .speaker => spokenBy
  | .discourse => spokenIn

end Relation

/-! ## Patterns -/

namespace Node

/-- The pattern of a node where it is bound. -/
def nodePattern (n : Node) : NodePattern :=
  ⟨n.aliasName, n.labels⟩

end Node

namespace Reference

/-- The position at a distance from the base, on the side of the reference. -/
def onSameSide (r : Reference) (distance : Nat) : Reference :=
  r.atPosition (r.position.sign * distance)

/-- The reference nearest to `r` among those at hand on its side of the base, the base if none is
at hand. -/
def nearest (available : List Node) (r : Reference) : Reference :=
  (((List.range r.position.natAbs).reverse.map r.onSameSide).find?
    fun q => .token q ∈ available).getD r.base

/-- The node where the pattern of an annotation starts and the step to it; the anchor has none. A
containing annotation is `levels` tiers above the one that it contains. -/
def approach? (levels : Nat) (available : List Node) (r : Reference) :
    Option (Reference × PathStep) :=
  let target := (Node.token r).nodePattern
  if r.position = 0 then
    r.enclosing?.map fun inner => (inner, ⟨Relation.containedBy, .outgoing, levels, target⟩)
  else
    let start := r.nearest available
    some (start, ⟨Relation.along r.axis, if 0 < r.position then .outgoing else .incoming,
      (r.position - start.position).natAbs, target⟩)

end Reference

namespace Node

/-- The pattern that binds a node, from nodes at hand. A containing annotation is `levels` tiers
above the one that it contains. -/
def patternOver (levels : Nat) (available : List Node) (n : Node) : PathPattern :=
  match n with
  | token r =>
    match r.approach? levels available with
    | some (start, step) => ⟨.bound start.aliasName, [step]⟩
    | none => .single n.nodePattern
  | type r => ⟨.bound r.aliasName, [⟨Relation.isA, .outgoing, 1, n.nodePattern⟩]⟩
  | entity kind r => ⟨.bound r.aliasName, [⟨Relation.toEntity kind, .outgoing, 1, n.nodePattern⟩]⟩
  | attached r _ => ⟨.bound r.aliasName, [⟨Relation.annotates, .incoming, 1, n.nodePattern⟩]⟩

/-- The annotation that a containing annotation hangs off; other nodes have none. -/
def contained? : Node → Option Reference
  | token r => if r.position = 0 then r.enclosing? else none
  | _ => none

/-- The pattern that binds a node, from the nodes bound so far (`pattern`). -/
def emit (h : Hierarchy) (bound : List Node) (n : Node) : Except QueryError PathPattern := do
  match n.contained? with
  | some inner => return n.patternOver (← h.depthBetween inner.tier n.reference.tier) bound
  | none => return n.patternOver 0 bound

/-- The number of tiers that a node is above the annotation that it contains. -/
def levels (h : Hierarchy) (n : Node) : Nat :=
  match n.contained? with
  | some inner => h.levels inner.tier n.reference.tier
  | none => 0

/-- The pattern that binds a node, from nodes at hand, on a hierarchy where every containing
annotation is of a higher tier. -/
def pattern (h : Hierarchy) (available : List Node) (n : Node) : PathPattern :=
  n.patternOver (n.levels h) available

/-- The type node of an annotation; other nodes have none. -/
def typeNode? : Node → Option Node
  | token r => some (type r)
  | _ => none

/-- The annotation of a type node; other nodes have none. -/
def tokenOfType? : Node → Option Node
  | type r => some (token r)
  | _ => none

end Node

/-! ## Groups -/

/-- Nodes that are bound together, in binding order. -/
abbrev Group := List Node

namespace Group

/-- Does the node have a pattern of its own? A type node has none when its annotation is in the
group. -/
def leads (group : Group) (n : Node) : Bool :=
  match n.tokenOfType? with
  | some t => !group.contains t
  | none => true

/-- The type node that is bound in the pattern of a node. -/
def companion? (group : Group) (n : Node) : Option Node :=
  n.typeNode?.filter (group.contains ·)

/-- The nodes that are bound by the pattern of a node. -/
def boundBy (group : Group) (n : Node) : List Node :=
  n :: (group.companion? n).toList

/-- The pattern of a node and the type node that goes with it (`bind`). -/
def emit (h : Hierarchy) (bound : List Node) (group : Group) (n : Node) :
    Except QueryError PathPattern := do
  let pattern ← n.emit h bound
  match group.companion? n with
  | some t => return pattern.andThen ⟨Relation.isA, .outgoing, 1, t.nodePattern⟩
  | none => return pattern

/-- Binds nodes of a group one after the other, each from the nodes bound by then, and adds them to
these; a node that is bound already has no pattern. -/
def bindAll (h : Hierarchy) (group : Group) :
    List Node → List Node → Except QueryError (List PathPattern × List Node)
  | bound, [] => return ([], bound)
  | bound, n :: rest =>
    if n ∈ bound then group.bindAll h bound rest
    else do
      let pattern ← group.emit h bound n
      let (patterns, bound) ← group.bindAll h (bound ++ group.boundBy n) rest
      return (pattern :: patterns, bound)

/-- The pattern of a node and the type node that goes with it, on a hierarchy where every containing
annotation is of a higher tier. -/
def pattern (h : Hierarchy) (available : List Node) (group : Group) (n : Node) : PathPattern :=
  match group.companion? n with
  | some t => (n.pattern h available).andThen ⟨Relation.isA, .outgoing, 1, t.nodePattern⟩
  | none => n.pattern h available

/-- The patterns that bind a group in binding order. -/
def patterns (h : Hierarchy) (available : List Node) (group : Group) : List PathPattern :=
  (group.filter group.leads).map (group.pattern h available)

/-- The nodes of a group in the order in which its patterns bind them. -/
def bindingSequence (group : Group) : List Node :=
  (group.filter group.leads).flatMap group.boundBy

/-- The aliases of a group in the order in which its patterns bind them. -/
def aliases (group : Group) : List String :=
  group.bindingSequence.map Node.aliasName

end Group

end AnnotationQuery
