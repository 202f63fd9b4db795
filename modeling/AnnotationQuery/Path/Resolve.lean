import AnnotationQuery.Config
import AnnotationQuery.Hierarchy.Lookup
import AnnotationQuery.Reference

/-!
# Resolving paths

A path is resolved step by step against the hierarchy. The first step is a tier: the anchor's own
tier stands for the anchor, a higher tier for the annotation that contains it, a lower tier for all
the annotations that it contains. From an annotation, a step moves along the tier, goes up to a
containing annotation, or ends the path. Names are looked up in this order: keyword, tier,
sub-annotation, property.

* `Resolved`: what a path stands for.
* `Path.resolve`: resolves a path, or explains why it stands for nothing.
-/

namespace AnnotationQuery

/-- The steps with a fixed meaning. -/
inductive Keyword where
  | move (delta : Int) (axis : Axis)
  | entity (kind : EntityKind)
  | subset
  | duration
deriving DecidableEq, Repr

/-- The words for the steps with a fixed meaning. -/
def Keyword.words : List (String × Keyword) :=
  [("previous", .move (-1) .precedence), ("following", .move 1 .precedence),
    ("previous_pause", .move (-1) .pause), ("following_pause", .move 1 .pause),
    ("speaker", .entity .speaker), ("discourse", .entity .discourse), ("subset", .subset),
    ("duration", .duration)]

def Keyword.ofText? (step : String) : Option Keyword :=
  words.lookup step

/-- What is collected from the annotations of a lower tier. -/
inductive CollectedLeaf where
  | property (property : SidedProperty)
  | duration
deriving DecidableEq, Repr

/-- What a path stands for (`ResolvedPath`). -/
inductive Resolved where
  | node (r : Reference)
  | property (r : Reference) (property : SidedProperty)
  | duration (r : Reference)
  /-- Membership in a subset that the filter names. -/
  | subset (r : Reference)
  | attached (r : Reference) (name : String) (property : Option Property)
  | entity (kind : EntityKind) (r : Reference) (property : Property)
  /-- A list with one item for each annotation of a lower tier that is contained in `r`. -/
  | collected (r : Reference) (tier : String) (leaf : CollectedLeaf)
deriving DecidableEq, Repr

namespace Resolved

/-- The annotation that the path has reached (`annotation`). -/
def reference : Resolved → Reference
  | node r | property r _ | duration r | subset r | attached r _ _ | entity _ r _
  | collected r _ _ => r

/-- The boundary that the path selects, if it selects one (`boundary`). -/
def boundary? : Resolved → Option String
  | property _ p | collected _ _ (.property p) => boundaryOf p.name
  | entity _ _ p | attached _ _ (some p) => boundaryOf p.name
  | _ => none
where
  /-- The name itself if it names a boundary. -/
  boundaryOf (name : String) : Option String :=
    if name = "begin" ∨ name = "end" then some name else none

end Resolved

namespace Path

/-- Why an annotation may not be left along an axis, if it may not. -/
def moveFault? (config : Config) (r : Reference) : Axis → Option PathFault
  | .precedence => if r.axis = .pause then some .mixedAxes else none
  | .pause =>
    if r.tier ≠ config.pauseTier then some (.notPauseTier config.pauseTier)
    else if r.axis = .precedence ∧ r.position ≠ 0 then some .mixedAxes
    else none

/-- Ends a path: no step may be left. -/
def finish (result : Resolved) : List String → Except PathFault Resolved
  | [] => .ok result
  | step :: _ => .error (.afterEnd step)

/-- Resolves the steps behind a lower tier. -/
def resolveCollected (h : Hierarchy) (r : Reference) (tier : String) :
    List String → Except PathFault Resolved
  | [] => .error (.bareLowerTier tier)
  | step :: rest =>
    if Keyword.ofText? step = some .duration then finish (.collected r tier .duration) rest
    else
      match (h.tier? tier).bind (·.property? step) with
      | some p => finish (.collected r tier (.property p)) rest
      | none => .error (.notProperty step tier)

/-- Resolves the steps behind `speaker` and `discourse`; the property is `name` when none is
given. -/
def resolveEntity (h : Hierarchy) (kind : EntityKind) (r : Reference) (steps : List String) :
    Except PathFault Resolved :=
  let name := steps.head?.getD "name"
  match h.entityProperty? kind name with
  | some p => finish (.entity kind r p) steps.tail
  | none => .error (.noEntityProperty kind name)

/-- Resolves the steps behind a sub-annotation. -/
def resolveAttached (s : Subannotation) (r : Reference) :
    List String → Except PathFault Resolved
  | [] => .ok (.attached r s.name none)
  | step :: rest =>
    match s.property? step with
    | some p => finish (.attached r s.name (some p)) rest
    | none => .error (.noSubannotationProperty s.name step)

/-- Resolves a step that names a sub-annotation or a property of the current tier, and the steps
behind it. -/
def resolveName (h : Hierarchy) (r : Reference) (step : String) (rest : List String) :
    Except PathFault Resolved :=
  match (h.tier? r.tier).bind (·.subannotation? step) with
  | some s => resolveAttached s r rest
  | none =>
    match (h.tier? r.tier).bind (·.property? step) with
    | some p => finish (.property r p) rest
    | none => .error (.unknownStep step r.tier)

/-- Resolves the steps that follow an annotation (the loop of `resolve`). -/
def resolveFrom (h : Hierarchy) (config : Config) (r : Reference) :
    List String → Except PathFault Resolved
  | [] => .ok (.node r)
  | step :: rest =>
    match Keyword.ofText? step with
    | some (.move delta axis) =>
      match moveFault? config r axis with
      | some fault => .error fault
      | none => resolveFrom h config (r.moved delta axis) rest
    | some (.entity kind) => resolveEntity h kind r rest
    | some .subset => finish (.subset r) rest
    | some .duration => finish (.duration r) rest
    | none =>
      if h.hasTier step then
        if step = r.tier then .error (.sameTier step)
        else if h.position step < h.position r.tier then
          resolveFrom h config (r.containedBy step) rest
        else resolveCollected h r step rest
      else resolveName h r step rest

/-- Resolves a path as seen from an anchor on a tier (`resolve`). -/
def resolve (h : Hierarchy) (config : Config) (anchorTier : String) (path : Path) :
    Except QueryError Resolved :=
  let anchor := Reference.anchor anchorTier h.corpus
  match path.steps with
  | [] => .error (.invalidPath path .empty)
  | first :: rest =>
    if !h.hasTier first then .error (.unknownTier first)
    else
      let result :=
        if first = anchorTier then resolveFrom h config anchor rest
        else if h.position first < h.position anchorTier then
          resolveFrom h config (anchor.containedBy first) rest
        else resolveCollected h anchor first rest
      result.mapError (.invalidPath path)

end Path

end AnnotationQuery
