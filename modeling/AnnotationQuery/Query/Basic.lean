import AnnotationQuery.Filter.Basic
import AnnotationQuery.Hierarchy.Basic

/-!
# Queries

A query has an anchor tier, filters, possibly a discourse that it is restricted to, and exactly one
intent: a projection, which returns rows, or one kind of mutation. A query is built by a sequence of
changes; a change that belongs to another intent replaces the intent by a fresh one.

* `Query.apply`: applies one change.
* `Query.effectiveFilters`: the filters, with the one that the discourse stands for.
-/

namespace AnnotationQuery

/-- A column of a projection. -/
structure Column where
  path : Path
  name : String
deriving DecidableEq, Repr

/-- The column named after the steps of its path (`from_path`). -/
def Column.ofPath (path : Path) : Column :=
  ⟨path, Text.joined "_" path.steps⟩

/-- A function over the matched annotations. -/
inductive AggregateFunction where
  | count
  | sum
  | average
  | min
  | max
  | stdev
deriving DecidableEq, Repr

namespace AggregateFunction

/-- The word for a function. -/
def word : AggregateFunction → String
  | count => "count"
  | sum => "sum"
  | average => "average"
  | min => "min"
  | max => "max"
  | stdev => "stdev"

/-- The name of a function in statements. -/
def statementName : AggregateFunction → String
  | count => "count"
  | sum => "sum"
  | average => "avg"
  | min => "min"
  | max => "max"
  | stdev => "stDev"

/-- All functions. -/
def all : List AggregateFunction :=
  [count, sum, average, min, max, stdev]

end AggregateFunction

/-- A function of an attribute, or of the anchors themselves, over the matched annotations. -/
structure Aggregate where
  function : AggregateFunction
  path : Option Path
  name : String
deriving DecidableEq, Repr

/-- The number of matched anchors. -/
def Aggregate.count (name : String) : Aggregate :=
  ⟨.count, none, name⟩

/-- A sort key (`OrderBy`). -/
structure OrderKey where
  path : Path
  descending : Bool
deriving DecidableEq, Repr

/-- What a query returns. With aggregates, the columns are the grouping keys. -/
structure Projection where
  columns : List Column
  aggregates : List Aggregate
  orderBy : List OrderKey
  /-- Ignored when there are aggregates. -/
  limit : Option Nat
  distinct : Bool
deriving DecidableEq, Repr

namespace Projection

def empty : Projection :=
  ⟨[], [], [], none, false⟩

def isAggregate (p : Projection) : Bool :=
  !p.aggregates.isEmpty

end Projection

/-- Assignments to properties of the anchor and of its type node. Null removes the property. -/
structure PropertyUpdates where
  token : List (String × Value)
  type : List (String × Value)
deriving Repr

namespace PropertyUpdates

def empty : PropertyUpdates :=
  ⟨[], []⟩

def isEmpty (u : PropertyUpdates) : Bool :=
  u.token.isEmpty && u.type.isEmpty

/-- Adds assignments on one side. -/
def add (u : PropertyUpdates) : Side → List (String × Value) → PropertyUpdates
  | .token, assignments => { u with token := u.token ++ assignments }
  | .type, assignments => { u with type := u.type ++ assignments }

end PropertyUpdates

/-- Subset labels of the anchor and of its type node. -/
structure LabelUpdates where
  token : List String
  type : List String
deriving DecidableEq, Repr

namespace LabelUpdates

def empty : LabelUpdates :=
  ⟨[], []⟩

def isEmpty (u : LabelUpdates) : Bool :=
  u.token.isEmpty && u.type.isEmpty

/-- Adds labels on one side. -/
def add (u : LabelUpdates) : Side → List String → LabelUpdates
  | .token, labels => { u with token := u.token ++ labels }
  | .type, labels => { u with type := u.type ++ labels }

end LabelUpdates

/-- What is done with the matched annotations. -/
inductive Intent where
  | project (projection : Projection)
  | setProperties (updates : PropertyUpdates)
  | setLabels (updates : LabelUpdates)
  | removeLabels (updates : LabelUpdates)
  | delete
  /-- The results go to a side cache instead of being returned. -/
  | cache
deriving Repr

namespace Intent

def isMutation : Intent → Bool
  | project _ => false
  | _ => true

/-- The words for an intent. -/
def keyword : Intent → String
  | project _ => "PROJECT"
  | setProperties _ => "SET PROPERTIES"
  | setLabels _ => "SET LABELS"
  | removeLabels _ => "REMOVE LABELS"
  | delete => "DELETE"
  | cache => "CACHE"

/-- The projection, or an empty one in place of a mutation (`projection_mut`). -/
def projection : Intent → Projection
  | project p => p
  | _ => .empty

/-- The property updates, or none in place of another intent (`property_updates_mut`). -/
def propertyUpdates : Intent → PropertyUpdates
  | setProperties u => u
  | _ => .empty

/-- The labels to set, or none in place of another intent (`label_updates_mut`). -/
def labelsToSet : Intent → LabelUpdates
  | setLabels u => u
  | _ => .empty

/-- The labels to remove, or none in place of another intent (`label_updates_mut`). -/
def labelsToRemove : Intent → LabelUpdates
  | removeLabels u => u
  | _ => .empty

end Intent

/-- A query (`QueryIntent`). -/
structure Query where
  tier : String
  discourse : Option String
  filters : List Filter
  intent : Intent
deriving Repr

/-- One step in building a query. -/
inductive Change where
  | filter (filter : Filter)
  | discourse (name : String)
  | column (column : Column)
  | aggregate (aggregate : Aggregate)
  | orderBy (key : OrderKey)
  | limit (count : Nat)
  | distinct
  | setProperties (side : Side) (assignments : List (String × Value))
  | setLabels (side : Side) (labels : List String)
  | removeLabels (side : Side) (labels : List String)
  | delete
  | cache
deriving Repr

/-- The intent after a change. -/
def Intent.apply (intent : Intent) : Change → Intent
  | .filter _ | .discourse _ => intent
  | .column c =>
    .project { intent.projection with columns := intent.projection.columns ++ [c] }
  | .aggregate a =>
    .project { intent.projection with aggregates := intent.projection.aggregates ++ [a] }
  | .orderBy key =>
    .project { intent.projection with orderBy := intent.projection.orderBy ++ [key] }
  | .limit count => .project { intent.projection with limit := some count }
  | .distinct => .project { intent.projection with distinct := true }
  | .setProperties side assignments =>
    .setProperties (intent.propertyUpdates.add side assignments)
  | .setLabels side labels => .setLabels (intent.labelsToSet.add side labels)
  | .removeLabels side labels => .removeLabels (intent.labelsToRemove.add side labels)
  | .delete => .delete
  | .cache => .cache

namespace Query

/-- A query for all annotations of a tier. -/
def ofTier (tier : String) : Query :=
  ⟨tier, none, [], .project .empty⟩

/-- Applies one change. -/
def apply (q : Query) (change : Change) : Query :=
  match change with
  | .filter f => { q with filters := q.filters ++ [f] }
  | .discourse name => { q with discourse := some name }
  | change => { q with intent := q.intent.apply change }

/-- Applies changes in order. -/
def applyAll (q : Query) (changes : List Change) : Query :=
  changes.foldl apply q

/-- The condition that the anchor belongs to the speaker or discourse with this name. -/
def entityFilter (q : Query) (kind : EntityKind) (name : String) : Filter :=
  ⟨⟨[q.tier, kind.word, "name"]⟩, .equal, .literal (.string name)⟩

/-- All filters (`effective_filters`); the one for the discourse comes last. -/
def effectiveFilters (q : Query) : List Filter :=
  q.filters ++ (q.discourse.map (q.entityFilter .discourse)).toList

/-- The projection of a query that returns rows. -/
def projection? (q : Query) : Option Projection :=
  match q.intent with
  | .project p => some p
  | _ => none

end Query

end AnnotationQuery
