import AnnotationQuery.Corpus
import AnnotationQuery.Node.Pattern

/-!
# Terms

A resolved path is written in a statement as an expression over the alias of one graph node. A path
to a lower tier is written as a list comprehension over the annotations of that tier; it can be
returned but not filtered on. Membership in a subset can only be filtered on.

* `Resolved.term`: the term of a path that has one value.
* `Corpus.filterTerm`, `Corpus.outputTerm`: the terms of paths in filters and in the output.
-/

namespace AnnotationQuery

/-- An expression and the graph node that it refers to. -/
structure Term where
  node : Node
  expr : Expr
deriving Repr

/-- The node that stores a property of an annotation. -/
def Node.ofSide (r : Reference) : Side → Node
  | .token => .token r
  | .type => .type r

namespace Term

/-- A property of a node. -/
def property (n : Node) (key : String) : Term :=
  ⟨n, .property n.aliasName key⟩

/-- A node itself. -/
def ofNode (n : Node) : Term :=
  ⟨n, .node n.aliasName⟩

/-- The pattern from an annotation to the annotations that it contains of a tier so many levels
below. -/
def containedPattern (levels : Nat) (r : Reference) (tier : String) : PathPattern :=
  ⟨.bound r.aliasName,
    [⟨Relation.containedBy, .incoming, levels, ⟨r.aliasName ++ "_" ++ tier, [tier, r.corpus]⟩⟩]⟩

/-- The list of the values of a leaf over the annotations of a tier so many levels below
(`collect_lower`). -/
def collected (levels : Nat) (r : Reference) (tier : String) (leaf : CollectedLeaf) : Term :=
  let aliasName := r.aliasName ++ "_" ++ tier
  let pattern := containedPattern levels r tier
  match leaf with
  | .duration => ⟨.token r, .collect pattern (.duration aliasName)⟩
  | .property p =>
    match p.side with
    | .token => ⟨.token r, .collect pattern (.property aliasName p.name)⟩
    | .type =>
      let typeAlias := "type_" ++ aliasName
      ⟨.token r, .collect
        (pattern.andThen
          ⟨Relation.isA, .outgoing, 1, ⟨typeAlias, [tier ++ "_type", r.corpus]⟩⟩)
        (.property typeAlias p.name)⟩

end Term

namespace Resolved

/-- The term of a path that has one value (`operand`). -/
def term : Resolved → Except PathFault Term
  | node r => .ok (.ofNode (.token r))
  | property r p => .ok (.property (.ofSide r p.side) p.name)
  | duration r => .ok ⟨.token r, .duration r.aliasName⟩
  | subset _ => .error .subsetInOutput
  | attached r name none => .ok (.ofNode (.attached r name))
  | attached r name (some p) => .ok (.property (.attached r name) p.name)
  | entity kind r p => .ok (.property (.entity kind r) p.name)
  | collected _ _ _ => .error .lowerTierInFilter

/-- The term of a path that is returned, on a hierarchy where lists are collected from lower
tiers. -/
def outputTerm (h : Hierarchy) : Resolved → Except PathFault Term
  | collected r tier leaf => .ok (.collected (h.levels tier r.tier) r tier leaf)
  | resolved => resolved.term

end Resolved

namespace Corpus

/-- The term of a path in a filter. -/
def filterTerm (c : Corpus) (tier : String) (path : Path) : Except QueryError Term := do
  (← c.resolve tier path).term.mapError (.invalidPath path)

/-- The term of a path in the output. How far a tier is below is looked up, which may fail. -/
def outputTerm (c : Corpus) (tier : String) (path : Path) : Except QueryError Term := do
  match ← c.resolve tier path with
  | .collected r lower leaf =>
    return .collected (← c.hierarchy.depthBetween lower r.tier) r lower leaf
  | resolved => resolved.term.mapError (.invalidPath path)

end Corpus

end AnnotationQuery
