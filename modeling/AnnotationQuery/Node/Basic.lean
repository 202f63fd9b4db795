import AnnotationQuery.Hierarchy.Basic
import AnnotationQuery.Reference

/-!
# Graph nodes

The graph nodes that a statement binds: annotations, their type nodes, the speakers and discourses
they belong to, and their sub-annotations. Each is named by a reference to an annotation. A node can
only be bound after the one it depends on: an annotation after the one its position is counted from
or the one it contains, every other node after its annotation.

* `Node.dependency?`, `Node.closure`: what a node depends on, directly and altogether.
* `Node.closure_eq`: the closure is the node and the closure of its dependency.
-/

namespace AnnotationQuery

namespace Reference

/-- The reference itself, and the start of its count when that is another annotation. -/
def withBase (r : Reference) : List Reference :=
  if r.position = 0 then [r] else [r, r.base]

/-- The reference and all references that it goes through on the way from the anchor. -/
def chain : Reference → List Reference
  | root corpus tier offset => (root corpus tier offset).withBase
  | within inner tier offset => (within inner tier offset).withBase ++ inner.chain

/-- The reference that has to be known before this one. -/
def predecessor? (r : Reference) : Option Reference :=
  if r.position = 0 then r.enclosing? else some r.base

end Reference

/-- A graph node that a statement binds (`Node`). -/
inductive Node where
  /-- An annotation. -/
  | token (r : Reference)
  /-- The type node of an annotation. -/
  | type (r : Reference)
  /-- The speaker or discourse of an annotation. -/
  | entity (kind : EntityKind) (r : Reference)
  /-- A sub-annotation of an annotation. -/
  | attached (r : Reference) (name : String)
deriving DecidableEq, Repr

/-- The label of the nodes of a kind of entity. -/
def EntityKind.label : EntityKind → String
  | speaker => "Speaker"
  | discourse => "Discourse"

namespace Node

/-- The annotation that the node belongs to or is. -/
def reference : Node → Reference
  | token r | type r | entity _ r | attached r _ => r

/-- The name of the node in a statement. -/
def aliasName : Node → String
  | token r => r.aliasName
  | type r => r.typeAlias
  | entity kind r => r.aliasName ++ "_" ++ kind.word
  | attached r name => r.aliasName ++ "_" ++ name

/-- The label that tells what the node is. -/
def label : Node → String
  | token r => r.tier
  | type r => r.tier ++ "_type"
  | entity kind _ => kind.label
  | attached _ name => name

/-- The labels of the node: what it is and the corpus. -/
def labels (n : Node) : List String :=
  [n.label, n.reference.corpus]

/-- The node that has to be bound before this one (`dependency`). -/
def dependency? : Node → Option Node
  | token r => r.predecessor?.map token
  | type r | entity _ r | attached r _ => some (token r)

/-- The node and all nodes that have to be bound before it. -/
def closure : Node → List Node
  | token r => r.chain.map token
  | type r => type r :: r.chain.map token
  | entity kind r => entity kind r :: r.chain.map token
  | attached r name => attached r name :: r.chain.map token

end Node

theorem Reference.chain_eq (r : Reference) :
    r.chain = r :: (r.predecessor?.map Reference.chain).getD [] := by
  cases r with
  | root corpus tier offset =>
    by_cases h : offset.position = 0 <;>
      simp [chain, withBase, predecessor?, position, Reference.offset, h, enclosing?, base,
        withOffset, Offset.zero]
  | within inner tier offset =>
    by_cases h : offset.position = 0 <;>
      simp [chain, withBase, predecessor?, position, Reference.offset, h, enclosing?, base,
        withOffset, Offset.zero]

theorem Node.closure_eq (n : Node) :
    n.closure = n :: (n.dependency?.map Node.closure).getD [] := by
  cases n with
  | token r =>
    rw [closure, Reference.chain_eq]
    cases h : r.predecessor? <;> simp [dependency?, h, closure]
  | type r => simp [closure, dependency?]
  | entity kind r => simp [closure, dependency?]
  | attached r name => simp [closure, dependency?]

end AnnotationQuery
