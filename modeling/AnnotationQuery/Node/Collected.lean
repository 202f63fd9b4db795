import AnnotationQuery.Node.Basic

/-!
# Collecting nodes

The nodes of a statement are collected one by one, each with the nodes that have to be bound before
it. Required nodes leave out a row that lacks them; optional nodes do not. A node that is required
is not optional any more. Going from a node to the one before it stops at a node that is there
already, as what comes before that one is there as well.

* `Collected`: the required and the optional nodes.
* `Collected.require`: requires a node and all nodes before it.
* `Collected.want`: makes a node and all nodes before it optional, unless they are required.
* `Collected.ofNodes`: requires some nodes and then wants others.
-/

namespace AnnotationQuery

/-- Two sets of nodes, each with its nodes in the order in which they came in. -/
structure Collected where
  required : List Node
  optional : List Node
deriving Repr

namespace Collected

/-- Nothing is collected. -/
def empty : Collected :=
  ⟨[], []⟩

/-- Requires nodes, each of which depends on the next one, up to one that is required already. -/
def requireChain (s : Collected) : List Node → Collected
  | [] => s
  | n :: rest =>
    let s := { s with optional := s.optional.erase n }
    if n ∈ s.required then s else requireChain { s with required := s.required ++ [n] } rest

/-- Requires a node and all nodes that have to be bound before it (`require`). -/
def require (s : Collected) (n : Node) : Collected :=
  s.requireChain n.closure

/-- Adds nodes to the optional ones, each of which depends on the next one, up to one that is
required or optional already. -/
def wantChain (s : Collected) : List Node → Collected
  | [] => s
  | n :: rest =>
    if n ∈ s.required then s
    else if n ∈ s.optional then s
    else wantChain { s with optional := s.optional ++ [n] } rest

/-- Makes a node and all nodes that have to be bound before it optional, unless they are required
(`want`). -/
def want (s : Collected) (n : Node) : Collected :=
  s.wantChain n.closure

/-- What is collected when some nodes are required and then others are wanted. -/
def ofNodes (needed wanted : List Node) : Collected :=
  wanted.foldl want (needed.foldl require empty)

end Collected

end AnnotationQuery
