import AnnotationQuery.Node.Basic

/-!
# Binding order

Nodes are bound by nesting depth, then by distance from the annotation their position is counted
from, annotations before the nodes that hang off them, earlier positions before later ones. This
puts every node behind the one it depends on.

The nodes of a compilation are kept in sets that list them in no order of their own: each run may
list them differently. Sorting is stable, so that nodes which the sort key does not tell apart,
which are nodes with the same alias, stay as they are listed.

* `Node.order`: compares nodes by their sort keys.
* `Listing`: an order in which sets list their nodes.
* `Listing.sorted`: the nodes of a set in binding order.
-/

namespace AnnotationQuery

namespace Node

/-- The rank of the kind of a node. -/
def rank : Node → Nat
  | token _ => 0
  | type _ => 1
  | entity .speaker _ => 2
  | entity .discourse _ => 3
  | attached _ _ => 4

/-- Compares nodes by depth, distance, kind, position and alias (`sort_key`). -/
def order : Node → Node → Ordering :=
  compareLex (compareOn fun n => n.reference.depth) <|
    compareLex (compareOn fun n => n.reference.position.natAbs) <|
      compareLex (compareOn rank) <|
        compareLex (compareOn fun n => n.reference.position) <| compareOn aliasName

/-- Puts a node in front of the first one that does not come before it. -/
def place (n : Node) : List Node → List Node
  | [] => [n]
  | m :: nodes => if (order n m).isLE then n :: m :: nodes else m :: n.place nodes

end Node

/-- How sets of nodes are listed. A set is given by its nodes in the order in which they came in. -/
structure Listing where
  list : List Node → List Node
  perm : ∀ nodes, (list nodes).Perm nodes

namespace Listing

/-- Lists nodes as they came in. -/
def arrival : Listing :=
  ⟨id, fun _ => .refl _⟩

/-- Lists the nodes that came in last first. -/
def reversed : Listing :=
  ⟨List.reverse, List.reverse_perm⟩

/-- The nodes of a set in binding order (`sorted`). -/
def sorted (l : Listing) (nodes : List Node) : List Node :=
  (l.list nodes).foldr Node.place []

end Listing

end AnnotationQuery
