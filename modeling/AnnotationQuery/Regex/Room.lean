import AnnotationQuery.Regex.Layout
import Std.Data.HashMap

/-!
# The room of automata

The states of an automaton are numbered in the order in which they are laid out. States that would
be the same are looked for in a store with a fixed number of slots; the number of a slot depends on
the state, and a new state takes the place of the one in its slot.

* `Layout.place`: lays out states while there is room.
* `Normal.fits`: is there room for the automata of a pattern in both directions?
-/

namespace AnnotationQuery.Regex

/-- The states of an automaton that is laid out so far, by number, and the bytes of their tables. -/
structure Room where
  states : Nat
  tables : Nat
deriving Repr, DecidableEq

namespace Room

/-- The greatest room of an automaton, in bytes. -/
def limit : Nat := 10485760

/-- The bytes that the states and their tables take. -/
def bytes (r : Room) : Nat := 32 * r.states + r.tables

/-- The room with more states and tables. -/
def grow (r : Room) (states tables : Nat) : Room :=
  ⟨r.states + states, r.tables + tables⟩

/-- The room, if it keeps within the limit. -/
def checked (r : Room) : Option Room :=
  if r.bytes ≤ limit then some r else none

end Room

/-! ## Stores of states -/

/-- The slot of some numbers in a store, a hash of them. -/
def slotOf (slots : Nat) (numbers : List Nat) : Nat :=
  let mix := fun (hash : UInt64) (n : Nat) => (hash ^^^ n.toUInt64) * 1099511628211
  (numbers.foldl mix 14695981039346656037).toNat % slots

/-- States that are laid out, of which some are found again by what they hold. -/
structure Store (α : Type) where
  room : Room
  slots : Std.HashMap Nat (α × Nat)

namespace Store

variable {α : Type}

/-- A store without states to find again. -/
def new (room : Room) : Store α :=
  ⟨room, ∅⟩

/-- The number of the state that holds this, in a slot: the one that is there, or a new one. -/
def share [DecidableEq α] (store : Store α) (slot : Nat) (held : α) (tables : Nat) :
    Nat × Store α :=
  let fresh : Nat × Store α :=
    (store.room.states,
      ⟨store.room.grow 1 tables, store.slots.insert slot (held, store.room.states)⟩)
  match store.slots[slot]? with
  | some (other, number) => if other = held then (number, store) else fresh
  | none => fresh

end Store

/-! ## Sets read forwards -/

/-- The slots of states with the same successors. -/
def successorSlots : Nat := 10000

/-- A range of bytes and the number of the state behind it. -/
abbrev Successor := ByteRange × Nat

/-- The state with these successors. -/
def shareSuccessors (store : Store (List Successor)) (successors : List Successor) :
    Nat × Store (List Successor) :=
  let numbers := successors.flatMap fun (range, target) => [range.first, range.last, target]
  store.share (slotOf successorSlots numbers) successors (8 * successors.length)

mutual

/-- Lays out the states of a tree from its leaves up, and gives the number of the state of its root.
At the leaves stands the state with the number `goal`. -/
def ByteTree.place (goal : Nat) (store : Store (List Successor)) :
    ByteTree → Nat × Store (List Successor)
  | .node [] => (goal, store)
  | .node (edge :: edges) =>
    let (successors, store) := ByteTree.placeEdges goal store (edge :: edges)
    shareSuccessors store successors.reverse

/-- Lays out the states behind edges, the last edge first in the list, and gives the successors in
the same order. -/
def ByteTree.placeEdges (goal : Nat) (store : Store (List Successor)) :
    List (ByteRange × ByteTree) → List Successor × Store (List Successor)
  | [] => ([], store)
  | (range, tree) :: edges =>
    let (successors, store) := ByteTree.placeEdges goal store edges
    let (target, store) := ByteTree.place goal store tree
    ((range, target) :: successors, store)

end

/-- Lays out a set read forwards. -/
def placeTree (tree : ByteTree) (room : Room) : Room :=
  (tree.place room.states (.new (room.grow 1 0))).2.room

/-! ## Sets read backwards -/

/-- The slots of states that read the same bytes in front of the same state. -/
def endingSlots : Nat := 1000

/-- A range of bytes in front of the state with this number. -/
abbrev Ending := Nat × ByteRange

/-- Lays out what reads a row from its end, in front of the state with this number. -/
def placeRow : List ByteRange → Nat → Store Ending → Store Ending
  | [], _, store => store
  | range :: row, number, store =>
    let slot := slotOf endingSlots [number, range.first, range.last]
    let (number, store) := store.share slot (number, range) 0
    placeRow row number store

/-- Lays out a set read backwards: a choice between the rows, and the place behind them. -/
def placeRows (rows : List (List ByteRange)) (room : Room) : Room :=
  let goal := room.states + 1
  let store := rows.foldl (fun store row => placeRow row goal store) (.new (room.grow 2 0))
  store.room.grow 0 (4 * rows.length)

/-! ## Layouts -/

/-- Lays out something so many times, while there is room. -/
def placeCopies (place : Room → Option Room) : Nat → Room → Option Room
  | 0, room => some room
  | count + 1, room =>
    match place room with
    | some room => placeCopies place count room
    | none => none

mutual

/-- Lays out states while there is room. -/
def Layout.place : Layout → Room → Option Room
  | .states n bytes, room => (room.grow n bytes).checked
  | .tree t, room => (placeTree t room).checked
  | .rows rs, room => (placeRows rs room).checked
  | .sequence parts, room => Layout.placeAll parts room
  | .copies n body, room => placeCopies body.place n room

/-- Lays out the parts of a sequence. -/
def Layout.placeAll : List Layout → Room → Option Room
  | [], room => some room
  | part :: parts, room => (part.place room).bind (Layout.placeAll parts)

end

/-- The room of an automaton, if it keeps within the limit. -/
def Normal.room? (direction : Direction) (n : Normal) : Option Room :=
  (n.automaton direction).place ⟨0, 0⟩

/-- Is there room for the automata of a pattern in both directions? -/
def Normal.fits (n : Normal) : Bool :=
  (n.room? .forward).isSome && (n.room? .backward).isSome

end AnnotationQuery.Regex
