import AnnotationQuery.Regex.Encoding
import AnnotationQuery.Regex.Normal

/-!
# Layouts of automata

An automaton reads a text forwards or backwards. Its states lie one behind the other; a layout says
which states there are, in order, and how much room their tables of successors take.

* `Normal.layout`: the layout of a pattern, in either direction.
* `ByteTree.insert`, `TextTree.insert`: trees that share what sequences begin with.
-/

namespace AnnotationQuery.Regex

open Unicode (CodeSet)

/-- The direction in which a text is read. -/
inductive Direction where
  | forward
  | backward
deriving Repr, DecidableEq

/-! ## Trees of rows -/

/-- Rows that share what they begin with, the last row in front. -/
inductive ByteTree where
  | node (edges : List (ByteRange × ByteTree))
deriving Repr

/-- Adds a row behind all others. It shares what it begins with the last row. -/
def ByteTree.insert : List ByteRange → ByteTree → ByteTree
  | [], tree => tree
  | r :: row, .node [] => .node [(r, insert row (.node []))]
  | r :: row, .node ((s, tree) :: edges) =>
    if r = s then .node ((s, insert row tree) :: edges)
    else .node ((r, insert row (.node [])) :: (s, tree) :: edges)

/-- The tree of some rows. -/
def ByteTree.ofRows (rows : List (List ByteRange)) : ByteTree :=
  rows.foldl (fun tree row => tree.insert row) (.node [])

/-! ## Trees of texts -/

/-- Texts that share what they begin with. An edge stands behind some of the texts that end at its
node; texts that come later do not share edges from before. -/
inductive TextTree where
  | node (ends : Nat) (edges : List (Nat × Nat × TextTree))
deriving Repr

namespace TextTree

/-- The tree without texts. -/
def empty : TextTree := .node 0 []

/-- Adds a text of bytes behind all others. -/
def insert : List Nat → TextTree → TextTree
  | [], .node ends edges =>
    if edges.isEmpty && ends != 0 then .node ends edges else .node (ends + 1) edges
  | byte :: bytes, .node ends edges =>
    if edges.any fun e => e.1 == ends && e.2.1 == byte then
      .node ends (edges.map fun (n, b, tree) =>
        if n == ends && b == byte then (n, b, tree.insert bytes) else (n, b, tree))
    else .node ends ((ends, byte, insert bytes empty) :: edges)

/-- Does no text go on behind this place? -/
def isLeaf : TextTree → Bool
  | .node _ edges => edges.isEmpty

/-- The numbers of edges between the ends of texts, without zeros. -/
def groups (ends : Nat) (edges : List (Nat × Nat × TextTree)) : List Nat :=
  ((List.range (ends + 1)).map fun n => edges.countP (·.1 == n)).filter (· != 0)

mutual

/-- The number of states of a tree and the room of their tables. A node has one state for each group
of edges and one that chooses between the groups and the end. -/
def room : TextTree → Nat × Nat
  | .node ends edges =>
    let counts := groups ends edges
    let (states, tables) := edgesRoom edges
    (states + counts.length + 1,
      tables + 4 * (ends + counts.length) + 8 * (counts.filter (1 < ·)).sum)

/-- The number of states behind edges and the room of their tables. -/
def edgesRoom : List (Nat × Nat × TextTree) → Nat × Nat
  | [] => (0, 0)
  | (_, _, tree) :: edges =>
    let (states, tables) := if tree.isLeaf then (0, 0) else tree.room
    let (states', tables') := edgesRoom edges
    (states + states', tables + tables')

end

end TextTree

/-! ## Layouts -/

/-- The states of an automaton, in order. -/
inductive Layout where
  /-- So many states, with tables of so many bytes. -/
  | states (count tables : Nat)
  /-- A set of characters read forwards. States with the same successors are shared. -/
  | tree (tree : ByteTree)
  /-- A set of characters read backwards. What rows end with is shared. -/
  | rows (rows : List (List ByteRange))
  | sequence (parts : List Layout)
  /-- So many copies of a layout. -/
  | copies (count : Nat) (body : Layout)
deriving Repr

namespace Layout

/-- The layout of a set. ASCII characters are successors in a single table. -/
def ofSet (direction : Direction) (s : CodeSet) : Layout :=
  if s.isAscii then .states 2 (8 * s.ranges.length)
  else match direction with
    | .forward => .tree (.ofRows (Regex.rows s))
    | .backward => .rows (Regex.rows s)

/-- Just so many copies of a layout; none of them leaves a state in their place. -/
def exactly (count : Nat) (body : Layout) : Layout :=
  if count = 0 then .states 1 0 else .copies count body

/-- A repetition of what has the layout. A loop around what always takes characters is closed by a
single choice. -/
def repeated (bounds : Bounds) (advances : Bool) (body : Layout) : Layout :=
  match bounds.max with
  | none =>
    if bounds.min = 0 then
      if advances then .sequence [.states 1 8, body] else .sequence [body, .states 3 16]
    else .sequence [.copies bounds.min body, .states 1 8]
  | some max =>
    if bounds.min = 0 ∧ max = 1 then .sequence [.states 1 8, body, .states 1 0]
    else if bounds.min = max then exactly max body
    else
      .sequence [exactly bounds.min body, .states 1 0,
        .copies (max - bounds.min) (.sequence [.states 1 8, body])]

/-- A choice between what has the layouts. The choice and the place behind it stand behind the
second branch. -/
def choice : List Layout → Layout
  | first :: second :: others =>
    .sequence ([first, second, .states 2 8] ++ others.flatMap fun other => [other, .states 0 4])
  | others => .sequence others

/-- A choice between texts that shares what they begin with, in the direction of reading. -/
def ofTexts (direction : Direction) (texts : List (List Char)) : Layout :=
  let bytes := texts.map fun text =>
    match direction with
    | .forward => encodedText text
    | .backward => (encodedText text).reverse
  let (count, tables) := (bytes.foldl (fun tree text => tree.insert text) TextTree.empty).room
  .states (count + 1) tables

end Layout

/-- The characters of a text. -/
def Normal.text? : Normal → Option (List Char)
  | .text chars => some chars
  | _ => none

mutual

/-- The layout of a pattern. Groups are noted where a text is read forwards. -/
def Normal.layout (direction : Direction) : Normal → Layout
  | .empty | .position _ => .states 1 0
  | .text chars => .states (encodedText chars).length 0
  | .set _ members => .ofSet direction members
  | .repetition bounds _ body => (body.layout direction).repeated bounds body.advances
  | .capture body =>
    match direction with
    | .forward => .sequence [.states 1 0, body.layout direction, .states 1 0]
    | .backward => body.layout direction
  | .sequence parts =>
    match direction with
    | .forward => .sequence (Normal.layouts direction parts)
    | .backward => .sequence (Normal.layouts direction parts).reverse
  | .choice branches =>
    match branches.mapM Normal.text? with
    | some texts => .ofTexts direction texts
    | none => .choice (Normal.layouts direction branches)

/-- The layouts of several patterns. -/
def Normal.layouts (direction : Direction) : List Normal → List Layout
  | [] => []
  | part :: parts => part.layout direction :: Normal.layouts direction parts

end

/-- The layout of a whole automaton. Unless all matches lie at the end of the text where reading
begins, a loop in front skips what is not part of a match. -/
def Normal.automaton (direction : Direction) (n : Normal) : Layout :=
  let loop : Layout := .states 3 16
  match direction with
  | .forward =>
    .sequence [if n.opensAt .textStart then .states 1 0 else loop, .states 1 0, n.layout .forward,
      .states 2 0]
  | .backward =>
    .sequence [if n.closesAt .textEnd then .states 1 0 else loop, n.layout .backward, .states 1 0]

end AnnotationQuery.Regex
