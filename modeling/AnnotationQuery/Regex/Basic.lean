import AnnotationQuery.Regex.Property

/-!
# Match patterns

The expressions that filters match annotations with: characters, sets of characters, positions,
repetition, groups and alternatives, and flags that change what follows them.

* `Pattern.depth`: how deep compound expressions stand inside each other.
* `Pattern.names`: the names of the groups, from left to right.
-/

namespace AnnotationQuery.Regex

open Unicode (CodeSet)

/-! ## Flags -/

/-- What a pattern can switch on and off. -/
inductive Flag where
  /-- Letters match in either case. -/
  | ignoreCase
  /-- Line ends count for the positions `^` and `$`. -/
  | multiLine
  /-- The dot matches line ends. -/
  | dotAll
  /-- Repetition is lazy unless marked, and greedy if marked. -/
  | swapGreed
  /-- Characters are those of Unicode rather than bytes. -/
  | unicode
  /-- A carriage return counts as a line end. -/
  | carriageReturn
  /-- Blanks and comments in the pattern are skipped. -/
  | verbose
deriving Repr, DecidableEq

/-- The letter of a flag. -/
def Flag.ofChar? : Char → Option Flag
  | 'i' => some .ignoreCase
  | 'm' => some .multiLine
  | 's' => some .dotAll
  | 'U' => some .swapGreed
  | 'u' => some .unicode
  | 'R' => some .carriageReturn
  | 'x' => some .verbose
  | _ => none

/-- Flags to switch on and flags to switch off. -/
structure FlagChange where
  on : List Flag
  off : List Flag
deriving Repr, DecidableEq

/-- The state of a flag after the change. -/
def FlagChange.apply (change : FlagChange) (flag : Flag) (state : Bool) : Bool :=
  if flag ∈ change.on then true else if flag ∈ change.off then false else state

/-! ## Characters and sets of characters -/

/-- One character, as a pattern writes it. -/
inductive Literal where
  | char (c : Char)
  /-- Two hexadecimal digits after `\x`: a byte where Unicode is switched off. -/
  | byte (value : Nat)
deriving Repr, DecidableEq

/-- The code point of a literal. -/
def Literal.point : Literal → Nat
  | char c => c.toNat
  | byte value => value

/-- The sets that a letter after a backslash stands for. -/
inductive Shorthand where
  | digit
  | space
  | word
deriving Repr, DecidableEq

/-- Places at the boundaries of words. -/
inductive WordEdge where
  /-- A start or an end of a word. -/
  | boundary
  /-- Neither a start nor an end of a word. -/
  | elsewhere
  | start
  | stop
  /-- No character of a word in front. -/
  | startHalf
  /-- No character of a word behind. -/
  | stopHalf
deriving Repr, DecidableEq

/-- Places between characters, as a pattern writes them. -/
inductive Anchor where
  /-- The start of the text, or of a line where lines count. -/
  | caret
  /-- The end of the text, or of a line where lines count. -/
  | dollar
  | textStart
  | textEnd
  | word (edge : WordEdge)
deriving Repr, DecidableEq

/-- What stands for a single character or for a place between characters. -/
inductive Atom where
  | literal (l : Literal)
  /-- The dot. -/
  | any
  | anchor (a : Anchor)
  | shorthand (negated : Bool) (set : Shorthand)
  | property (negated : Bool) (query : PropertyQuery)
deriving Repr, DecidableEq

/-- Operations on two sets of characters. -/
inductive SetOperator where
  | intersection
  | difference
  | symmetricDifference
deriving Repr, DecidableEq

/-- What stands between brackets. -/
inductive CharSet where
  | atom (a : Atom)
  | range (first last : Literal)
  /-- A named set of ASCII characters. -/
  | ascii (negated : Bool) (members : CodeSet)
  | bracketed (negated : Bool) (inner : CharSet)
  | union (parts : List CharSet)
  | operation (operator : SetOperator) (left right : CharSet)
deriving Repr

mutual

/-- How deep brackets, operations and unions of several parts stand inside each other. -/
def CharSet.depth : CharSet → Nat
  | .atom _ | .range .. | .ascii .. => 0
  | .bracketed _ inner => inner.depth + 1
  | .union [] => 0
  | .union [part] => part.depth
  | .union (part :: parts) => max part.depth (CharSet.depths parts) + 1
  | .operation _ left right => max left.depth right.depth + 1

/-- The greatest of the depths. -/
def CharSet.depths : List CharSet → Nat
  | [] => 0
  | part :: parts => max part.depth (CharSet.depths parts)

end

/-! ## Patterns -/

/-- What a group is for. -/
inductive GroupKind where
  /-- It captures what it matches, under a name if it has one. -/
  | capture (name : Option (List Char))
  /-- It holds its body together and changes flags inside it. -/
  | plain (change : FlagChange)
deriving Repr, DecidableEq

/-- How often something is repeated, without a maximum if there is none. -/
structure Bounds where
  min : Nat
  max : Option Nat
deriving Repr, DecidableEq

/-- Is there a number of times within the bounds? -/
def Bounds.isValid (b : Bounds) : Bool :=
  b.max.all (b.min ≤ ·)

/-- A match pattern. -/
inductive Pattern where
  | atom (a : Atom)
  /-- A set in brackets. -/
  | set (negated : Bool) (inner : CharSet)
  /-- A change of flags that holds to the end of the group. -/
  | flags (change : FlagChange)
  | group (kind : GroupKind) (body : Pattern)
  /-- Greedy repetition takes as much as it can, lazy repetition as little. -/
  | repetition (bounds : Bounds) (greedy : Bool) (body : Pattern)
  | concat (parts : List Pattern)
  | alternation (branches : List Pattern)
deriving Repr

namespace Pattern

mutual

/-- How deep groups, repetitions, brackets, sequences and alternatives stand inside each other. A
sequence or choice of one stands for its only part. -/
def depth : Pattern → Nat
  | .atom _ | .flags _ => 0
  | .set _ inner => inner.depth + 1
  | .group _ body | .repetition _ _ body => body.depth + 1
  | .concat [] | .alternation [] => 0
  | .concat [part] | .alternation [part] => part.depth
  | .concat (part :: parts) | .alternation (part :: parts) => max part.depth (depths parts) + 1

/-- The greatest of the depths. -/
def depths : List Pattern → Nat
  | [] => 0
  | part :: parts => max part.depth (depths parts)

end

mutual

/-- The names of the groups, from left to right. -/
def names : Pattern → List (List Char)
  | .atom _ | .flags _ | .set .. => []
  | .group (.capture (some name)) body => name :: body.names
  | .group _ body | .repetition _ _ body => body.names
  | .concat parts | .alternation parts => namesOf parts

/-- The names of the groups of several patterns. -/
def namesOf : List Pattern → List (List Char)
  | [] => []
  | part :: parts => part.names ++ namesOf parts

end

end Pattern

end AnnotationQuery.Regex
