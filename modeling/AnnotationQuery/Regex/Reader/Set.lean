import AnnotationQuery.Regex.Reader.Atom

/-!
# Reading sets of characters in brackets

Dashes in front of a set, a dash behind it and a closing bracket that would leave it empty stand for
themselves. Sets nest, and operations group to the left.
-/

namespace AnnotationQuery.Regex

open Unicode (CodeSet)

/-! ## Named sets of ASCII characters -/

/-- The set of several ranges of characters. -/
def ofCharRanges (ranges : List (Char × Char)) : CodeSet :=
  .ofRanges (ranges.map fun (first, last) => ⟨first.toNat, last.toNat⟩)

/-- The named sets of ASCII characters. -/
def asciiSets : List (List Char × CodeSet) :=
  [("alnum".toList, ofCharRanges [('0', '9'), ('A', 'Z'), ('a', 'z')]),
   ("alpha".toList, ofCharRanges [('A', 'Z'), ('a', 'z')]),
   ("ascii".toList, ofCharRanges [('\x00', '\x7f')]),
   ("blank".toList, ofCharRanges [('\t', '\t'), (' ', ' ')]),
   ("cntrl".toList, ofCharRanges [('\x00', '\x1f'), ('\x7f', '\x7f')]),
   ("digit".toList, ofCharRanges [('0', '9')]),
   ("graph".toList, ofCharRanges [('!', '~')]),
   ("lower".toList, ofCharRanges [('a', 'z')]),
   ("print".toList, ofCharRanges [(' ', '~')]),
   ("punct".toList, ofCharRanges [('!', '/'), (':', '@'), ('[', '\x60'), ('\x7b', '~')]),
   ("space".toList, ofCharRanges [('\t', '\r'), (' ', ' ')]),
   ("upper".toList, ofCharRanges [('A', 'Z')]),
   ("word".toList, ofCharRanges [('0', '9'), ('A', 'Z'), ('_', '_'), ('a', 'z')]),
   ("xdigit".toList, ofCharRanges [('0', '9'), ('A', 'F'), ('a', 'f')])]

/-- Reads a named set behind its opening bracket, as in `:alpha:]`. Any other text is not one. -/
def readAscii? (cs : List Char) : Option (CharSet × List Char) :=
  match cs with
  | ':' :: cs =>
    let (negated, cs) := match cs with
      | '^' :: rest => (true, rest)
      | _ => (false, cs)
    match cs.span (· != ':') with
    | (name, ':' :: ']' :: rest) =>
      (asciiSets.lookup name).map fun members => (.ascii negated members, rest)
    | _ => none
  | _ => none

/-! ## Sets -/

namespace CharSet

/-- The set of several parts; one part stands for itself. -/
def ofParts : List CharSet → CharSet
  | [part] => part
  | parts => .union parts

/-- Adds the right side of an operation that waits for it, if one does. -/
def complete (waiting : Option (SetOperator × CharSet)) (right : CharSet) : CharSet :=
  match waiting with
  | some (operator, left) => .operation operator left right
  | none => right

end CharSet

/-- The character that decides whether a dash makes a range: the next one, in verbose mode behind
blanks and the mark of a comment. -/
def peekBehind (verbose : Bool) (cs : List Char) : Option Char :=
  if verbose then
    match cs.dropWhile Text.isBlank with
    | '#' :: rest => (rest.dropWhile Text.isBlank).head?.or cs.head?
    | rest => rest.head?.or cs.head?
  else cs.head?

/-- Reads one character, or an escape, inside a set. -/
def readMember (verbose : Bool) : List Char → Option (Atom × List Char)
  | [] => none
  | '\\' :: rest => readEscape verbose rest
  | c :: rest => some (.literal (.char c), rest)

/-- Is it a place between characters? -/
def Atom.isAnchor : Atom → Bool
  | .anchor _ => true
  | _ => false

/-- Reads a member of a set or a range of members. Places between characters are no members, and
ranges lead from one literal to another that is not before it. -/
def readRange (verbose : Bool) (cs : List Char) : Option (CharSet × List Char) := do
  let (first, rest) ← readMember verbose cs
  match skip verbose rest with
  | '-' :: rest =>
    if peekBehind verbose rest ∈ [some ']', some '-'] then
      if first.isAnchor then none else some (.atom first, '-' :: rest)
    else
      match first, ← readMember verbose (skip verbose rest) with
      | .literal a, (.literal b, rest) =>
        if a.point ≤ b.point then some (.range a b, rest) else none
      | _, _ => none
  | rest => if first.isAnchor then none else some (.atom first, rest)

/-- Reads what stands directly behind an opening bracket: whether the set is negated, and the
members that can only stand there. -/
def readOpening (verbose : Bool) (cs : List Char) : Bool × List CharSet × List Char :=
  let cs := skip verbose cs
  let (negated, cs) := match cs with
    | '^' :: rest => (true, skip verbose rest)
    | _ => (false, cs)
  let (dashes, cs) := spread verbose (· == '-') cs
  match dashes, cs with
  | [], ']' :: rest => (negated, [.atom (.literal (.char ']'))], skip verbose rest)
  | _, _ => (negated, dashes.map fun c => .atom (.literal (.char c)), cs)

/-- Reads the rest of a set up to its closing bracket, behind an operation that waits for its right
side and behind parts in reverse. Each step takes a character, so that the fuel suffices when it
exceeds the length of the text. -/
def readSet (verbose : Bool) : Nat → Option (SetOperator × CharSet) → List CharSet → List Char →
    Option (CharSet × List Char)
  | 0, _, _, _ => none
  | fuel + 1, waiting, parts, cs =>
    let whole := CharSet.complete waiting (.ofParts parts.reverse)
    match skip verbose cs with
    | [] => none
    | ']' :: rest => some (whole, rest)
    | '&' :: '&' :: rest => readSet verbose fuel (some (.intersection, whole)) [] rest
    | '-' :: '-' :: rest => readSet verbose fuel (some (.difference, whole)) [] rest
    | '~' :: '~' :: rest => readSet verbose fuel (some (.symmetricDifference, whole)) [] rest
    | '[' :: rest =>
      match readAscii? rest with
      | some (part, rest) => readSet verbose fuel waiting (part :: parts) rest
      | none => do
        let (negated, opening, rest) := readOpening verbose rest
        let (inner, rest) ← readSet verbose fuel none opening.reverse rest
        readSet verbose fuel waiting (.bracketed negated inner :: parts) rest
    | cs => do
      let (part, rest) ← readRange verbose cs
      readSet verbose fuel waiting (part :: parts) rest

end AnnotationQuery.Regex
