import AnnotationQuery.Regex.Reader.Set
import AnnotationQuery.Text.Letter

/-!
# Reading match patterns

A pattern is a choice of sequences. Flags that are switched between two parts hold to the end of the
group, in later alternatives too; flags of a group hold inside it.

* `Pattern.read?`: the pattern that a text writes, if it writes one.
-/

namespace AnnotationQuery.Regex

/-! ## Groups -/

/-- Reads the letters of a change of flags: those to switch on and, behind a dash, those to switch
off, each at most once. -/
def FlagChange.read? (letters : List Char) : Option FlagChange := do
  let (on, off) := letters.span (· != '-')
  let on ← on.mapM Flag.ofChar?
  let off ← match off with
    | [] => some []
    | [_] => none
    | _ :: off => off.mapM Flag.ofChar?
  if (on ++ off).Nodup then some ⟨on, off⟩ else none

/-- Reads the name of a group up to its closing bracket. -/
def readName? (cs : List Char) : Option (List Char × List Char) :=
  match cs.span (· != '>') with
  | (c :: name, _ :: rest) =>
    if (c == '_' || Text.isAlphabetic c) &&
        name.all (fun c => c ∈ ['_', '.', '[', ']'] || Text.isAlphanumeric c) then
      some (c :: name, rest)
    else none
  | _ => none

/-- What an opening parenthesis begins. -/
inductive Opening where
  | group (kind : GroupKind)
  /-- A change of flags, already closed. -/
  | flags (change : FlagChange)
deriving Repr, DecidableEq

/-- Reads what stands behind an opening parenthesis up to the body of the group. Conditions on what
is ahead or behind are no groups. -/
def readGroup? (cs : List Char) : Option (Opening × List Char) :=
  match cs with
  | '?' :: '=' :: _ | '?' :: '!' :: _ | '?' :: '<' :: '=' :: _ | '?' :: '<' :: '!' :: _ => none
  | '?' :: 'P' :: '<' :: rest | '?' :: '<' :: rest =>
    (readName? rest).map fun (name, rest) => (.group (.capture (some name)), rest)
  | '?' :: rest => do
    let (letters, rest) := rest.span fun c => c != ':' && c != ')'
    let change ← FlagChange.read? letters
    match rest with
    | ':' :: rest => some (.group (.plain change), rest)
    | ')' :: rest => if letters.isEmpty then none else some (.flags change, rest)
    | _ => none
  | rest => some (.group (.capture none), rest)

/-- Is verbose mode on inside the group? -/
def GroupKind.verbose (kind : GroupKind) (outside : Bool) : Bool :=
  match kind with
  | .capture _ => outside
  | .plain change => change.apply .verbose outside

/-! ## Patterns -/

/-- Reads the mark of a lazy repetition, if it is there: whether the repetition is greedy, and the
rest. -/
def readGreed : List Char → Bool × List Char
  | '?' :: rest => (false, rest)
  | rest => (true, rest)

namespace Pattern

/-- Repeats the last of the parts, which stand in reverse. Changes of flags cannot be repeated. -/
def repeated (bounds : Bounds) (greedy : Bool) : List Pattern → Option (List Pattern)
  | [] | .flags _ :: _ => none
  | part :: parts => if bounds.isValid then some (.repetition bounds greedy part :: parts) else none

/-- The choice between sequences. Branches and the parts of the last one stand in reverse. -/
def ofBranches (branches : List Pattern) (parts : List Pattern) : Pattern :=
  match branches with
  | [] => .concat parts.reverse
  | _ => .alternation (.concat parts.reverse :: branches).reverse

/-- The bounds of a repetition mark. -/
def markBounds? : Char → Option Bounds
  | '?' => some ⟨0, some 1⟩
  | '*' => some ⟨0, none⟩
  | '+' => some ⟨1, none⟩
  | _ => none

/-- Reads one part that is neither a group nor a set. -/
def readAtom (verbose : Bool) : List Char → Option (Atom × List Char)
  | [] => none
  | c :: rest =>
    if c = '\\' then readEscape verbose rest
    else if c = '.' then some (.any, rest)
    else if c = '^' then some (.anchor .caret, rest)
    else if c = '$' then some (.anchor .dollar, rest)
    else some (.literal (.char c), rest)

/-- Reads a choice up to the end of the text or an unmatched closing parenthesis, behind branches
and parts in reverse. Each step takes a character, so that the fuel suffices when it exceeds the
length of the text. -/
def readBranches : Nat → Bool → List Pattern → List Pattern → List Char →
    Option (Pattern × List Char)
  | 0, _, _, _, _ => none
  | fuel + 1, verbose, branches, parts, cs =>
    match skip verbose cs with
    | [] => some (ofBranches branches parts, [])
    | c :: rest =>
      if c = ')' then some (ofBranches branches parts, c :: rest)
      else if c = '|' then readBranches fuel verbose (.concat parts.reverse :: branches) [] rest
      else if c = '(' then do
        match ← readGroup? (skip verbose rest) with
        | (.flags change, rest) =>
          readBranches fuel (change.apply .verbose verbose) branches (.flags change :: parts) rest
        | (.group kind, rest) =>
          match ← readBranches fuel (kind.verbose verbose) [] [] rest with
          | (body, _ :: rest) => readBranches fuel verbose branches (.group kind body :: parts) rest
          | (_, []) => none
      else if c = '[' then do
        let (negated, opening, rest) := readOpening verbose rest
        let (inner, rest) ← readSet verbose fuel none opening.reverse rest
        readBranches fuel verbose branches (.set negated inner :: parts) rest
      else if c = '\x7b' then do
        let (bounds, rest) ← readBounds verbose rest
        let (greedy, rest) := readGreed (skip verbose rest)
        readBranches fuel verbose branches (← repeated bounds greedy parts) rest
      else if let some bounds := markBounds? c then do
        let (greedy, rest) := readGreed rest
        readBranches fuel verbose branches (← repeated bounds greedy parts) rest
      else do
        let (a, rest) ← readAtom verbose (c :: rest)
        readBranches fuel verbose branches (.atom a :: parts) rest

/-- The pattern that a text writes, if it writes one: no parenthesis is unmatched and no two groups
share a name. -/
def read? (text : String) : Option Pattern :=
  let cs := text.toList
  match readBranches (cs.length + 1) false [] [] cs with
  | some (pattern, []) => if pattern.names.Nodup then some pattern else none
  | _ => none

end Pattern

end AnnotationQuery.Regex
