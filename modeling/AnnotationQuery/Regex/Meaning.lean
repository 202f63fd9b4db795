import AnnotationQuery.Regex.Normal

/-!
# The meaning of match patterns

Flags decide what the parts of a pattern mean. Where Unicode is switched off, a set is a set of
bytes; since a pattern must match whole characters only, such a set may hold ASCII characters alone,
and neither the dot nor a negated set nor a property has a meaning.

* `CharSet.members?`: the members of a set in brackets, if it has a meaning.
* `Pattern.normal?`: the normal form of a pattern, if it has a meaning.
-/

namespace AnnotationQuery.Regex

open Unicode (CodeSet)

/-- The flags that decide about the meaning. -/
structure Mode where
  ignoreCase : Bool
  multiLine : Bool
  dotAll : Bool
  swapGreed : Bool
  unicode : Bool
  carriageReturn : Bool
deriving Repr, DecidableEq

/-- The mode at the start of a pattern. -/
def Mode.initial : Mode :=
  { ignoreCase := false, multiLine := false, dotAll := false, swapGreed := false, unicode := true,
    carriageReturn := false }

/-- The mode after a change of flags. -/
def Mode.change (mode : Mode) (change : FlagChange) : Mode :=
  { ignoreCase := change.apply .ignoreCase mode.ignoreCase
    multiLine := change.apply .multiLine mode.multiLine
    dotAll := change.apply .dotAll mode.dotAll
    swapGreed := change.apply .swapGreed mode.swapGreed
    unicode := change.apply .unicode mode.unicode
    carriageReturn := change.apply .carriageReturn mode.carriageReturn }

/-- The mode inside a group. -/
def Mode.enter (mode : Mode) : GroupKind → Mode
  | .capture _ => mode
  | .plain change => mode.change change

/-! ## Sets -/

/-- The members of a shorthand. -/
def Shorthand.members : Shorthand → CodeSet
  | digit => Unicode.decimalDigits
  | space => Unicode.blanks
  | word => Unicode.wordCharacters

/-- The ASCII members of a shorthand. -/
def Shorthand.asciiMembers : Shorthand → CodeSet
  | digit => .ofRanges [⟨0x30, 0x39⟩]
  | space => .ofRanges [⟨0x09, 0x0D⟩, ⟨0x20, 0x20⟩]
  | word => .ofRanges [⟨0x30, 0x39⟩, ⟨0x41, 0x5A⟩, ⟨0x5F, 0x5F⟩, ⟨0x61, 0x7A⟩]

/-- The set with all letters that differ from a member by case, if case is ignored. -/
def Mode.fold (mode : Mode) (s : CodeSet) : CodeSet :=
  if mode.ignoreCase then (if mode.unicode then s.folded else s.asciiFolded) else s

/-- The set or what it leaves, behind folding. A set of bytes that is negated holds bytes that are
no ASCII characters. -/
def Mode.close? (mode : Mode) (negated : Bool) (s : CodeSet) : Option CodeSet :=
  if negated then (if mode.unicode then some (mode.fold s).complement else none)
  else some (mode.fold s)

/-- The members of a shorthand or of what it leaves. -/
def Mode.shorthand? (mode : Mode) (negated : Bool) (set : Shorthand) : Option CodeSet :=
  if mode.unicode then some (if negated then set.members.complement else set.members)
  else if negated then none else some set.asciiMembers

/-- The members of a property or of what it leaves. -/
def Mode.property? (mode : Mode) (negated : Bool) (query : PropertyQuery) : Option CodeSet :=
  if mode.unicode then query.members?.bind (mode.close? negated) else none

/-- The code point of a literal inside a set. -/
def Mode.member? (mode : Mode) (l : Literal) : Option Nat :=
  if mode.unicode || l.point < 0x80 then some l.point else none

/-- The operation on sets. -/
def SetOperator.apply : SetOperator → CodeSet → CodeSet → CodeSet
  | intersection => .inter
  | difference => .diff
  | symmetricDifference => .symmDiff

namespace CharSet

mutual

/-- The members of what stands between brackets, if it has a meaning. -/
def members? (mode : Mode) : CharSet → Option CodeSet
  | .atom (.literal l) => (mode.member? l).map .single
  | .atom (.shorthand negated set) => mode.shorthand? negated set
  | .atom (.property negated query) => mode.property? negated query
  | .atom _ => none
  | .range first last => do some (.interval (← mode.member? first) (← mode.member? last))
  | .ascii negated members => mode.close? negated members
  | .bracketed negated inner => (members? mode inner).bind (mode.close? negated)
  | .union parts => (membersOf? mode parts).map .unionAll
  | .operation operator left right => do
    some (operator.apply (mode.fold (← members? mode left)) (mode.fold (← members? mode right)))

/-- The members of each of several sets. -/
def membersOf? (mode : Mode) : List CharSet → Option (List CodeSet)
  | [] => some []
  | part :: parts => do some ((← members? mode part) :: (← membersOf? mode parts))

end

end CharSet

/-! ## Atoms -/

/-- All characters but the ends of lines, if these do not count as characters. -/
def Mode.anyMembers (mode : Mode) : CodeSet :=
  if mode.dotAll then .full
  else if mode.carriageReturn then .ofListing ["0-9 B-C E-10FFFF"]
  else .ofListing ["0-9 B-10FFFF"]

/-- The place that an anchor stands for. -/
def Mode.position (mode : Mode) : Anchor → Position
  | .caret => if mode.multiLine then .lineStart mode.carriageReturn else .textStart
  | .dollar => if mode.multiLine then .lineEnd mode.carriageReturn else .textEnd
  | .textStart => .textStart
  | .textEnd => .textEnd
  | .word edge => .word edge mode.unicode

/-- The normal form of a literal, if it has a meaning. A byte above ASCII is no character where
Unicode is switched off. -/
def Literal.normal? (mode : Mode) (l : Literal) : Option Normal :=
  match l with
  | .byte value =>
    if mode.unicode || value < 0x80 then
      some (.ofSet (!mode.unicode) (mode.fold (.single value)))
    else none
  | .char c =>
    if mode.unicode || c.toNat < 0x80 then
      some (.ofSet (!mode.unicode) (mode.fold (.single c.toNat)))
    else some (.text [c])

/-- The normal form of an atom, if it has a meaning. -/
def Atom.normal? (mode : Mode) : Atom → Option Normal
  | .literal l => l.normal? mode
  | .any => if mode.unicode then some (.ofSet false mode.anyMembers) else none
  | .anchor a => some (.position (mode.position a))
  | .shorthand negated set => (mode.shorthand? negated set).map (.ofSet (!mode.unicode))
  | .property negated query => (mode.property? negated query).map (.ofSet false)

/-! ## Patterns -/

namespace Pattern

mutual

/-- The mode behind a pattern and the normal form of the pattern, if it has a meaning. -/
def normalIn? (mode : Mode) : Pattern → Option (Mode × Normal)
  | .atom a => (a.normal? mode).map (mode, ·)
  | .set negated inner =>
    ((inner.members? mode).bind (mode.close? negated)).map fun s => (mode, .ofSet (!mode.unicode) s)
  | .flags change => some (mode.change change, .empty)
  | .group kind body => do
    let (_, inner) ← normalIn? (mode.enter kind) body
    match kind with
    | .capture _ => some (mode, .capture inner)
    | .plain _ => some (mode, inner)
  | .repetition bounds greedy body => do
    let (mode, inner) ← normalIn? mode body
    some (mode, inner.repeated bounds (greedy != mode.swapGreed))
  | .concat parts => do
    let (mode, normals) ← normalsIn? mode parts
    some (mode, .ofParts normals)
  | .alternation branches => do
    let (mode, normals) ← normalsIn? mode branches
    some (mode, .ofBranches normals)

/-- The mode behind several patterns and their normal forms. -/
def normalsIn? (mode : Mode) : List Pattern → Option (Mode × List Normal)
  | [] => some (mode, [])
  | part :: parts => do
    let (mode, first) ← normalIn? mode part
    let (mode, rest) ← normalsIn? mode parts
    some (mode, first :: rest)

end

/-- The normal form of a pattern, if it has a meaning. -/
def normal? (pattern : Pattern) : Option Normal :=
  (normalIn? .initial pattern).map (·.2)

end Pattern

end AnnotationQuery.Regex
