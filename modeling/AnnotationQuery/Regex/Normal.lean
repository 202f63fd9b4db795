import AnnotationQuery.Regex.Basic

/-!
# Match patterns in normal form

What a pattern means once flags, escapes and names are gone: sequences and choices are flat, texts
that stand side by side are one text, a choice between sets is a set, and what the branches of a
choice begin with alike stands in front of the choice.

* `Normal.ofSet`, `repeated`, `ofParts`, `ofBranches`: normal forms of compound patterns.
* `Normal.minLength?`, `maxLength?`: the length of what a pattern matches, in bytes of UTF-8.
-/

namespace AnnotationQuery.Regex

open Unicode (CodeSet)

/-! ## Places between characters -/

/-- Places between characters. -/
inductive Position where
  | textStart
  | textEnd
  /-- Behind a line end or at the start of the text, where a carriage return may end a line. -/
  | lineStart (carriageReturn : Bool)
  | lineEnd (carriageReturn : Bool)
  /-- A place at words of Unicode characters or of ASCII characters. -/
  | word (edge : WordEdge) (unicode : Bool)
deriving Repr, DecidableEq

/-! ## Normal forms -/

/-- A pattern in normal form. -/
inductive Normal where
  /-- The empty text. -/
  | empty
  | text (chars : List Char)
  /-- One character of a set, where Unicode is switched off or where it is not. -/
  | set (bytes : Bool) (members : CodeSet)
  | position (place : Position)
  | repetition (bounds : Bounds) (greedy : Bool) (body : Normal)
  | capture (body : Normal)
  | sequence (parts : List Normal)
  | choice (branches : List Normal)
deriving Repr

namespace Normal

mutual

/-- Do two patterns without groups agree in every part? Two groups are never the same. -/
def agrees : Normal → Normal → Bool
  | .empty, .empty => true
  | .text a, .text b => a == b
  | .set bytes a, .set bytes' b => bytes == bytes' && a == b
  | .position a, .position b => a == b
  | .repetition bounds greedy a, .repetition bounds' greedy' b =>
    bounds == bounds' && greedy == greedy' && agrees a b
  | .sequence as, .sequence bs => agreesAll as bs
  | .choice as, .choice bs => agreesAll as bs
  | _, _ => false

/-- Do the patterns of two lists agree one by one? -/
def agreesAll : List Normal → List Normal → Bool
  | [], [] => true
  | a :: as, b :: bs => agrees a b && agreesAll as bs
  | _, _ => false

end

mutual

/-- The number of patterns inside a pattern. -/
def size : Normal → Nat
  | .empty | .text _ | .set .. | .position _ => 1
  | .repetition _ _ body | .capture body => body.size + 1
  | .sequence parts | .choice parts => sizes parts + 1

/-- The number of patterns inside several patterns. -/
def sizes : List Normal → Nat
  | [] => 0
  | part :: parts => part.size + sizes parts

end

/-! ## Length -/

/-- The number of bytes of a code point in UTF-8. -/
def byteLength (point : Nat) : Nat :=
  if point < 0x80 then 1 else if point < 0x800 then 2 else if point < 0x10000 then 3 else 4

/-- The number of bytes of a text in UTF-8. -/
def textLength (chars : List Char) : Nat :=
  chars.foldl (fun n c => n + byteLength c.toNat) 0

mutual

/-- The length of the shortest text that the pattern may match; a set without members has none. -/
def minLength? : Normal → Option Nat
  | .empty | .position _ => some 0
  | .text chars => some (textLength chars)
  | .set _ members => members.ranges.head?.map fun r => byteLength r.first
  | .repetition bounds _ body => body.minLength?.map (· * bounds.min)
  | .capture body => body.minLength?
  | .sequence parts => minTotal? parts
  | .choice branches => minLeast? branches

/-- The sum of the lengths. -/
def minTotal? : List Normal → Option Nat
  | [] => some 0
  | part :: parts => do some ((← part.minLength?) + (← minTotal? parts))

/-- The least of the lengths. -/
def minLeast? : List Normal → Option Nat
  | [] => none
  | [branch] => branch.minLength?
  | branch :: branches => do some (min (← branch.minLength?) (← minLeast? branches))

end

mutual

/-- The length of the longest text that the pattern may match, if there is one. -/
def maxLength? : Normal → Option Nat
  | .empty | .position _ => some 0
  | .text chars => some (textLength chars)
  | .set _ members => members.ranges.getLast?.map fun r => byteLength r.last
  | .repetition bounds _ body => do some ((← body.maxLength?) * (← bounds.max))
  | .capture body => body.maxLength?
  | .sequence parts => maxTotal? parts
  | .choice branches => maxMost? branches

/-- The sum of the lengths. -/
def maxTotal? : List Normal → Option Nat
  | [] => some 0
  | part :: parts => do some ((← part.maxLength?) + (← maxTotal? parts))

/-- The greatest of the lengths. -/
def maxMost? : List Normal → Option Nat
  | [] => none
  | [branch] => branch.maxLength?
  | branch :: branches => do some (max (← branch.maxLength?) (← maxMost? branches))

end

/-- Does the pattern match the empty text alone? -/
def isBlank (n : Normal) : Bool :=
  n.maxLength? == some 0

/-- Is every text that the pattern matches longer than the empty one? -/
def advances (n : Normal) : Bool :=
  n.minLength?.any (0 < ·)

/-! ## Places and groups -/

mutual

/-- Does a text that the pattern matches always begin at this place? -/
def opensAt (place : Position) : Normal → Bool
  | .empty | .text _ | .set .. => false
  | .position p => p == place
  | .repetition bounds _ body => bounds.min != 0 && body.opensAt place
  | .capture body => body.opensAt place
  | .sequence parts => opensSomeAt place parts
  | .choice branches => opensAllAt place branches

/-- Does one of the parts up to the first that takes characters begin at this place? -/
def opensSomeAt (place : Position) : List Normal → Bool
  | [] => false
  | part :: parts => part.opensAt place || (part.isBlank && opensSomeAt place parts)

/-- Do all branches begin at this place? -/
def opensAllAt (place : Position) : List Normal → Bool
  | [] => true
  | branch :: branches => branch.opensAt place && opensAllAt place branches

end

mutual

/-- Does a text that the pattern matches always end at this place? -/
def closesAt (place : Position) : Normal → Bool
  | .empty | .text _ | .set .. => false
  | .position p => p == place
  | .repetition bounds _ body => bounds.min != 0 && body.closesAt place
  | .capture body => body.closesAt place
  | .sequence parts => (closingAt place parts).1
  | .choice branches => closesAllAt place branches

/-- Does one of the parts from the last that takes characters on end at this place, and do all the
parts match the empty text alone? -/
def closingAt (place : Position) : List Normal → Bool × Bool
  | [] => (false, true)
  | part :: parts =>
    let (closes, blank) := closingAt place parts
    (closes || (blank && part.closesAt place), blank && part.isBlank)

/-- Do all branches end at this place? -/
def closesAllAt (place : Position) : List Normal → Bool
  | [] => true
  | branch :: branches => branch.closesAt place && closesAllAt place branches

end

mutual

/-- Is the pattern free of places and groups? -/
def isPlain : Normal → Bool
  | .empty | .text _ | .set .. => true
  | .position _ | .capture _ => false
  | .repetition _ _ body => body.isPlain
  | .sequence parts | .choice parts => arePlain parts

/-- Are the patterns free of places and groups? -/
def arePlain : List Normal → Bool
  | [] => true
  | part :: parts => part.isPlain && arePlain parts

end

/-! ## Construction -/

/-- The pattern that matches nothing. -/
def nothing : Normal := .set true .empty

/-- One character of a set. A set of one character is that character. -/
def ofSet (bytes : Bool) (members : CodeSet) : Normal :=
  if members.isEmpty then nothing
  else match members.single? with
    | some point => .text [Char.ofNat point]
    | none => .set bytes members

/-- A repetition. What matches the empty text alone is not repeated. -/
def repeated (bounds : Bounds) (greedy : Bool) (body : Normal) : Normal :=
  let bounds :=
    if body.isBlank then ⟨min bounds.min 1, some (min (bounds.max.getD 1) 1)⟩ else bounds
  if bounds = ⟨0, some 0⟩ then .empty
  else if bounds = ⟨1, some 1⟩ then body
  else .repetition bounds greedy body

/-- The parts of a pattern that is a sequence. -/
def parts : Normal → List Normal
  | .empty => []
  | .sequence parts => parts
  | n => [n]

/-- Puts a pattern in front of others, and a text together with the text behind it. -/
def joined : Normal → List Normal → List Normal
  | .text a, .text b :: rest => .text (a ++ b) :: rest
  | n, rest => n :: rest

/-- The sequence of some patterns. -/
def ofParts (patterns : List Normal) : Normal :=
  match (patterns.flatMap parts).foldr joined [] with
  | [] => .empty
  | [n] => n
  | ns => .sequence ns

/-- The branches of a pattern that is a choice. -/
def branches : Normal → List Normal
  | .choice branches => branches
  | n => [n]

/-- The only character of a text of one character. -/
def char? : Normal → Option Char
  | .text [c] => some c
  | _ => none

/-- The members of a set. -/
def members? : Normal → Option CodeSet
  | .set _ members => some members
  | _ => none

/-- The parts of a sequence of several parts. -/
def parts? : Normal → Option (List Normal)
  | .sequence parts => some parts
  | _ => none

/-- The number of parts that two sequences begin with alike. -/
def common : List Normal → List Normal → Nat
  | a :: as, b :: bs => if a.agrees b then common as bs + 1 else 0
  | _, _ => 0

/-- The number of parts that all sequences begin with alike. -/
def commonOfAll : List (List Normal) → Nat
  | [] => 0
  | first :: others => others.foldl (fun n other => min n (common first other)) first.length

/-- The choice between some patterns. Choices of characters and of sets are sets, and what all
branches begin with stands in front. Each step into what is left behind a common beginning has less
to look at, so that the fuel suffices when it exceeds the size of the patterns. -/
def ofBranchesWith : Nat → List Normal → Normal
  | 0, patterns => .choice patterns
  | fuel + 1, patterns =>
    match patterns.flatMap branches with
    | [] => nothing
    | [n] => n
    | ns =>
      if let some chars := ns.mapM char? then
        ofSet false (.ofRanges (chars.map fun c => ⟨c.toNat, c.toNat⟩))
      else if let some sets := ns.mapM members? then
        ofSet false (.unionAll sets)
      else match ns.mapM parts? with
        | none => .choice ns
        | some sequences =>
          let n := commonOfAll sequences
          if n = 0 then .choice ns
          else
            let rests := sequences.map fun sequence => ofParts (sequence.drop n)
            ofParts ((sequences.headD []).take n ++ [ofBranchesWith fuel rests])

/-- The choice between some patterns. -/
def ofBranches (patterns : List Normal) : Normal :=
  ofBranchesWith (sizes patterns + 1) patterns

end Normal

end AnnotationQuery.Regex
