import AnnotationQuery.Regex.Encoding
import AnnotationQuery.Regex.Normal

/-!
# How matches begin

Every match of a pattern begins with one of some byte sequences. Such a beginning is exact when it
is a whole match. Few and short beginnings are kept: where there would be too many, any sequence
counts as one, and beginnings that grow too long are cut and are no longer exact.

A pattern all of whose beginnings are exact is found by looking for them, without an automaton.

* `beginnings`: the beginnings of a pattern, in order of preference.
* `Normal.isSearch`: is the pattern found by looking for texts alone?
-/

namespace AnnotationQuery.Regex

open Unicode (CodeSet CodeRange)

/-- A byte sequence that a match may begin with. -/
structure Beginning where
  bytes : List Nat
  /-- Is the sequence a whole match? -/
  exact : Bool
deriving Repr, DecidableEq

/-- The beginnings of a pattern in order of preference, or nothing if any sequence may be one. -/
abbrev Beginnings := Option (List Beginning)

namespace Beginning

/-- The empty sequence as a whole match. -/
def empty : Beginning := ⟨[], true⟩

/-- At most so many bytes of a beginning. -/
def keepFirst (count : Nat) (b : Beginning) : Beginning :=
  if b.bytes.length ≤ count then b else ⟨b.bytes.take count, false⟩

/-- The beginning as one that is no whole match. -/
def inexact (b : Beginning) : Beginning := { b with exact := false }

/-- Puts a beginning in front of others; a neighbour with the same bytes is the same beginning, and
exact if both are. -/
def joined (b : Beginning) : List Beginning → List Beginning
  | [] => [b]
  | c :: rest =>
    if b.bytes = c.bytes then ⟨b.bytes, b.exact && c.exact⟩ :: rest else b :: c :: rest

/-- Beginnings without repeated neighbours. -/
def withoutRepeats (bs : List Beginning) : List Beginning :=
  bs.foldr joined []

/-- The beginnings that do not begin with an earlier one, behind those that are already kept. -/
def minimalAfter (kept : List Beginning) : List Beginning → List Beginning
  | [] => kept.reverse
  | b :: bs =>
    if kept.any (·.bytes.isPrefixOf b.bytes) then minimalAfter kept bs
    else minimalAfter (b :: kept) bs

/-- The beginnings that do not begin with an earlier one. -/
def minimal (bs : List Beginning) : List Beginning :=
  minimalAfter [] bs

/-- The length of the shortest beginning. -/
def shortest (bs : List Beginning) : Nat :=
  ((bs.map (·.bytes.length)).min?).getD 0

/-- The bytes that two sequences begin with alike. -/
def commonBytes : List Nat → List Nat → List Nat
  | a :: as, b :: bs => if a = b then a :: commonBytes as bs else []
  | _, _ => []

/-- The bytes that all beginnings begin with alike. -/
def commonOfAll : List Beginning → List Nat
  | [] => []
  | b :: bs => bs.foldl (fun bytes c => commonBytes bytes c.bytes) b.bytes

end Beginning

/-! ## Limits -/

/-- The greatest number of bytes of a beginning. -/
def beginningLimit : Nat := 100

/-- The greatest number of beginnings. -/
def beginningsLimit : Nat := 250

/-- The greatest number of characters of a set that is written out, and of copies of a part. -/
def copyLimit : Nat := 10

/-! ## Operations -/

namespace Beginnings

/-- The beginnings as such that are no whole matches. -/
def inexact (bs : Beginnings) : Beginnings :=
  bs.map (·.map Beginning.inexact)

/-- At most so many bytes of each beginning. -/
def keepFirst (count : Nat) (bs : Beginnings) : Beginnings :=
  bs.map (·.map (Beginning.keepFirst count))

/-- Is no beginning exact, so that nothing can be put behind one? -/
def isInexact (bs : Beginnings) : Bool :=
  match bs with
  | none => true
  | some bs => bs.all fun b => !b.exact

/-- The second beginnings, or any sequence if there were too many together. -/
def bounded (count : Nat → Nat → Nat) (bs cs : Beginnings) : Beginnings :=
  match bs, cs with
  | some bs', some cs' => if count bs'.length cs'.length > beginningsLimit then none else cs
  | _, _ => cs

/-- Puts beginnings behind others that are exact. -/
def append (bs cs : Beginnings) : Beginnings :=
  let all : Beginnings :=
    match bs, bounded (· * ·) bs cs with
    | none, _ => none
    | some bs, none =>
      if bs.any (·.bytes.isEmpty) then none else some (bs.map Beginning.inexact)
    | some bs, some cs =>
      some (Beginning.withoutRepeats (bs.flatMap fun b =>
        if b.exact then cs.map fun c => ⟨b.bytes ++ c.bytes, c.exact⟩ else [b]))
  all.keepFirst beginningLimit

/-- Beginnings of either kind, the first ones preferred. If there were too many together, short ones
are tried. -/
def alternative (bs cs : Beginnings) : Beginnings :=
  let shorten := fun (bs : Beginnings) => (bs.keepFirst 4).map Beginning.withoutRepeats
  let (bs, cs) :=
    if (bounded (· + ·) bs cs).isNone && bs.isSome then (shorten bs, bounded (· + ·) (shorten bs)
      (shorten cs))
    else (bs, cs)
  match bs, cs with
  | some bs, some cs => some (Beginning.withoutRepeats (bs ++ cs))
  | _, _ => none

/-- So many copies of beginnings, one behind the other. -/
def power (bs : Beginnings) : Nat → Beginnings → Beginnings
  | 0, front => front
  | count + 1, front => if front.isInexact then front else power bs count (front.append bs)

end Beginnings

/-! ## Beginnings of patterns -/

/-- The number of code points between the ends of the ranges. -/
def codeCount (ranges : List CodeRange) : Nat :=
  ranges.foldl (fun n r => n + (r.last + 1 - r.first)) 0

/-- The characters of a set as beginnings, if they are few. -/
def setBeginnings (s : CodeSet) : Beginnings :=
  if copyLimit < codeCount s.ranges then none
  else some (s.ranges.flatMap fun r =>
    (List.range (r.last + 1 - r.first)).map fun i => ⟨encoded (r.first + i), true⟩)

mutual

/-- The beginnings of a pattern. -/
def beginnings : Normal → Beginnings
  | .empty | .position _ => some [.empty]
  | .text chars => Beginnings.keepFirst beginningLimit (some [⟨encodedText chars, true⟩])
  | .set _ members => setBeginnings members
  | .capture body => beginnings body
  | .repetition bounds greedy body =>
    let inner := beginnings body
    if bounds.min = 0 then
      let inner := if bounds.max = some 1 then inner else inner.inexact
      if greedy then inner.alternative (some [.empty])
      else Beginnings.alternative (some [.empty]) inner
    else
      let all := inner.power (min bounds.min copyLimit) (some [.empty])
      if bounds.max = some bounds.min ∧ bounds.min ≤ copyLimit then all else all.inexact
  | .sequence parts => sequenceBeginnings parts (some [.empty])
  | .choice branches => choiceBeginnings branches (some [])

/-- The beginnings of a sequence behind some beginnings. -/
def sequenceBeginnings : List Normal → Beginnings → Beginnings
  | [], front => front
  | part :: parts, front =>
    if front.isInexact then front else sequenceBeginnings parts (front.append (beginnings part))

/-- The beginnings of a choice besides some beginnings. -/
def choiceBeginnings : List Normal → Beginnings → Beginnings
  | [], others => others
  | branch :: branches, others =>
    if others.isNone then others
    else choiceBeginnings branches (others.alternative (beginnings branch))

end

/-! ## Selection -/

/-- How common a byte is in text, by rank, from the byte 0 on; bytes behind the last are the most
common. -/
def byteRanks : List Nat :=
  [55, 52, 51, 50, 49, 48, 47, 46, 45, 103, 242, 66, 67, 229, 44, 43, 42, 41, 40, 39, 38, 37, 36,
   35, 34, 33, 56, 32, 31, 30, 29, 28, 255, 148, 164, 149, 136, 160, 155, 173, 221, 222, 134, 122,
   232, 202, 215, 224, 208, 220, 204, 187, 183, 179, 177, 168, 178, 200, 226, 195, 154, 184, 174,
   126, 120, 191, 157, 194, 170, 189, 162, 161, 150, 193, 142, 137, 171, 176, 185, 167, 186, 112,
   175, 192, 188, 156, 140, 143, 123, 133, 128, 147, 138, 146, 114, 223, 151, 249, 216, 238, 236,
   253, 227, 218, 230, 247, 135, 180, 241, 233, 246, 244, 231, 139, 245, 243, 251, 235, 201, 196,
   240, 214, 152, 182, 205, 181, 127, 27, 212, 211, 210, 213, 228, 197, 169, 159, 131, 172, 105,
   80, 98, 96, 97, 81, 207, 145, 116, 115, 144, 130, 153, 121, 107, 132, 109, 110, 124, 111, 82,
   108, 118, 141, 113, 129, 119, 125, 165, 117, 92, 106, 83, 72, 99, 93, 65, 79, 166, 237, 163,
   199, 190, 225, 209, 203, 198, 217, 219, 206, 234, 248, 158, 239]

/-- The rank of a byte. -/
def byteRank (byte : Nat) : Nat :=
  byteRanks.getD byte 255

/-- Is the beginning so common that looking for it does not help? -/
def Beginning.isCommon (b : Beginning) : Bool :=
  match b.bytes with
  | [] => true
  | [byte] => 250 ≤ byteRank byte
  | _ => false

/-- How beginnings are shortened where there are more than so many: the bytes to keep, and the
number. -/
def shortenings : List (Nat × Nat) :=
  [(5, 10), (4, 10), (3, 64), (2, 64), (1, 10)]

/-- Shortens beginnings until they are few. -/
def shortened : List (Nat × Nat) → List Beginning → List Beginning
  | [], bs => bs
  | (keep, limit) :: rest, bs =>
    if bs.length ≤ limit then bs
    else shortened rest (Beginning.minimal (bs.map (Beginning.keepFirst keep)))

/-- The beginnings, short and few if they are not exact anyway or if that makes them good to look
for; exact ones otherwise. -/
def selectedFrom (bs : List Beginning) : Beginnings :=
  let few := shortened shortenings bs
  let good := !few.any Beginning.isCommon
  if bs.all (·.exact) then
    if good && 2 < Beginning.shortest few && few.length ≤ 64 then some few else some bs
  else if good then some few else none

/-- The beginnings that are looked for. What all begin with is enough if it is rare or long. -/
def selected (bs : Beginnings) : Beginnings :=
  match bs with
  | none => none
  | some all =>
    if all.any (·.bytes.isEmpty) then none
    else
      let bs := Beginning.minimal all
      let front := Beginning.commonOfAll bs
      let isFew := bs.all (·.exact) && bs.length ≤ 16
      if 1 < all.length ∧ 1 ≤ front.length ∧ front.length ≤ 3 ∧ byteRank (front.headD 0) < 200 then
        some (Beginning.withoutRepeats (bs.map (Beginning.keepFirst 1)))
      else if 4 < front.length ∨ (1 < front.length ∧ !isFew) then
        selectedFrom
          (Beginning.withoutRepeats (bs.map (Beginning.keepFirst front.length)))
      else selectedFrom bs

namespace Normal

/-- Is the pattern a choice between a great many texts? -/
def isTextTable : Normal → Bool
  | .choice branches => 3000 ≤ branches.length && branches.all fun
    | .text _ => true
    | _ => false
  | _ => false

/-- Is the pattern found by looking for texts alone? Places and groups need an automaton. -/
def isSearch (n : Normal) : Bool :=
  n.isPlain &&
    ((match selected (beginnings n) with
      | some bs => !bs.isEmpty && bs.all fun b => b.exact && !b.bytes.isEmpty
      | none => false) || n.isTextTable)

end Normal

end AnnotationQuery.Regex
