import AnnotationQuery.Text.Hexadecimal

/-!
# Sets of code points

A set of characters is the list of its ranges of code points, in rising order and with gaps between
them. Code points between U+D800 and U+DFFF, the surrogates, are no characters: a range may lead
across them, and the neighbours on both sides of them follow each other.

* `CodeSet.ofRanges`, `CodeSet.ofListing`: the set of some ranges, however they lie.
* `CodeSet.union`, `inter`, `diff`, `symmDiff`, `complement`: operations on sets.
* `contains_ofRanges`: the set of some ranges holds what one of the ranges holds.
-/

namespace AnnotationQuery.Unicode

/-- The last code point. -/
def lastPoint : Nat := 0x10FFFF

/-- The code point behind another one. -/
def next (point : Nat) : Nat :=
  if point = 0xD7FF then 0xE000 else point + 1

/-- The code point in front of another one. -/
def previous (point : Nat) : Nat :=
  if point = 0xE000 then 0xD7FF else point - 1

/-! ## Ranges -/

/-- The code points from the first to the last one. -/
structure CodeRange where
  first : Nat
  last : Nat
deriving Repr, DecidableEq

namespace CodeRange

def contains (r : CodeRange) (point : Nat) : Bool :=
  r.first ≤ point && point ≤ r.last

/-- The range between two code points, whichever comes first. -/
def between (a b : Nat) : CodeRange :=
  if a ≤ b then ⟨a, b⟩ else ⟨b, a⟩

/-- The order by the first and then by the last code point. -/
def startsBefore (r s : CodeRange) : Bool :=
  r.first < s.first || (r.first == s.first && r.last ≤ s.last)

/-- Joins a range with those behind it that it meets or touches, and these with each other. -/
def joinWith (r : CodeRange) : List CodeRange → List CodeRange
  | [] => [r]
  | s :: rest =>
    if s.first ≤ r.last + 1 then joinWith ⟨r.first, max r.last s.last⟩ rest
    else r :: joinWith s rest

/-- What ranges in rising order have in common with others in rising order. -/
def common : List CodeRange → List CodeRange → List CodeRange
  | [], _ => []
  | _, [] => []
  | r :: rs, s :: ss =>
    let rest := if r.last < s.last then common rs (s :: ss) else common (r :: rs) ss
    if max r.first s.first ≤ min r.last s.last then
      ⟨max r.first s.first, min r.last s.last⟩ :: rest
    else rest
termination_by rs ss => rs.length + ss.length

/-- What is left of ranges in rising order without others in rising order. -/
def without : List CodeRange → List CodeRange → List CodeRange
  | [], _ => []
  | rs, [] => rs
  | r :: rs, s :: ss =>
    if s.last < r.first then without (r :: rs) ss
    else if r.last < s.first then r :: without rs (s :: ss)
    else
      let rest :=
        if s.last < r.last then without (⟨next s.last, r.last⟩ :: rs) ss
        else without rs (s :: ss)
      if r.first < s.first then ⟨r.first, previous s.first⟩ :: rest else rest
termination_by rs ss => rs.length + ss.length

/-- The gaps between ranges in rising order, from a code point on. -/
def gapsFrom (start : Nat) : List CodeRange → List CodeRange
  | [] => if start ≤ lastPoint then [⟨start, lastPoint⟩] else []
  | r :: rs => between start (previous r.first) :: gapsFrom (next r.last) rs

theorem contains_join {r s : CodeRange} (h : r.first ≤ s.first) (hs : s.first ≤ r.last + 1)
    (point : Nat) :
    (⟨r.first, max r.last s.last⟩ : CodeRange).contains point =
      (r.contains point || s.contains point) := by
  rw [Bool.eq_iff_iff]
  simp only [contains, Bool.and_eq_true, Bool.or_eq_true, decide_eq_true_eq]
  omega

theorem startsBefore_trans (r s t : CodeRange) (h : r.startsBefore s = true)
    (h' : s.startsBefore t = true) : r.startsBefore t = true := by
  simp only [startsBefore, Bool.or_eq_true, Bool.and_eq_true, decide_eq_true_eq, beq_iff_eq] at *
  omega

theorem startsBefore_total (r s : CodeRange) :
    (r.startsBefore s || s.startsBefore r) = true := by
  simp only [startsBefore, Bool.or_eq_true, Bool.and_eq_true, decide_eq_true_eq, beq_iff_eq]
  omega

theorem first_le_of_startsBefore {r s : CodeRange} (h : r.startsBefore s = true) :
    r.first ≤ s.first := by
  simp only [startsBefore, Bool.or_eq_true, Bool.and_eq_true, decide_eq_true_eq, beq_iff_eq] at h
  omega

/-- Joining ranges in rising order neither adds nor loses a code point. -/
theorem any_joinWith (r : CodeRange) (rs : List CodeRange) (point : Nat)
    (h : (r :: rs).Pairwise fun s t => s.first ≤ t.first) :
    (r.joinWith rs).any (·.contains point) = (r :: rs).any (·.contains point) := by
  induction rs generalizing r with
  | nil => rfl
  | cons s rest ih =>
    obtain ⟨hr, hs, hrest⟩ := by simpa only [List.pairwise_cons] using h
    have hrs : r.first ≤ s.first := hr s (by simp)
    unfold joinWith
    split
    next hjoin =>
      have hjoined : (⟨r.first, max r.last s.last⟩ :: rest).Pairwise
          fun s t : CodeRange => s.first ≤ t.first := by
        refine List.pairwise_cons.2 ⟨fun t ht => hr t (List.mem_cons_of_mem _ ht), hrest⟩
      rw [ih _ hjoined]
      simp only [List.any_cons, contains_join hrs hjoin, Bool.or_assoc]
    next =>
      have htail : (s :: rest).Pairwise fun s t : CodeRange => s.first ≤ t.first :=
        List.pairwise_cons.2 ⟨hs, hrest⟩
      rw [List.any_cons, ih _ htail]
      rfl

end CodeRange

/-! ## Sets -/

/-- A set of code points. -/
structure CodeSet where
  ranges : List CodeRange
deriving Repr, DecidableEq

namespace CodeSet

def contains (s : CodeSet) (point : Nat) : Bool :=
  s.ranges.any (·.contains point)

/-- The set without members. -/
def empty : CodeSet := ⟨[]⟩

/-- The code points from the first to the last one. -/
def interval (first last : Nat) : CodeSet := ⟨[⟨first, last⟩]⟩

/-- All code points. -/
def full : CodeSet := interval 0 lastPoint

/-- The set that holds one code point. -/
def single (point : Nat) : CodeSet := interval point point

/-- The set of the code points in some ranges. -/
def ofRanges (ranges : List CodeRange) : CodeSet :=
  match ranges.mergeSort CodeRange.startsBefore with
  | [] => empty
  | r :: rs => ⟨r.joinWith rs⟩

/-- The members of one of the sets or of both. -/
def union (s t : CodeSet) : CodeSet := ofRanges (s.ranges ++ t.ranges)

/-- The union of several sets. -/
def unionAll (sets : List CodeSet) : CodeSet := ofRanges (sets.flatMap ranges)

/-- The members of both sets. -/
def inter (s t : CodeSet) : CodeSet := ⟨CodeRange.common s.ranges t.ranges⟩

/-- The members of the first set that are not in the second. -/
def diff (s t : CodeSet) : CodeSet := ⟨CodeRange.without s.ranges t.ranges⟩

/-- The members of just one of the sets. -/
def symmDiff (s t : CodeSet) : CodeSet := (s.union t).diff (s.inter t)

/-- The code points that are not in the set. Between ranges that end and begin at the surrogates
there is no gap; the range there is the one from the end to the beginning. -/
def complement (s : CodeSet) : CodeSet :=
  match s.ranges with
  | [] => full
  | r :: rs =>
    if r.first = 0 then ⟨CodeRange.gapsFrom (next r.last) rs⟩ else ⟨CodeRange.gapsFrom 0 (r :: rs)⟩

/-- Is the set empty? -/
def isEmpty (s : CodeSet) : Bool := s.ranges.isEmpty

/-- Are all members ASCII characters? -/
def isAscii (s : CodeSet) : Bool :=
  s.ranges.getLast?.all fun r => r.last < 0x80

/-- The only member, if there is just one. -/
def single? (s : CodeSet) : Option Nat :=
  match s.ranges with
  | [r] => if r.first = r.last then some r.first else none
  | _ => none

theorem contains_ofRanges (ranges : List CodeRange) (point : Nat) :
    (ofRanges ranges).contains point = ranges.any (·.contains point) := by
  have hsorted := List.pairwise_mergeSort CodeRange.startsBefore_trans
    CodeRange.startsBefore_total ranges
  have hperm := List.mergeSort_perm ranges CodeRange.startsBefore
  rw [← hperm.any_eq]
  unfold ofRanges
  cases h : ranges.mergeSort CodeRange.startsBefore with
  | nil => rfl
  | cons r rs =>
    rw [h] at hsorted
    exact CodeRange.any_joinWith r rs point
      (hsorted.imp fun h => CodeRange.first_le_of_startsBefore h)

/-! ## Listings -/

/-- Reads the ranges of a listing: hexadecimal code points between blanks, and a dash between the
ends of a range. The first end of an open range and the digits in front are given. -/
def readRanges : List Char → Option Nat → Nat → List CodeRange
  | [], first, point => [⟨first.getD point, point⟩]
  | c :: cs, first, point =>
    if c = ' ' then ⟨first.getD point, point⟩ :: readRanges cs none 0
    else if c = '-' then readRanges cs (some point) 0
    else readRanges cs first (16 * point + (Text.hexValue? c).getD 0)

/-- The set that the lines of a listing write. -/
def ofListing (lines : List String) : CodeSet :=
  ofRanges (lines.flatMap fun line => readRanges line.toList none 0)

end CodeSet

end AnnotationQuery.Unicode
