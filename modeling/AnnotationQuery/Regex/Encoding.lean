import AnnotationQuery.Unicode.CodeSet

/-!
# Sets of characters as sequences of bytes

The characters of a set, written in UTF-8, are the byte sequences of some rows. A row gives a range
of bytes for each place; its sequences are all that take one byte of each range.

* `encoded`: the bytes of a code point.
* `rows`: the rows of a set, in rising order.
* `cutPoint?_lt`: cutting a range leaves two smaller ranges.
-/

namespace AnnotationQuery.Regex

open Unicode (CodeSet CodeRange)

/-- The bytes from the first to the last one. -/
structure ByteRange where
  first : Nat
  last : Nat
deriving Repr, DecidableEq

/-- The bytes of a code point in UTF-8. -/
def encoded (point : Nat) : List Nat :=
  if point < 0x80 then [point]
  else if point < 0x800 then [0xC0 + point / 64, 0x80 + point % 64]
  else if point < 0x10000 then [0xE0 + point / 4096, 0x80 + point / 64 % 64, 0x80 + point % 64]
  else [0xF0 + point / 262144, 0x80 + point / 4096 % 64, 0x80 + point / 64 % 64, 0x80 + point % 64]

/-- The bytes of a text in UTF-8. -/
def encodedText (chars : List Char) : List Nat :=
  chars.flatMap fun c => encoded c.toNat

/-- Where a range is cut whose code points do not share all but the last places: the code point
before the first block of the size that lies inside it, or the last one inside such blocks. -/
def blockCut? (block first last : Nat) : Option Nat :=
  if first / block = last / block then none
  else if first % block ≠ 0 then some (first / block * block + block - 1)
  else if (last + 1) % block ≠ 0 then some (last / block * block - 1)
  else none

/-- The code point behind which a range is cut, if its sequences do not make a single row: its parts
have sequences of one length, and whole blocks of bytes at all places behind the first that
differs. -/
def cutPoint? (first last : Nat) : Option Nat :=
  let cut :=
    match [0x7F, 0x7FF, 0xFFFF].find? fun limit => first ≤ limit && limit < last with
    | some limit => some limit
    | none =>
      if last < 0x80 then none
      else [64, 4096, 262144].findSome? fun block => blockCut? block first last
  cut.filter fun point => first ≤ point && point < last

theorem cutPoint?_lt {first last point : Nat} (h : cutPoint? first last = some point) :
    first ≤ point ∧ point < last := by
  unfold cutPoint? at h
  have := (Option.filter_eq_some_iff.1 h).2
  simpa using this

/-- The rows of a range that does not lead across the surrogates. -/
def rangeRows (first last : Nat) : List (List ByteRange) :=
  match _h : cutPoint? first last with
  | some point => rangeRows first point ++ rangeRows (point + 1) last
  | none => [List.zipWith ByteRange.mk (encoded first) (encoded last)]
termination_by last - first
decreasing_by
  all_goals
    have := cutPoint?_lt _h
    omega

/-- The rows of a set. -/
def rows (s : CodeSet) : List (List ByteRange) :=
  s.ranges.flatMap fun r =>
    if r.first < 0xE000 ∧ 0xD7FF < r.last then
      rangeRows r.first 0xD7FF ++ rangeRows 0xE000 r.last
    else rangeRows r.first r.last

end AnnotationQuery.Regex
