import AnnotationQuery.Json.Basic
import AnnotationQuery.Number.Reader

/-!
# JSON numbers

A JSON number is kept as it is written until it is known what it should be: a whole number must be
written without fraction and exponent and has to fit its type, and a float takes any number that
does not overflow.

A float is built from the first digits of the number, as many as fit into 64 bits, with one
multiplication or division by a power of ten. Up to nineteen digits and small exponents this is the
nearest double; otherwise the last digit may differ.

* `Numeral.split?`: splits a number off the front of a text.
* `Numeral.int?`, `Numeral.binary64?`: what the number stands for.
-/

namespace AnnotationQuery

/-- A JSON number as written. -/
structure Numeral where
  negative : Bool
  whole : List Char
  fraction : List Char
  exponent : Option Int
deriving DecidableEq, Repr

namespace Numeral

/-- Splits the digits of the whole part off. A zero in front stands alone. -/
def splitWhole? (cs : List Char) : Option (List Char × List Char) :=
  match cs.takeWhile Char.isDigit, cs.dropWhile Char.isDigit with
  | [], _ => none
  | ['0'], rest => some (['0'], rest)
  | '0' :: _, _ => none
  | ds, rest => some (ds, rest)

/-- Splits an optional fraction off. -/
def splitFraction? : List Char → Option (List Char × List Char)
  | '.' :: cs =>
    match cs.takeWhile Char.isDigit with
    | [] => none
    | ds => some (ds, cs.dropWhile Char.isDigit)
  | cs => some ([], cs)

/-- Splits an optional exponent off. -/
def splitExponent? : List Char → Option (Option Int × List Char)
  | c :: cs =>
    if c = 'e' ∨ c = 'E' then
      let (negative, rest) := splitSign cs
      match rest.takeWhile Char.isDigit with
      | [] => none
      | ds =>
        let n : Int := digitsValue ds
        some (some (if negative then -n else n), rest.dropWhile Char.isDigit)
    else some (none, c :: cs)
  | [] => some (none, [])

/-- Splits a number off the front of a text. -/
def split? (cs : List Char) : Option (Numeral × List Char) := do
  let (negative, cs) := match cs with
    | '-' :: cs => (true, cs)
    | cs => (false, cs)
  let (whole, cs) ← splitWhole? cs
  let (fraction, cs) ← splitFraction? cs
  let (exponent, cs) ← splitExponent? cs
  some (⟨negative, whole, fraction, exponent⟩, cs)

/-! ## Whole numbers -/

/-- The whole number, if the number is written without fraction and exponent. A negative zero counts
as a float. -/
def int? (n : Numeral) : Option Int :=
  if n.fraction = [] ∧ n.exponent = none then
    let value := digitsValue n.whole
    if n.negative then (if value = 0 then none else some (-value)) else some value
  else none

/-- The 64-bit integer. -/
def int64? (n : Numeral) : Option Int64 :=
  n.int?.bind AnnotationQuery.int64?

/-- The count below `2 ^ 64`. -/
def count? (n : Numeral) : Option Nat :=
  n.int?.bind fun i => if 0 ≤ i ∧ i.toNat < UInt64.size then some i.toNat else none

/-! ## Floats -/

/-- Appends digits to a significand for as long as it stays below `2 ^ 64`; gives the digits left
over. -/
def accumulate (significand : Nat) : List Char → Nat × List Char
  | [] => (significand, [])
  | c :: cs =>
    let next := significand * 10 + (c.toNat - '0'.toNat)
    if next < UInt64.size then accumulate next cs else (significand, c :: cs)

/-- The power of ten of a double that multiplies or divides, up to `10 ^ 308`. -/
def powerOfTen (k : Nat) : Magnitude :=
  ((Decimal.mk 1 k).magnitude?).getD Magnitude.zero

/-- The product of two magnitudes, if it is finite. -/
def times? (a b : Magnitude) : Option Magnitude :=
  Magnitude.nearest? (a.units * b.units) (Nat.pow 2 2148)

/-- The quotient of two magnitudes. -/
def dividedBy? (a b : Magnitude) : Option Magnitude :=
  Magnitude.nearest? a.units b.units

/-- `m * 10 ^ exponent`. Exponents below `-308` are taken in steps of 308; the first argument bounds
the number of steps, after which any significand has become zero. -/
def scale? : Nat → Magnitude → Int → Option Magnitude
  | 0, _, _ => some Magnitude.zero
  | steps + 1, m, exponent =>
    if 308 < exponent then (if m.isZero then some m else none)
    else if 0 ≤ exponent then times? m (powerOfTen exponent.toNat)
    else if -308 ≤ exponent then dividedBy? m (powerOfTen (-exponent).toNat)
    else (dividedBy? m (powerOfTen 308)).bind fun m => scale? steps m (exponent + 308)

/-- The magnitude of the number as a double, if it is finite. -/
def magnitude? (n : Numeral) : Option Magnitude := do
  let (significand, dropped) := accumulate 0 n.whole
  let (significand, unread) := accumulate significand n.fraction
  let m ← Magnitude.nearest? significand 1
  let places : Int := n.fraction.length - unread.length
  scale? 4 m (n.exponent.getD 0 + dropped.length - places)

/-- The number as a double, if it is finite. -/
def binary64? (n : Numeral) : Option Binary64 :=
  n.magnitude?.map (.finite n.negative)

/-- The JSON value of the number: a whole number when it has at most 64 bits, else a double. -/
def json? (n : Numeral) : Option Json :=
  match n.int? with
  | some i =>
    if Int64.minValue.toInt ≤ i ∧ i < UInt64.size then some (.int i)
    else n.magnitude?.map (.float n.negative)
  | none => n.magnitude?.map (.float n.negative)

end Numeral

end AnnotationQuery
