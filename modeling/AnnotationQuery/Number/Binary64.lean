/-!
# Double precision numbers

A float of the corpus data is a 64-bit binary floating point number. Here it is an exact value: a
sign and a whole number of units of `2 ^ -1074`, the smallest positive double, written as
`mantissa * 2 ^ exponent`. Rounding, reading and printing are then arithmetic on natural numbers.

* `Magnitude`: the absolute value of a finite double in its one normal form.
* `Format.round`: the nearest number of a binary format to a quotient, ties to even.
* `Binary64.ofDecimal`: the nearest double to a decimal number.
* `Binary64.equals`: the comparison in which NaN differs from itself and the zeros are equal.
-/

namespace AnnotationQuery

/-- The absolute value of a finite double, `mantissa * 2 ^ exponent` units of `2 ^ -1074`. -/
structure Magnitude where
  mantissa : Nat
  exponent : Nat
  mantissa_lt : mantissa < Nat.pow 2 53
  exponent_le : exponent ≤ 2045
  normal : exponent = 0 ∨ Nat.pow 2 52 ≤ mantissa
deriving DecidableEq, Repr

namespace Magnitude

/-- The magnitude with the given parts, if they are in range and in normal form. -/
def ofParts? (mantissa exponent : Nat) : Option Magnitude :=
  if h : mantissa < Nat.pow 2 53 ∧ exponent ≤ 2045 ∧
      (exponent = 0 ∨ Nat.pow 2 52 ≤ mantissa) then
    some ⟨mantissa, exponent, h.1, h.2.1, h.2.2⟩
  else
    none

/-- The value as a number of units of `2 ^ -1074`. -/
def units (m : Magnitude) : Nat :=
  m.mantissa * Nat.pow 2 m.exponent

def zero : Magnitude := ⟨0, 0, by decide, by decide, .inl rfl⟩

/-- The number 1. -/
def one : Magnitude := ⟨Nat.pow 2 52, 1022, by decide, by decide, .inr (by decide)⟩

def isZero (m : Magnitude) : Bool :=
  m.mantissa == 0

end Magnitude

/-! ## Rounding -/

/-- `num / den` rounded to a whole number, a half to the even neighbour. -/
def roundHalfEven (num den : Nat) : Nat :=
  let floor := num / den
  let twice := 2 * (num % den)
  if twice < den then floor
  else if den < twice then floor + 1
  else if floor % 2 = 0 then floor else floor + 1

/-- A binary floating point format: the digits of its significand, and its smallest positive number
`2 ^ -unitBits`. -/
structure Format where
  precision : Nat
  unitBits : Nat
deriving Repr

namespace Format

def double : Format := ⟨53, 1074⟩

def single : Format := ⟨24, 149⟩

/-- The significand and the exponent, in units of the format, of the number nearest to `num / den`.
The exponent is the least one for which the significand fits. -/
def round (format : Format) (num den : Nat) : Nat × Nat :=
  let scaled := num * Nat.pow 2 format.unitBits
  let exponent := Nat.log2 (scaled / den) - (format.precision - 1)
  let mantissa := roundHalfEven scaled (den * Nat.pow 2 exponent)
  if mantissa = Nat.pow 2 format.precision then
    (Nat.pow 2 (format.precision - 1), exponent + 1)
  else (mantissa, exponent)

end Format

/-- The double nearest to `num / den`, if it is finite. -/
def Magnitude.nearest? (num den : Nat) : Option Magnitude :=
  let rounded := Format.double.round num den
  Magnitude.ofParts? rounded.1 rounded.2

/-! ## Decimal numbers -/

/-- A decimal number `digits * 10 ^ exponent`. -/
structure Decimal where
  digits : Nat
  exponent : Int
deriving DecidableEq, Repr

namespace Decimal

/-- The number as a quotient of natural numbers. -/
def quotient (d : Decimal) : Nat × Nat :=
  if 0 ≤ d.exponent then (d.digits * Nat.pow 10 d.exponent.toNat, 1)
  else (d.digits, Nat.pow 10 (-d.exponent).toNat)

/-- How many digits stand in front of the decimal point; negative when zeros follow it first. -/
def pointAt (d : Decimal) : Int :=
  (Nat.toDigits 10 d.digits).length + d.exponent

/-- Is the number beyond every finite double, by its count of digits alone? -/
def isHuge (d : Decimal) : Bool :=
  310 < d.pointAt

/-- Is the number below half the smallest positive double, by its count of digits alone? -/
def isTiny (d : Decimal) : Bool :=
  d.digits == 0 || d.pointAt < -330

/-- The magnitude of the double nearest to a decimal number, if it is finite. -/
def magnitude? (d : Decimal) : Option Magnitude :=
  if d.isTiny then some Magnitude.zero
  else if d.isHuge then none
  else Magnitude.nearest? d.quotient.1 d.quotient.2

/-- The single precision number nearest to a decimal number, as a double, if it is finite. -/
def singleMagnitude? (d : Decimal) : Option Magnitude :=
  if d.isTiny then some Magnitude.zero
  else if d.isHuge then none
  else
    let (mantissa, exponent) := Format.single.round d.quotient.1 d.quotient.2
    if exponent ≤ 253 then Magnitude.nearest? (mantissa * Nat.pow 2 exponent) (Nat.pow 2 149)
    else none

end Decimal

/-! ## Doubles -/

/-- A double precision number. All NaNs are one. -/
inductive Binary64 where
  | nan
  | infinity (negative : Bool)
  | finite (negative : Bool) (magnitude : Magnitude)
deriving DecidableEq, Repr

namespace Binary64

/-- A sign and a magnitude; no magnitude stands for infinity. -/
def ofMagnitude? (negative : Bool) : Option Magnitude → Binary64
  | some m => finite negative m
  | none => infinity negative

/-- The double nearest to a signed decimal number, infinity beyond the largest one. -/
def ofDecimal (negative : Bool) (d : Decimal) : Binary64 :=
  ofMagnitude? negative d.magnitude?

/-- The double nearest to a whole number. -/
def ofInt (n : Int) : Binary64 :=
  ofMagnitude? (n < 0) (Magnitude.nearest? n.natAbs 1)

def isFinite : Binary64 → Bool
  | finite _ _ => true
  | _ => false

def isNaN : Binary64 → Bool
  | nan => true
  | _ => false

/-- Numerical equality: NaN equals nothing, and the two zeros are equal. -/
def equals : Binary64 → Binary64 → Bool
  | nan, _ | _, nan => false
  | infinity s, infinity t => s == t
  | finite s m, finite t n => (m.isZero && n.isZero) || (s == t && m == n)
  | _, _ => false

end Binary64

end AnnotationQuery
