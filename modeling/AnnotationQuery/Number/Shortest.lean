import AnnotationQuery.Number.Binary64

/-!
# Shortest decimal numbers

A double is printed with the fewest digits that read back as the same double. For each count of
digits there are at most two candidates, the two neighbours of the double on the grid of decimal
numbers with that many digits; the first count with a candidate that reads back decides. When both
neighbours read back the nearer one is taken, and `Tie` says what happens exactly half way.

* `candidate?_readsBack`: a chosen candidate reads back as the magnitude.
-/

namespace AnnotationQuery

/-- Which of two equally near candidates is taken. -/
inductive Tie where
  | upward
  | even
deriving DecidableEq, Repr

namespace Magnitude

/-- Does the decimal number read back as this magnitude? -/
def readsBackFrom (m : Magnitude) (d : Decimal) : Bool :=
  d.magnitude? == some m

/-- How many digits of the magnitude stand in front of the decimal point; zero or negative when it
is below one. Four hundred decimal places show the first digit of the smallest double. -/
def pointAt (m : Magnitude) : Int :=
  (Nat.toDigits 10 (m.units * Nat.pow 10 400 / Nat.pow 2 1074)).length - 400

/-- The magnitude as a quotient, in units of `10 ^ exponent`. -/
def inUnitsOf (m : Magnitude) (exponent : Int) : Nat × Nat :=
  if 0 ≤ exponent then (m.units, Nat.pow 2 1074 * Nat.pow 10 exponent.toNat)
  else (m.units * Nat.pow 10 (-exponent).toNat, Nat.pow 2 1074)

/-- Should the upper of two candidates be taken? They enclose the quotient `num / den`. -/
def takesUpper (tie : Tie) (num den : Nat) : Bool :=
  let twice := 2 * (num % den)
  if twice = den then
    match tie with
    | .upward => true
    | .even => num / den % 2 = 1
  else den < twice

/-- The neighbour on the grid of multiples of `10 ^ exponent` that reads back, if one does. Ten
units are written as one unit of the next grid. -/
def candidate? (tie : Tie) (m : Magnitude) (exponent : Int) : Option Decimal :=
  let (num, den) := m.inUnitsOf exponent
  let lower : Decimal := ⟨num / den, exponent⟩
  let upper : Decimal := if num / den = 9 then ⟨1, exponent + 1⟩ else ⟨num / den + 1, exponent⟩
  match m.readsBackFrom lower, m.readsBackFrom upper with
  | true, true => some (if takesUpper tie num den then upper else lower)
  | true, false => some lower
  | false, true => some upper
  | false, false => none

/-- The exact decimal value of the magnitude. -/
def exactDecimal (m : Magnitude) : Decimal :=
  ⟨m.units * Nat.pow 5 1074, -1074⟩

/-- The decimal number with the fewest digits that reads back as the magnitude. -/
def shortest (tie : Tie) (m : Magnitude) : Decimal :=
  ((List.range 17).findSome? fun n => candidate? tie m (m.pointAt - (n + 1 : Nat))).getD
    m.exactDecimal

theorem candidate?_readsBack {tie : Tie} {m : Magnitude} {exponent : Int} {d : Decimal}
    (h : candidate? tie m exponent = some d) : m.readsBackFrom d = true := by
  unfold candidate? at h
  grind

end Magnitude

end AnnotationQuery
