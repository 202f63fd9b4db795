import AnnotationQuery.Number.Binary64

/-!
# Reading numbers

A float is written with digits, at most one decimal point with a digit on at least one side of it,
and an optional exponent; a sign may stand in front, and the words for the non-finite numbers are
read in either case. A 64-bit integer is written with digits and an optional sign.

* `Decimal.read?`: the digits of a float without its sign.
* `Binary64.read?`, `readInt64?`: the two readers.
-/

namespace AnnotationQuery

/-- The value of a run of ASCII digits. -/
def digitsValue (ds : List Char) : Nat :=
  ds.foldl (fun n c => n * 10 + (c.toNat - '0'.toNat)) 0

/-- Splits a leading sign off; `true` stands for minus. -/
def splitSign : List Char → Bool × List Char
  | '-' :: cs => (true, cs)
  | '+' :: cs => (false, cs)
  | cs => (false, cs)

/-- The value of a text of one or more ASCII digits. -/
def readDigits? (cs : List Char) : Option Nat :=
  if cs ≠ [] ∧ cs.all Char.isDigit then some (digitsValue cs) else none

/-- A whole number with an optional sign. -/
def readInt? (cs : List Char) : Option Int :=
  (readDigits? (splitSign cs).2).map fun n => if (splitSign cs).1 then -n else n

/-- The 64-bit integer with this value, if there is one. -/
def int64? (n : Int) : Option Int64 :=
  if Int64.minValue.toInt ≤ n ∧ n ≤ Int64.maxValue.toInt then some (Int64.ofInt n) else none

/-- A 64-bit integer with an optional sign. -/
def readInt64? (cs : List Char) : Option Int64 :=
  (readInt? cs).bind int64?

/-- The exponent part of a float: nothing, or `e` and a whole number. -/
def readExponent? : List Char → Option Int
  | [] => some 0
  | c :: cs => if c = 'e' ∨ c = 'E' then readInt? cs else none

/-- An unsigned decimal number with a fraction and an exponent, both optional. -/
def Decimal.read? (cs : List Char) : Option Decimal :=
  let whole := cs.takeWhile Char.isDigit
  let rest := cs.dropWhile Char.isDigit
  let (fraction, tail) :=
    match rest with
    | '.' :: rest => (rest.takeWhile Char.isDigit, rest.dropWhile Char.isDigit)
    | rest => ([], rest)
  if whole = [] ∧ fraction = [] then none
  else
    (readExponent? tail).map fun e =>
      ⟨digitsValue (whole ++ fraction), e - fraction.length⟩

/-- A float: a decimal number rounded by `round`, or one of the words `inf`, `infinity` and `nan` in
any case. -/
def Binary64.readWith? (round : Decimal → Option Magnitude) (cs : List Char) : Option Binary64 :=
  let (negative, rest) := splitSign cs
  let word := String.ofList (rest.map Char.toLower)
  if word = "inf" ∨ word = "infinity" then some (.infinity negative)
  else if word = "nan" then some .nan
  else (Decimal.read? rest).map fun d => ofMagnitude? negative (round d)

/-- Reads a double. -/
def Binary64.read? : List Char → Option Binary64 :=
  readWith? Decimal.magnitude?

/-- Reads a single precision float, as a double. -/
def Binary64.readSingle? : List Char → Option Binary64 :=
  readWith? Decimal.singleMagnitude?

end AnnotationQuery
