import AnnotationQuery.Number.Shortest

/-!
# Number styles

The three places that write floats differ in four decisions: which numbers are written
positionally, whether a whole number keeps `.0`, whether a positive exponent has its sign, and how
a tie between two shortest candidates is broken. A `Style` holds these decisions; `Style.text`
lays out the digits.
-/

namespace AnnotationQuery

/-- How a finite float is written. -/
structure Style where
  /-- Is a number whose first digit counts `10 ^ e` written without an exponent? -/
  isPositional : Int → Bool
  /-- Does a whole number end in `.0`? -/
  keepsPoint : Bool
  /-- Is a positive exponent written with `+`? -/
  signsExponent : Bool
  /-- Which of two equally near shortest candidates is written? -/
  tie : Tie

namespace Style

/-- Floats in statements: positional from `0.0001` up to below `1e16`. -/
def literal : Style := ⟨fun e => -4 ≤ e && e < 16, true, false, .upward⟩

/-- Floats in JSON: positional from `0.00001` up to below `1e16`, exponents signed. -/
def json : Style := ⟨fun e => -5 ≤ e && e < 16, true, true, .even⟩

/-- Floats in table cells: never an exponent, and whole numbers without a point. -/
def display : Style := ⟨fun _ => true, false, false, .upward⟩

/-- Digits `ds` followed by `exponent` zeros, or with a decimal point among or before them. -/
def positionalText (keepsPoint : Bool) (ds : List Char) (exponent : Int) : List Char :=
  if 0 ≤ exponent then
    ds ++ List.replicate exponent.toNat '0' ++ (if keepsPoint then ['.', '0'] else [])
  else
    let places := (-exponent).toNat
    if places < ds.length then
      ds.take (ds.length - places) ++ '.' :: ds.drop (ds.length - places)
    else
      '0' :: '.' :: List.replicate (places - ds.length) '0' ++ ds

/-- One digit, the others behind a decimal point, and the exponent `lead` of the first. -/
def exponentText (signsExponent : Bool) (ds : List Char) (lead : Int) : List Char :=
  ds.take 1 ++ (if ds.length ≤ 1 then [] else '.' :: ds.drop 1) ++ 'e' ::
    (if lead < 0 then ['-'] else if signsExponent then ['+'] else []) ++
    Nat.toDigits 10 lead.natAbs

/-- The text of a finite magnitude. -/
def magnitudeText (style : Style) (m : Magnitude) : List Char :=
  if m.isZero then
    if style.keepsPoint then ['0', '.', '0'] else ['0']
  else
    let d := m.shortest style.tie
    let lead := d.pointAt - 1
    let ds := (Nat.toDigits 10 d.digits)
    if style.isPositional lead then positionalText style.keepsPoint ds d.exponent
    else exponentText style.signsExponent ds lead

/-- The text of a finite double. -/
def finiteText (style : Style) (negative : Bool) (m : Magnitude) : List Char :=
  if negative then '-' :: style.magnitudeText m else style.magnitudeText m

/-- The text of a double; the non-finite ones are named. -/
def text (style : Style) : Binary64 → List Char
  | .nan => ['N', 'a', 'N']
  | .infinity false => ['i', 'n', 'f']
  | .infinity true => ['-', 'i', 'n', 'f']
  | .finite negative m => style.finiteText negative m

end Style

end AnnotationQuery
