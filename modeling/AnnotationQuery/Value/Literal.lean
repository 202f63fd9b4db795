import AnnotationQuery.Value.Basic

/-!
# Literals

The written form of a value in a statement. Strings stand between single quotes, with a backslash
in front of a quote and of a backslash and with `\n`, `\r` and `\t` for the three control
characters; floats always have a fraction or an exponent, and the non-finite ones are calls of
`toFloat`; lists are bracketed.

* `Value.literal`: the written form of a value.
* `LiteralFault`: why a text is not a literal.
-/

namespace AnnotationQuery

namespace Literal

/-- The quotation mark of strings. -/
def quote : Char := '\''

/-- The escape sign inside strings. -/
def backslash : Char := '\\'

/-- The written form of one character of a string. -/
def escapedChar (c : Char) : List Char :=
  if c = backslash then [backslash, backslash]
  else if c = quote then [backslash, quote]
  else if c = '\n' then [backslash, 'n']
  else if c = '\r' then [backslash, 'r']
  else if c = '\t' then [backslash, 't']
  else [c]

/-- The written form of the characters of a string. -/
def escapedChars (cs : List Char) : List Char :=
  cs.flatMap escapedChar

/-- The word `toFloat('…')` around a name. -/
def toFloatCall (name : String) : List Char :=
  "toFloat(".toList ++ quote :: name.toList ++ [quote, ')']

/-- The written form of a float. -/
def floatChars : Binary64 → List Char
  | .nan => toFloatCall "NaN"
  | .infinity false => toFloatCall "Infinity"
  | .infinity true => toFloatCall "-Infinity"
  | .finite negative m => Style.literal.finiteText negative m

end Literal

namespace Value

mutual

/-- The literal of a value, character by character (`write_literal`). -/
def literalChars : Value → List Char
  | null => ['n', 'u', 'l', 'l']
  | bool true => ['t', 'r', 'u', 'e']
  | bool false => ['f', 'a', 'l', 's', 'e']
  | int n => (toString n.toInt).toList
  | float x => Literal.floatChars x
  | string s => Literal.quote :: Literal.escapedChars s.toList ++ [Literal.quote]
  | list items => '[' :: [',', ' '].intercalate (literalAll items) ++ [']']

/-- The literals of the items of a list. -/
def literalAll : List Value → List (List Char)
  | [] => []
  | item :: items => item.literalChars :: literalAll items

end

/-- The literal of a value (`to_literal`). -/
def literal (v : Value) : String :=
  String.ofList v.literalChars

end Value

/-- Why a text is not a literal. -/
inductive LiteralFault where
  | endOfText
  | unknown
  | openString
  | badFloat
  | badInteger
  | badSeparator
  | trailing
deriving DecidableEq, Repr

/-- The explanation of a fault. -/
def LiteralFault.message : LiteralFault → String
  | endOfText => "unexpected end of literal"
  | unknown => "unknown literal"
  | openString => "unterminated string literal"
  | badFloat => "invalid float literal"
  | badInteger => "invalid integer literal"
  | badSeparator => "expected ',' or ']' in list literal"
  | trailing => "trailing characters after literal"

end AnnotationQuery
