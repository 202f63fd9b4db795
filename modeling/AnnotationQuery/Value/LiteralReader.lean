import AnnotationQuery.Error
import AnnotationQuery.Number.Reader
import AnnotationQuery.Text.Blank

/-!
# Reading literals

The reader accepts a little more than the writer produces: blanks around a literal and around the
items of a list, any character behind a backslash, integers with leading zeros and every decimal or
exponent form of a float.

* `Value.readAt`: reads one value and gives the rest of the text.
* `Value.readLiteral`: reads a text that is one literal.
* `Value.parseLiteral`: the same, with faults reported together with the text.
-/

namespace AnnotationQuery

namespace Literal

/-- The literals that are read as whole words. -/
def keywords : List (List Char × Value) :=
  [("null".toList, .null), ("true".toList, .bool true), ("false".toList, .bool false),
    (toFloatCall "NaN", .float .nan), (toFloatCall "Infinity", .float (.infinity false)),
    (toFloatCall "-Infinity", .float (.infinity true))]

/-- The rest of the text behind a word that it starts with. -/
def dropWord? : List Char → List Char → Option (List Char)
  | [], rest => some rest
  | w :: ws, c :: cs => if w = c then dropWord? ws cs else none
  | _ :: _, [] => none

/-- Reads a keyword. -/
def readKeyword? (cs : List Char) : Option (Value × List Char) :=
  keywords.findSome? fun (word, value) => (dropWord? word cs).map (value, ·)

/-- What an escaped character stands for. -/
def unescapedChar (c : Char) : Char :=
  if c = 'n' then '\n' else if c = 'r' then '\r' else if c = 't' then '\t' else c

/-- Reads the characters of a string up to its closing quote (`string`). -/
def readString? : List Char → Option (List Char × List Char)
  | [] => none
  | c :: cs =>
    if c = quote then some ([], cs)
    else if c = backslash then
      match cs with
      | [] => none
      | e :: cs => (readString? cs).map fun (s, rest) => (unescapedChar e :: s, rest)
    else (readString? cs).map fun (s, rest) => (c :: s, rest)

/-- Splits a number token off: digits, points and exponent letters, and a sign in front and right
behind an exponent letter. `signed` says whether a sign may come next. -/
def splitNumber (signed : Bool) : List Char → List Char × List Char
  | [] => ([], [])
  | c :: cs =>
    if c.isDigit ∨ c = '.' then
      let (token, rest) := splitNumber false cs
      (c :: token, rest)
    else if c = 'e' ∨ c = 'E' then
      let (token, rest) := splitNumber true cs
      (c :: token, rest)
    else if signed ∧ (c = '-' ∨ c = '+') then
      let (token, rest) := splitNumber false cs
      (c :: token, rest)
    else ([], c :: cs)

/-- A number token is a float when it has a point or an exponent letter. -/
def isFloatToken (token : List Char) : Bool :=
  token.any fun c => c = '.' ∨ c = 'e' ∨ c = 'E'

/-- Reads a number token (`number`). -/
def readNumber (token : List Char) : Except LiteralFault Value :=
  if isFloatToken token then
    match Binary64.read? token with
    | some x => .ok (.float x)
    | none => .error .badFloat
  else
    match readInt64? token with
    | some n => .ok (.int n)
    | none => .error .badInteger

end Literal

namespace Value

open Literal

mutual

/-- Reads one value, blanks in front allowed, and gives the rest of the text (`value`). The first
argument bounds the nesting and the number of items. -/
def readAt : Nat → List Char → Except LiteralFault (Value × List Char)
  | 0, _ => .error .endOfText
  | fuel + 1, cs =>
    match Text.trimStart cs with
    | [] => .error .endOfText
    | c :: rest =>
      if c = quote then
        match readString? rest with
        | some (s, rest) => .ok (.string (String.ofList s), rest)
        | none => .error .openString
      else if c = '[' then
        match Text.trimStart rest with
        | ']' :: rest => .ok (.list [], rest)
        | rest => (readItems fuel rest).map fun (items, rest) => (.list items, rest)
      else if c = '-' ∨ c.isDigit then
        let (token, rest) := splitNumber true (c :: rest)
        (readNumber token).map (·, rest)
      else
        match readKeyword? (c :: rest) with
        | some result => .ok result
        | none => .error .unknown

/-- Reads the items of a list and its closing bracket (`list`). -/
def readItems : Nat → List Char → Except LiteralFault (List Value × List Char)
  | 0, _ => .error .endOfText
  | fuel + 1, cs => do
    let (item, rest) ← readAt fuel cs
    match Text.trimStart rest with
    | ',' :: rest => (readItems fuel rest).map fun (items, rest) => (item :: items, rest)
    | ']' :: rest => .ok ([item], rest)
    | _ => .error .badSeparator

end

/-- Reads a text that is one literal, with blanks around it allowed. -/
def readLiteral (text : String) : Except LiteralFault Value := do
  let cs := text.toList
  let (value, rest) ← readAt (2 * cs.length + 2) cs
  if Text.trimStart rest = [] then .ok value else .error .trailing

/-- Reads a text that is one literal; a fault is reported together with the text
(`parse_literal`). -/
def parseLiteral (text : String) : Except QueryError Value :=
  (readLiteral text).mapError (.literal text)

end Value

end AnnotationQuery
