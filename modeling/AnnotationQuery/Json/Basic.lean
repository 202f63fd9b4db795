import AnnotationQuery.Number.Style

/-!
# JSON text

Hierarchies, configurations, queries and result tables are stored as JSON. `Json` is a JSON value
whose numbers are whole or doubles; `compactText` writes it without blanks and `prettyText` with two
spaces of indentation per level. In strings only `"`, `\` and control characters are escaped.
-/

namespace AnnotationQuery

/-- A JSON value. Numbers are whole numbers or finite doubles. -/
inductive Json where
  | null
  | bool (value : Bool)
  | int (value : Int)
  | float (negative : Bool) (magnitude : Magnitude)
  | string (text : String)
  | array (items : List Json)
  | object (members : List (String × Json))
deriving Repr

namespace Json

/-- An optional value, `null` when it is missing. -/
def ofOption (encode : α → Json) : Option α → Json
  | some a => encode a
  | none => null

/-- A list of values. -/
def ofList (encode : α → Json) (items : List α) : Json :=
  array (items.map encode)

/-- A double; the non-finite ones have no number in JSON and become `null`. -/
def ofFloat : Binary64 → Json
  | .finite negative m => float negative m
  | _ => null

/-! ## Strings -/

/-- A hexadecimal digit. -/
def hexDigit (n : Nat) : Char :=
  if n < 10 then Char.ofNat ('0'.toNat + n) else Char.ofNat ('a'.toNat + (n - 10))

/-- The letter behind the backslash of a short escape. -/
def shortEscape? (c : Char) : Option Char :=
  if c = '"' ∨ c = '\\' then some c
  else if c = '\x08' then some 'b'
  else if c = '\t' then some 't'
  else if c = '\n' then some 'n'
  else if c = '\x0c' then some 'f'
  else if c = '\r' then some 'r'
  else none

/-- The written form of one character of a string. -/
def escapedChar (c : Char) : List Char :=
  match shortEscape? c with
  | some e => ['\\', e]
  | none =>
    if c.toNat < 0x20 then
      ['\\', 'u', '0', '0', hexDigit (c.toNat / 16), hexDigit (c.toNat % 16)]
    else [c]

/-- The written form of a string. -/
def stringChars (s : String) : List Char :=
  '"' :: s.toList.flatMap escapedChar ++ ['"']

/-! ## Compact text -/

mutual

/-- The text of a value without blanks. -/
def compactChars : Json → List Char
  | null => ['n', 'u', 'l', 'l']
  | bool true => ['t', 'r', 'u', 'e']
  | bool false => ['f', 'a', 'l', 's', 'e']
  | int n => (toString n).toList
  | float negative m => Style.json.finiteText negative m
  | string s => stringChars s
  | array items => '[' :: [','].intercalate (compactItems items) ++ [']']
  | object members => '\x7b' :: [','].intercalate (compactMembers members) ++ ['\x7d']

/-- The texts of the items of an array. -/
def compactItems : List Json → List (List Char)
  | [] => []
  | item :: items => item.compactChars :: compactItems items

/-- The texts of the members of an object. -/
def compactMembers : List (String × Json) → List (List Char)
  | [] => []
  | (key, value) :: members =>
    (stringChars key ++ ':' :: value.compactChars) :: compactMembers members

end

/-- The text of a value without blanks. -/
def compactText (j : Json) : String :=
  String.ofList j.compactChars

/-! ## Indented text -/

/-- A line break and the indentation of a level. -/
def newLine (level : Nat) : List Char :=
  '\n' :: List.replicate (2 * level) ' '

/-- Writes texts between brackets, each on a line of its own. Without a text the brackets stand
together. -/
def block (level : Nat) (opening closing : Char) (texts : List (List Char)) : List Char :=
  match texts with
  | [] => [opening, closing]
  | texts =>
    opening :: newLine (level + 1) ++ (',' :: newLine (level + 1)).intercalate texts ++
      newLine level ++ [closing]

mutual

/-- The indented text of a value that stands at a level. -/
def prettyChars (level : Nat) : Json → List Char
  | array items => block level '[' ']' (prettyItems (level + 1) items)
  | object members => block level '\x7b' '\x7d' (prettyMembers (level + 1) members)
  | null => compactChars null
  | bool b => compactChars (bool b)
  | int n => compactChars (int n)
  | float negative m => compactChars (float negative m)
  | string s => compactChars (string s)

/-- The indented texts of the items of an array. -/
def prettyItems (level : Nat) : List Json → List (List Char)
  | [] => []
  | item :: items => item.prettyChars level :: prettyItems level items

/-- The indented texts of the members of an object. -/
def prettyMembers (level : Nat) : List (String × Json) → List (List Char)
  | [] => []
  | (key, value) :: members =>
    (stringChars key ++ ':' :: ' ' :: value.prettyChars level) :: prettyMembers level members

end

/-- The text of a value with two spaces of indentation per level. -/
def prettyText (j : Json) : String :=
  String.ofList (j.prettyChars 0)

end Json

end AnnotationQuery
