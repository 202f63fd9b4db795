import AnnotationQuery.Json.Numeral
import AnnotationQuery.Text.Hexadecimal

/-!
# JSON texts as read

A JSON text is read into a `Source` before anything is known about what it should hold. Reading
never fails: where the text breaks off or is malformed the source ends in a `broken` part, and what
was read before stays, so that the first fault in the order of the text can be located later.

Numbers stay numerals and a string with a lone surrogate is marked, because both are faults only
where the value is used.

* `Source.ofChars`: the source in front of a text, and the rest of the text if it is whole.
* `Source.isWhole`: is no part of the source broken?
-/

namespace AnnotationQuery

/-- A JSON text as read. -/
inductive Source where
  | null
  | bool (value : Bool)
  | number (numeral : Numeral)
  /-- The text of a string; none when it has a lone surrogate. -/
  | string (text : Option String)
  /-- `closed` is false when the text breaks behind the items. -/
  | array (items : List Source) (closed : Bool)
  /-- `closed` is false when the text breaks behind the members. -/
  | object (members : List (Option String × Source)) (closed : Bool)
  | broken
  /-- In place of a value, where the colon behind its key is missing. -/
  | unreached
deriving Repr

namespace Source

/-- The blanks of JSON. -/
def isBlank (c : Char) : Bool :=
  c = ' ' || c = '\t' || c = '\n' || c = '\r'

def skipBlanks (cs : List Char) : List Char :=
  cs.dropWhile isBlank

/-! ## Strings -/

/-- A code unit of a string: a character, or half of a surrogate pair. -/
inductive Unit where
  | char (c : Char)
  | high (n : Nat)
  | low (n : Nat)
deriving DecidableEq, Repr

/-- The code unit of four hexadecimal digits. -/
def unitOfHex? (a b c d : Char) : Option Unit := do
  let n ← Text.ofHex? [a, b, c, d]
  if 0xD800 ≤ n ∧ n < 0xDC00 then some (.high (n - 0xD800))
  else if 0xDC00 ≤ n ∧ n < 0xE000 then some (.low (n - 0xDC00))
  else some (.char (Char.ofNat n))

/-- What a short escape stands for. -/
def unescaped? (c : Char) : Option Char :=
  if c = '"' ∨ c = '\\' ∨ c = '/' then some c
  else if c = 'b' then some '\x08'
  else if c = 'f' then some '\x0c'
  else if c = 'n' then some '\n'
  else if c = 'r' then some '\r'
  else if c = 't' then some '\t'
  else none

/-- Reads the code units of a string up to its closing quotation mark. -/
def readUnits? : List Char → Option (List Unit × List Char)
  | [] => none
  | '"' :: cs => some ([], cs)
  | '\\' :: 'u' :: a :: b :: c :: d :: cs =>
    (unitOfHex? a b c d).bind fun u =>
      (readUnits? cs).map fun (us, rest) => (u :: us, rest)
  | '\\' :: e :: cs =>
    (unescaped? e).bind fun c =>
      (readUnits? cs).map fun (us, rest) => (.char c :: us, rest)
  | ['\\'] => none
  | c :: cs =>
    if c.toNat < 0x20 then none
    else (readUnits? cs).map fun (us, rest) => (.char c :: us, rest)

/-- The characters of code units; surrogates have to come in pairs, high before low. -/
def charsOfUnits? : List Unit → Option (List Char)
  | [] => some []
  | .char c :: us => (charsOfUnits? us).map (c :: ·)
  | .high h :: .low l :: us =>
    (charsOfUnits? us).map (Char.ofNat (0x10000 + h * 0x400 + l) :: ·)
  | _ => none

/-- Reads a string behind its opening quotation mark. The text is missing when a surrogate stands
alone. -/
def readString? (cs : List Char) : Option (Option String × List Char) :=
  (readUnits? cs).map fun (us, rest) => ((charsOfUnits? us).map String.ofList, rest)

/-! ## Values -/

/-- The rest of a text behind a word that it starts with. -/
def dropWord? : List Char → List Char → Option (List Char)
  | [], rest => some rest
  | w :: ws, c :: cs => if w = c then dropWord? ws cs else none
  | _ :: _, [] => none

/-- Reads a value that is neither an array nor an object. -/
def readScalar (cs : List Char) : Source × Option (List Char) :=
  match cs with
  | '"' :: rest =>
    match readString? rest with
    | some (s, rest) => (string s, some rest)
    | none => (broken, none)
  | 'n' :: _ => word "null" null
  | 't' :: _ => word "true" (bool true)
  | 'f' :: _ => word "false" (bool false)
  | cs =>
    match Numeral.split? cs with
    | some (n, rest) => (number n, some rest)
    | none => (broken, none)
where
  /-- Reads a word that stands for a value. -/
  word (w : String) (value : Source) : Source × Option (List Char) :=
    match dropWord? w.toList cs with
    | some rest => (value, some rest)
    | none => (broken, none)

mutual

/-- Reads a value. The rest of the text is given when the value is whole. The first argument bounds
the number of values. -/
def readValue : Nat → List Char → Source × Option (List Char)
  | 0, _ => (broken, none)
  | fuel + 1, cs =>
    match skipBlanks cs with
    | '[' :: rest =>
      match skipBlanks rest with
      | ']' :: rest => (array [] true, some rest)
      | rest =>
        let (items, rest) := readItems fuel rest
        (array items rest.isSome, rest)
    | '\x7b' :: rest =>
      match skipBlanks rest with
      | '\x7d' :: rest => (object [] true, some rest)
      | rest =>
        let (members, rest) := readMembers fuel rest
        (object members rest.isSome, rest)
    | cs => readScalar cs

/-- Reads the items of an array and its closing bracket. -/
def readItems : Nat → List Char → List Source × Option (List Char)
  | 0, _ => ([], none)
  | fuel + 1, cs =>
    match readValue fuel cs with
    | (item, none) => ([item], none)
    | (item, some rest) =>
      match skipBlanks rest with
      | ',' :: rest =>
        let (items, rest) := readItems fuel rest
        (item :: items, rest)
      | ']' :: rest => ([item], some rest)
      | _ => ([item], none)

/-- Reads the members of an object and its closing brace. -/
def readMembers : Nat → List Char → List (Option String × Source) × Option (List Char)
  | 0, _ => ([], none)
  | fuel + 1, cs =>
    match skipBlanks cs with
    | '"' :: rest =>
      match readString? rest with
      | none => ([], none)
      | some (key, rest) =>
        match skipBlanks rest with
        | ':' :: rest =>
          match readValue fuel rest with
          | (value, none) => ([(key, value)], none)
          | (value, some rest) =>
            match skipBlanks rest with
            | ',' :: rest =>
              let (members, rest) := readMembers fuel rest
              ((key, value) :: members, rest)
            | '\x7d' :: rest => ([(key, value)], some rest)
            | _ => ([(key, value)], none)
        | _ => ([(key, unreached)], none)
    | _ => ([], none)

end

/-- The source in front of a text, and the rest of the text when the source is whole. -/
def ofChars (cs : List Char) : Source × Option (List Char) :=
  readValue (2 * cs.length + 2) cs

/-- The source in front of a text. -/
def ofText (text : String) : Source :=
  (ofChars text.toList).1

/-- The source of a text that holds nothing but one value and blanks. -/
def ofWholeText? (text : String) : Option Source :=
  match ofChars text.toList with
  | (source, some rest) => if skipBlanks rest = [] then some source else none
  | (_, none) => none

mutual

/-- Is no part of the source broken? -/
def isWhole : Source → Bool
  | array items closed => closed && allWhole items
  | object members closed => closed && allMembersWhole members
  | broken | unreached => false
  | null => true
  | bool _ => true
  | number _ => true
  | string _ => true

/-- Are all items whole? -/
def allWhole : List Source → Bool
  | [] => true
  | item :: items => item.isWhole && allWhole items

/-- Are the values of all members whole? -/
def allMembersWhole : List (Option String × Source) → Bool
  | [] => true
  | (_, value) :: members => value.isWhole && allMembersWhole members

end

mutual

/-- The JSON value of a source: nothing is broken, no surrogate stands alone and every number fits a
double. -/
def json? : Source → Option Json
  | null => some .null
  | bool b => some (.bool b)
  | number n => n.json?
  | string s => s.map .string
  | array items closed => if closed then (jsonAll? items).map .array else none
  | object members closed => if closed then (jsonMembers? members).map .object else none
  | broken | unreached => none

/-- The JSON values of all items. -/
def jsonAll? : List Source → Option (List Json)
  | [] => some []
  | item :: items => do
    let j ← item.json?
    let js ← jsonAll? items
    some (j :: js)

/-- The JSON values of all members. -/
def jsonMembers? : List (Option String × Source) → Option (List (String × Json))
  | [] => some []
  | (key, value) :: members => do
    let k ← key
    let j ← value.json?
    let js ← jsonMembers? members
    some ((k, j) :: js)

end

end Source

/-- The value that a text holds. -/
def Json.ofText? (text : String) : Option Json :=
  (Source.ofWholeText? text).bind Source.json?

end AnnotationQuery
