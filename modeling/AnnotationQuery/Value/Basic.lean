import AnnotationQuery.Number.Style

/-!
# Values

A value is what a filter compares with, a mutation assigns, a statement takes as a parameter and a
result cell holds.

* `Value.equals`: equality of values, in which NaN differs from itself.
* `Value.display`: the text of a value in a table cell.
-/

namespace AnnotationQuery

/-- The kind of value that a declared property holds. -/
inductive ValueKind where
  | integer
  | float
  | string
  | boolean
deriving DecidableEq, Repr

/-- The word for a kind. -/
def ValueKind.word : ValueKind → String
  | integer => "integer"
  | float => "float"
  | string => "string"
  | boolean => "boolean"

/-- A literal value (`DataValue`). -/
inductive Value where
  | null
  | string (text : String)
  | bool (value : Bool)
  | int (value : Int64)
  | float (value : Binary64)
  | list (items : List Value)
deriving Repr

namespace Value

def isNull : Value → Bool
  | null => true
  | _ => false

/-- The kind of the value; null and lists have none. -/
def kind? : Value → Option ValueKind
  | string _ => some .string
  | bool _ => some .boolean
  | int _ => some .integer
  | float _ => some .float
  | null | list _ => none

/-- The text of a string value. -/
def text? : Value → Option String
  | string s => some s
  | _ => none

mutual

/-- Equality of values. Floats are compared as numbers, so NaN differs from itself. -/
def equals : Value → Value → Bool
  | null, null => true
  | string s, string t => s == t
  | bool a, bool b => a == b
  | int m, int n => m == n
  | float x, float y => x.equals y
  | list xs, list ys => equalsAll xs ys
  | _, _ => false

/-- Equality of lists of values, item by item. -/
def equalsAll : List Value → List Value → Bool
  | [], [] => true
  | x :: xs, y :: ys => x.equals y && equalsAll xs ys
  | _, _ => false

end

mutual

/-- The text of a value in a table cell: null is empty, and the items of a list are joined by
`|`. -/
def displayChars : Value → List Char
  | null => []
  | string s => s.toList
  | bool true => ['t', 'r', 'u', 'e']
  | bool false => ['f', 'a', 'l', 's', 'e']
  | int n => (toString n.toInt).toList
  | float x => Style.display.text x
  | list items => ['|'].intercalate (displayAll items)

/-- The texts of the items of a list. -/
def displayAll : List Value → List (List Char)
  | [] => []
  | item :: items => item.displayChars :: displayAll items

end

/-- The text of a value in a table cell. -/
def display (v : Value) : String :=
  String.ofList v.displayChars

/-- A list of string values. -/
def strings (texts : List String) : Value :=
  list (texts.map string)

end Value

end AnnotationQuery
