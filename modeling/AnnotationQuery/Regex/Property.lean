import AnnotationQuery.Unicode.Age
import AnnotationQuery.Unicode.Boundary

/-!
# Unicode properties in match patterns

A match pattern may name a set of characters by a Unicode property: a general category, a script or
a property that a character has or has not, each by its name alone, or a property with one of its
values. Names match loosely: case, blanks, `_`, `-` and a leading `is` make no difference.

* `PropertyQuery.members?`: the set that a query names, if it names one.
-/

namespace AnnotationQuery.Regex

open Unicode (CodeSet)

/-- How a pattern names a set of characters. -/
inductive PropertyQuery where
  /-- By one name. -/
  | named (name : List Char)
  /-- By a property and its value. -/
  | valued (property value : List Char)
deriving Repr, DecidableEq

namespace PropertyQuery

/-- Is the character part of a loose name? -/
def isSignificant (c : Char) : Bool :=
  c.toNat < 0x80 && !(c == ' ' || c == '_' || c == '-')

/-- The significant characters, in lower case. -/
def plain (name : List Char) : List Char :=
  (name.filter isSignificant).map Char.toLower

/-- The normal form of a loose name. The name `isc` stands for a property of its own and not for
the category `c`. -/
def normalized (name : List Char) : String :=
  match name with
  | i :: s :: rest =>
    if i.toLower = 'i' ∧ s.toLower = 's' then
      let inner := plain rest
      if inner = ['c'] then "isc" else String.ofList inner
    else String.ofList (plain name)
  | _ => String.ofList (plain name)

/-- The set with this name in a table of sets, if there is one. -/
def lookUp? (name : String) (table : List (List String × CodeSet)) : Option CodeSet :=
  (table.find? (name ∈ ·.1)).map (·.2)

/-- The script with this name, if there is one. -/
def script? (name : String) : Option Unicode.Script :=
  Unicode.scripts.find? (name ∈ ·.names)

/-- The set of a value, by the property, if there is one. -/
def valued? (property value : String) : Option CodeSet :=
  if property ∈ ["generalcategory", "gc"] then lookUp? value Unicode.Category.classes
  else if property ∈ ["script", "sc"] then (script? value).map (·.members)
  else if property ∈ ["scriptextensions", "scx"] then (script? value).map (·.extension)
  else if property = "age" then Unicode.assignedBy? value
  else if property ∈ ["graphemeclusterbreak", "gcb"] then lookUp? value Unicode.characterRoles
  else if property ∈ ["wordbreak", "wb"] then lookUp? value Unicode.wordRoles
  else if property ∈ ["sentencebreak", "sb"] then lookUp? value Unicode.sentenceRoles
  else none

/-- The set that the query names, or nothing if there is no such set. A binary property goes before
a category, and a category before a script. -/
def members? : PropertyQuery → Option CodeSet
  | named name =>
    let name := normalized name
    (lookUp? name Unicode.binaryProperties).or
      ((lookUp? name Unicode.Category.classes).or ((script? name).map (·.members)))
  | valued property value => valued? (normalized property) (normalized value)

end PropertyQuery

end AnnotationQuery.Regex
