/-!
# Locations in JSON texts

A fault in a JSON text is reported with the path from the root to the part that holds it, such as
`tiers[0].token_properties[1].kind`. A fault where a key should stand is at `?`.
-/

namespace AnnotationQuery

/-- One step from a JSON value to a part of it. -/
inductive Segment where
  | key (name : String)
  | index (i : Nat)
  | unknown
deriving DecidableEq, Repr

/-- The steps from the root of a JSON text to one of its parts. -/
abbrev Location := List Segment

namespace Location

/-- The text of the steps behind the first one. -/
def tailText : Location → String
  | [] => ""
  | .key name :: rest => "." ++ name ++ tailText rest
  | .index i :: rest => "[" ++ toString i ++ "]" ++ tailText rest
  | .unknown :: rest => ".?" ++ tailText rest

/-- The text of a location; the root is a single point. -/
def text : Location → String
  | [] => "."
  | .key name :: rest => name ++ tailText rest
  | .index i :: rest => "[" ++ toString i ++ "]" ++ tailText rest
  | .unknown :: rest => "?" ++ tailText rest

end Location

end AnnotationQuery
