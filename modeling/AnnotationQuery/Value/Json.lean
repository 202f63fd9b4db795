import AnnotationQuery.Json.Decoder
import AnnotationQuery.Value.Basic

/-!
# Values in JSON

In JSON a value is an object that names its type in `@type` and holds its content in `value`; null
has no content. The two members may come in either order. When the content comes first it is read
ahead, so a fault of its type is located at the whole object.

* `Value.json`: the JSON of a value.
* `Value.decode`: decodes a value.
-/

namespace AnnotationQuery

namespace Value

/-- The type name of a value in JSON. -/
inductive Tag where
  | null
  | string
  | bool
  | int
  | float
  | list
deriving DecidableEq, Repr

/-- The names of the types. -/
def Tag.names : List (String × Tag) :=
  [("Null", .null), ("String", .string), ("Bool", .bool), ("Int", .int), ("Float", .float),
    ("List", .list)]

/-- The object for a type name and a content. -/
def taggedJson (name : String) (content : Json) : Json :=
  .object [("@type", .string name), ("value", content)]

mutual

/-- The JSON of a value. -/
def json : Value → Json
  | null => .object [("@type", .string "Null")]
  | string s => taggedJson "String" (.string s)
  | bool b => taggedJson "Bool" (.bool b)
  | int n => taggedJson "Int" (.int n.toInt)
  | float x => taggedJson "Float" (.ofFloat x)
  | list items => taggedJson "List" (.array (jsonAll items))

/-- The JSON of the items of a list. -/
def jsonAll : List Value → List Json
  | [] => []
  | item :: items => item.json :: jsonAll items

end

/-! ## Decoding -/

/-- What is known of a value while the members of its object are read. -/
inductive Progress where
  | start
  | tagged (tag : Tag)
  | ahead (content : Source)
  | complete (value : Value)

/-- Decodes the members of a tagged object in their order. `content` decodes the content of a type,
read ahead or not. -/
def decodeMembers (decodeTag : Source → Except Location Tag)
    (decodeContent : Bool → Tag → Source → Except Location Value)
    (scan : Source → Except Location PUnit) (closed : Bool) :
    Progress → List (Option String × Source) → Except Location Value
  | progress, [] =>
    if !closed then .error [.unknown]
    else
      match progress with
      | .complete value => .ok value
      | .tagged .null => .ok null
      | _ => .error []
  | _, (none, _) :: _ => .error [.unknown]
  | progress, (some key, source) :: members =>
    if key = "@type" then
      match progress with
      | .start => do
        let tag ← Decoder.within (.key key) (decodeTag source)
        decodeMembers decodeTag decodeContent scan closed (.tagged tag) members
      | .ahead content => do
        let tag ← Decoder.within (.key key) (decodeTag source)
        let value ← (decodeContent true tag content).mapError fun _ => []
        decodeMembers decodeTag decodeContent scan closed (.complete value) members
      | _ => .error []
    else if key = "value" then
      match progress with
      | .start => do
        Decoder.within (.key key) (scan source)
        decodeMembers decodeTag decodeContent scan closed (.ahead source) members
      | .tagged tag => do
        let value ← Decoder.within (.key key) (decodeContent false tag source)
        decodeMembers decodeTag decodeContent scan closed (.complete value) members
      | _ => .error []
    else if source.isWhole then
      decodeMembers decodeTag decodeContent scan closed progress members
    else .error [.key key]

/-- Decodes a value from an array of its type name and its content. -/
def decodePair (decodeTag : Source → Except Location Tag)
    (decodeContent : Tag → Source → Except Location Value) (closed : Bool) :
    List Source → Except Location Value
  | [] => if closed then .error [] else .error [.index 0]
  | tag :: rest => do
    let tag ← Decoder.within (.index 0) (decodeTag tag)
    match rest with
    | [] => if closed then .error [] else .error [.index 1]
    | content :: rest =>
      let value ← Decoder.within (.index 1) (decodeContent tag content)
      if rest.isEmpty && closed then return value else .error []

/-- Decodes a value; `readAhead` says that the source was read ahead. -/
def decodeFrom : Bool → Decoder Value
  | readAhead, depth + 1, .object members closed =>
    decodeMembers (tag readAhead depth) (fun ahead => content (readAhead || ahead) depth)
      (Decoder.scan depth) closed .start members
  | readAhead, depth + 1, .array items closed =>
    decodePair (tag readAhead depth) (content readAhead depth) closed items
  | _, _, _ => .error []
where
  /-- Decodes a type name. -/
  tag (readAhead : Bool) : Decoder Tag :=
    Decoder.choice readAhead Tag.names []
  /-- Decodes the content of a type. -/
  content (readAhead : Bool) (depth : Nat) : Tag → Source → Except Location Value
    | .null, source => (Decoder.nothing readAhead source).map fun _ => null
    | .string, source => (Decoder.string depth source).map string
    | .bool, source => (Decoder.bool depth source).map bool
    | .int, source => (Decoder.number Numeral.int64? depth source).map int
    | .float, source => (Decoder.number Numeral.binary64? depth source).map float
    | .list, .array items closed =>
      match depth with
      | 0 => .error []
      | depth + 1 => (Decoder.listFrom (decodeFrom readAhead depth) closed 0 items).map list
    | .list, _ => .error []

/-- Decodes a value. -/
def decode : Decoder Value :=
  decodeFrom false

theorem jsonAll_eq_map (items : List Value) : jsonAll items = items.map json := by
  induction items with
  | nil => rfl
  | cons item items ih => simp [jsonAll, ih]

end Value

end AnnotationQuery
