import AnnotationQuery.Json.Location
import AnnotationQuery.Json.Source

/-!
# Decoding JSON

A decoder turns the source of a JSON text into a value of a type, or locates the first fault in the
order of the text, whether the text is malformed there or holds something unexpected.

Records are written as objects, whose unknown members are skipped and whose known members stand at
most once, or as arrays of their fields in order. Alternatives are written as words or as objects
with the word as their only key.

* `Decoder.list`, `Decoder.record`, `Decoder.choice`: the composite decoders.
-/

namespace AnnotationQuery

/-- Decodes a source. The number says how many arrays and objects may be nested in one another. -/
abbrev Decoder (α : Type) := Nat → Source → Except Location α

namespace Decoder

/-- How many arrays and objects may be nested in one another. -/
def nesting : Nat := 127

/-- Puts a step in front of the location of a fault. -/
def within (segment : Segment) (result : Except Location α) : Except Location α :=
  result.mapError (segment :: ·)

def string : Decoder String
  | _, .string (some s) => .ok s
  | _, _ => .error []

def bool : Decoder Bool
  | _, .bool b => .ok b
  | _, _ => .error []

/-- A value computed from a number. -/
def number (read? : Numeral → Option α) : Decoder α
  | _, .number n =>
    match read? n with
    | some a => .ok a
    | none => .error []
  | _, _ => .error []

/-- A value or `null`. -/
def option (decode : Decoder α) : Decoder (Option α)
  | _, .null => .ok none
  | depth, source => (decode depth source).map some

/-- Decodes the items of an array from index `i` on. -/
def listFrom (decode : Source → Except Location α) (closed : Bool) :
    Nat → List Source → Except Location (List α)
  | i, [] => if closed then .ok [] else .error [.index i]
  | i, item :: items => do
    let a ← within (.index i) (decode item)
    let as ← listFrom decode closed (i + 1) items
    return a :: as

/-- An array of values. -/
def list (decode : Decoder α) : Decoder (List α)
  | depth + 1, .array items closed => listFrom (decode depth) closed 0 items
  | _, _ => .error []

/-! ## Records -/

/-- What a missing field of a record means. -/
inductive Absence where
  /-- A fault. -/
  | required
  /-- No value in an object, a fault in an array. -/
  | optional
  /-- The value of the blank record. -/
  | defaulted
deriving DecidableEq, Repr

/-- A field of a record. -/
structure Field (σ : Type) where
  name : String
  absence : Absence
  /-- Decodes the field and gives the function that sets it. -/
  read : Decoder (σ → σ)

/-- A field with a decoder and a setter. -/
def field (name : String) (absence : Absence) (decode : Decoder α) (set : α → σ → σ) : Field σ :=
  ⟨name, absence, fun depth source => (decode depth source).map set⟩

/-- Decodes the members of an object; `seen` holds the names of the fields read so far. -/
def recordMembers (fields : List (Field σ)) (closed : Bool) (depth : Nat) :
    List String → σ → List (Option String × Source) → Except Location σ
  | seen, acc, [] =>
    if !closed then .error [.unknown]
    else if fields.all fun f => f.absence != .required || seen.contains f.name then .ok acc
    else .error []
  | _, _, (none, _) :: _ => .error [.unknown]
  | seen, acc, (some key, value) :: members =>
    match fields.find? (·.name == key) with
    | none =>
      if value.isWhole then recordMembers fields closed depth seen acc members
      else .error [.key key]
    | some f =>
      if seen.contains key then .error []
      else do
        let set ← within (.key key) (f.read depth value)
        recordMembers fields closed depth (key :: seen) (set acc) members

/-- Decodes the fields of a record from the items of an array. -/
def recordItems (closed : Bool) (depth : Nat) :
    Nat → σ → List (Field σ) → List Source → Except Location σ
  | _, acc, [], items => if items.isEmpty && closed then .ok acc else .error []
  | i, acc, f :: fields, [] =>
    if !closed then .error [.index i]
    else if (f :: fields).all fun f => f.absence == .defaulted then .ok acc
    else .error []
  | i, acc, f :: fields, item :: items => do
    let set ← within (.index i) (f.read depth item)
    recordItems closed depth (i + 1) (set acc) fields items

/-- A record. The blank record holds the values of missing fields. -/
def record (fields : List (Field σ)) (blank : σ) : Decoder σ
  | depth + 1, .object members closed => recordMembers fields closed depth [] blank members
  | depth + 1, .array items closed => recordItems closed depth 0 blank fields items
  | _, _ => .error []

/-- A pair, written as an array of two items. -/
def pair (first : Decoder α) (second : Decoder β) : Decoder (α × β)
  | depth + 1, .array [a, b] true => do
    let a ← within (.index 0) (first depth a)
    let b ← within (.index 1) (second depth b)
    return (a, b)
  | _, _ => .error []

/-! ## Alternatives -/

/-- What stands behind a word that needs nothing. Inside content that was read ahead, an empty
object does as well. -/
def nothing (readAhead : Bool) : Source → Except Location Unit
  | .null => .ok ()
  | .object [] true => if readAhead then .ok () else .error []
  | _ => .error []

/-- One of several alternatives: a word alone, or an object with the word as its only key and the
content of the alternative as its value. -/
def choice (readAhead : Bool) (words : List (String × α)) (contents : List (String × Decoder α)) :
    Decoder α
  | _, .string (some s) =>
    match words.lookup s with
    | some a => .ok a
    | none => .error []
  | _ + 1, .object ((_, .unreached) :: _) _ => .error []
  | depth + 1, .object ((some key, value) :: members) closed => do
    let a ←
      match words.lookup key, contents.lookup key with
      | some a, _ => within (.key key) ((nothing readAhead value).map fun _ => a)
      | none, some decode => within (.key key) (decode depth value)
      | none, none => .error []
    if members.isEmpty && closed then return a else .error []
  | _, _ => .error []

/-- One of several words. -/
def word (words : List (String × α)) : Decoder α :=
  choice false words []

/-! ## Reading ahead -/

mutual

/-- Checks everything that can be checked in a value before it is known what it should be: it is
whole, no string has a lone surrogate, and every number fits a double. -/
def scan : Nat → Source → Except Location PUnit
  | _, .number n => if n.json?.isSome then .ok () else .error []
  | _, .string s => if s.isSome then .ok () else .error []
  | 0, .array _ _ => .error []
  | depth + 1, .array items closed => scanItems depth closed 0 items
  | 0, .object _ _ => .error []
  | depth + 1, .object members closed => scanMembers depth closed members
  | _, .broken | _, .unreached => .error []
  | _, .null => .ok ()
  | _, .bool _ => .ok ()

/-- Checks the items of an array from index `i` on. -/
def scanItems (depth : Nat) (closed : Bool) : Nat → List Source → Except Location PUnit
  | i, [] => if closed then .ok () else .error [.index i]
  | i, item :: items => do
    within (.index i) (scan depth item)
    scanItems depth closed (i + 1) items

/-- Checks the members of an object. -/
def scanMembers (depth : Nat) (closed : Bool) :
    List (Option String × Source) → Except Location PUnit
  | [] => if closed then .ok () else .error [.unknown]
  | (none, _) :: _ => .error [.unknown]
  | (some key, value) :: members => do
    within (.key key) (scan depth value)
    scanMembers depth closed members

end

/-- Decodes a text that holds one value. -/
def wholeText? (decode : Decoder α) (text : String) : Option α :=
  (Source.ofWholeText? text).bind fun source => (decode nesting source).toOption

/-- Decodes the value in front of a text. -/
def frontOfText (decode : Decoder α) (text : String) : Except Location α :=
  decode nesting (Source.ofText text)

end Decoder

end AnnotationQuery
