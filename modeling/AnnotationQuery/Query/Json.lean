import AnnotationQuery.Filter.Json
import AnnotationQuery.Query.Basic

/-!
# Queries in JSON

Intents without content are words, the others objects with the word as their only key. An assignment
to a property is an array of its key and its value.
-/

namespace AnnotationQuery

open Decoder

namespace Column

def json (c : Column) : Json :=
  .object [("path", c.path.json), ("output_name", .string c.name)]

def decode : Decoder Column :=
  record
    [field "path" .required Path.decode fun path c => { c with path },
      field "output_name" .required string fun name c => { c with name }]
    ⟨⟨[]⟩, ""⟩

end Column

namespace AggregateFunction

def json (f : AggregateFunction) : Json :=
  .string f.word

def decode : Decoder AggregateFunction :=
  Decoder.word (all.map fun f => (f.word, f))

end AggregateFunction

namespace Aggregate

def json (a : Aggregate) : Json :=
  .object
    [("function", a.function.json), ("path", .ofOption Path.json a.path),
      ("output_name", .string a.name)]

def decode : Decoder Aggregate :=
  record
    [field "function" .required AggregateFunction.decode fun function a => { a with function },
      field "path" .optional (option Path.decode) fun path a => { a with path },
      field "output_name" .required string fun name a => { a with name }]
    ⟨.count, none, ""⟩

end Aggregate

namespace OrderKey

def json (k : OrderKey) : Json :=
  .object [("path", k.path.json), ("descending", .bool k.descending)]

def decode : Decoder OrderKey :=
  record
    [field "path" .required Path.decode fun path k => { k with path },
      field "descending" .required bool fun descending k => { k with descending }]
    ⟨⟨[]⟩, false⟩

end OrderKey

namespace Projection

def json (p : Projection) : Json :=
  .object
    [("columns", .ofList Column.json p.columns),
      ("aggregates", .ofList Aggregate.json p.aggregates),
      ("order_by", .ofList OrderKey.json p.orderBy),
      ("limit", .ofOption (fun n => .int n) p.limit),
      ("distinct", .bool p.distinct)]

def decode : Decoder Projection :=
  record
    [field "columns" .required (list Column.decode) fun columns p => { p with columns },
      field "aggregates" .required (list Aggregate.decode) fun aggregates p =>
        { p with aggregates },
      field "order_by" .required (list OrderKey.decode) fun orderBy p => { p with orderBy },
      field "limit" .optional (option (number Numeral.count?)) fun limit p => { p with limit },
      field "distinct" .required bool fun distinct p => { p with distinct }]
    empty

end Projection

namespace PropertyUpdates

/-- The JSON of an assignment. -/
def assignmentJson (assignment : String × Value) : Json :=
  .array [.string assignment.1, assignment.2.json]

def json (u : PropertyUpdates) : Json :=
  .object [("token", .ofList assignmentJson u.token), ("types", .ofList assignmentJson u.type)]

def decode : Decoder PropertyUpdates :=
  record
    [field "token" .required (list (pair string Value.decode)) fun token u => { u with token },
      field "types" .required (list (pair string Value.decode)) fun type u => { u with type }]
    empty

end PropertyUpdates

namespace LabelUpdates

def json (u : LabelUpdates) : Json :=
  .object [("token", .ofList .string u.token), ("types", .ofList .string u.type)]

def decode : Decoder LabelUpdates :=
  record
    [field "token" .required (list string) fun token u => { u with token },
      field "types" .required (list string) fun type u => { u with type }]
    empty

end LabelUpdates

namespace Intent

def json : Intent → Json
  | project p => .object [("Project", p.json)]
  | setProperties u => .object [("SetProperties", u.json)]
  | setLabels u => .object [("SetLabels", u.json)]
  | removeLabels u => .object [("RemoveLabels", u.json)]
  | delete => .string "Delete"
  | cache => .string "Cache"

def decode : Decoder Intent :=
  choice false [("Delete", delete), ("Cache", cache)]
    [("Project", fun depth source => (Projection.decode depth source).map project),
      ("SetProperties", fun depth source =>
        (PropertyUpdates.decode depth source).map setProperties),
      ("SetLabels", fun depth source => (LabelUpdates.decode depth source).map setLabels),
      ("RemoveLabels", fun depth source => (LabelUpdates.decode depth source).map removeLabels)]

end Intent

namespace Query

def json (q : Query) : Json :=
  .object
    [("tier", .string q.tier), ("discourse", .ofOption .string q.discourse),
      ("filters", .ofList Filter.json q.filters), ("intent", q.intent.json)]

def decode : Decoder Query :=
  record
    [field "tier" .required string fun tier q => { q with tier },
      field "discourse" .optional (option string) fun discourse q => { q with discourse },
      field "filters" .required (list Filter.decode) fun filters q => { q with filters },
      field "intent" .required Intent.decode fun intent q => { q with intent }]
    (ofTier "")

end Query

namespace EntityKind

/-- Both kinds. -/
def all : List EntityKind :=
  [speaker, discourse]

def json (k : EntityKind) : Json :=
  .string k.word

def decode : Decoder EntityKind :=
  Decoder.word (all.map fun k => (k.word, k))

end EntityKind

end AnnotationQuery
