import AnnotationQuery.Hierarchy.Basic
import AnnotationQuery.Json.Decoder

/-!
# Hierarchies in JSON

Every declaration is an object. Lists of declarations may be left out, except the list of tiers.
-/

namespace AnnotationQuery

open Decoder

namespace ValueKind

/-- All kinds. -/
def all : List ValueKind :=
  [integer, float, string, boolean]

def json (k : ValueKind) : Json :=
  .string k.word

def decode : Decoder ValueKind :=
  Decoder.word (all.map fun k => (k.word, k))

end ValueKind

namespace Property

def json (p : Property) : Json :=
  .object [("name", .string p.name), ("kind", p.kind.json)]

def decode : Decoder Property :=
  record
    [field "name" .required string fun name p => { p with name },
      field "kind" .required ValueKind.decode fun kind p => { p with kind }]
    ⟨"", .integer⟩

end Property

namespace Subannotation

def json (s : Subannotation) : Json :=
  .object [("name", .string s.name), ("properties", .ofList Property.json s.properties)]

def decode : Decoder Subannotation :=
  record
    [field "name" .required string fun name s => { s with name },
      field "properties" .defaulted (list Property.decode) fun properties s =>
        { s with properties }]
    ⟨"", []⟩

end Subannotation

namespace Tier

def json (t : Tier) : Json :=
  .object
    [("name", .string t.name),
      ("token_properties", .ofList Property.json t.tokenProperties),
      ("type_properties", .ofList Property.json t.typeProperties),
      ("token_subsets", .ofList .string t.tokenSubsets),
      ("type_subsets", .ofList .string t.typeSubsets),
      ("subannotations", .ofList Subannotation.json t.subannotations)]

def decode : Decoder Tier :=
  record
    [field "name" .required string fun name t => { t with name },
      field "token_properties" .defaulted (list Property.decode) fun tokenProperties t =>
        { t with tokenProperties },
      field "type_properties" .defaulted (list Property.decode) fun typeProperties t =>
        { t with typeProperties },
      field "token_subsets" .defaulted (list string) fun tokenSubsets t =>
        { t with tokenSubsets },
      field "type_subsets" .defaulted (list string) fun typeSubsets t => { t with typeSubsets },
      field "subannotations" .defaulted (list Subannotation.decode) fun subannotations t =>
        { t with subannotations }]
    (bare "")

end Tier

namespace Hierarchy

def json (h : Hierarchy) : Json :=
  .object
    [("corpus", .string h.corpus),
      ("tiers", .ofList Tier.json h.tiers),
      ("speaker_properties", .ofList Property.json h.speakerProperties),
      ("discourse_properties", .ofList Property.json h.discourseProperties)]

def decode : Decoder Hierarchy :=
  record
    [field "corpus" .required string fun corpus h => { h with corpus },
      field "tiers" .required (list Tier.decode) fun tiers h => { h with tiers },
      field "speaker_properties" .defaulted (list Property.decode) fun speakerProperties h =>
        { h with speakerProperties },
      field "discourse_properties" .defaulted (list Property.decode) fun discourseProperties h =>
        { h with discourseProperties }]
    ⟨"", [], [], []⟩

end Hierarchy

end AnnotationQuery
