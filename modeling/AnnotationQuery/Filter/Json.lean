import AnnotationQuery.Filter.Basic
import AnnotationQuery.Value.Json

/-!
# Paths and filters in JSON

A path is an array of its steps and an operator is its text. What a filter compares with is an
object with the single key `Literal` or `Path`.
-/

namespace AnnotationQuery

namespace Path

def json (p : Path) : Json :=
  .ofList .string p.steps

def decode : Decoder Path :=
  fun depth source => (Decoder.list Decoder.string depth source).map Path.mk

end Path

namespace Operator

def json (o : Operator) : Json :=
  .string o.text

def decode : Decoder Operator :=
  Decoder.word (all.map fun o => (o.text, o))

end Operator

namespace Operand

def json : Operand → Json
  | literal value => .object [("Literal", value.json)]
  | path p => .object [("Path", p.json)]

def decode : Decoder Operand :=
  Decoder.choice false []
    [("Literal", fun depth source => (Value.decode depth source).map literal),
      ("Path", fun depth source => (Path.decode depth source).map path)]

end Operand

namespace Filter

def json (f : Filter) : Json :=
  .object [("path", f.path.json), ("operator", f.operator.json), ("value", f.operand.json)]

def decode : Decoder Filter :=
  Decoder.record
    [Decoder.field "path" .required Path.decode fun path f => { f with path },
      Decoder.field "operator" .required Operator.decode fun operator f => { f with operator },
      Decoder.field "value" .required Operand.decode fun operand f => { f with operand }]
    ⟨⟨[]⟩, .equal, .path ⟨[]⟩⟩

end Filter

end AnnotationQuery
