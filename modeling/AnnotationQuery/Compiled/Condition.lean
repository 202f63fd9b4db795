import AnnotationQuery.Compiled.Parameter
import AnnotationQuery.Compiled.Term
import AnnotationQuery.Filter.Validity
import AnnotationQuery.Statement.Text

/-!
# Conditions

Every filter becomes one condition. The value of a filter becomes the next parameter or stays in
place; a test for null, a test for membership in a subset and a comparison of two attributes take no
parameter. A comparison of two attributes is written with the operand in front whose text comes
first, so that both ways to state it give the same condition.

* `Corpus.writeCondition`: the condition of a filter, and the parameters there are then.
* `Corpus.condition`: the condition with its value in place.
* `Corpus.conditions`: the conditions of filters in order, up to the first fault.
-/

namespace AnnotationQuery

/-- A condition and the graph nodes that it refers to. -/
structure Condition where
  nodes : List Node
  expr : Expr
deriving Repr

namespace Condition

/-- Compares two terms; the one with the smaller text comes first where the operator allows it. -/
def ofTerms (left : Term) (operator : Operator) (right : Term) : Condition :=
  let nodes := [left.node, right.node]
  match operator.flipped? with
  | some flipped =>
    if right.expr.text < left.expr.text then ⟨nodes, .comparison right.expr flipped left.expr⟩
    else ⟨nodes, .comparison left.expr operator right.expr⟩
  | none => ⟨nodes, .comparison left.expr operator right.expr⟩

/-- Compares a term with a value. Equality with null is a test of its own. -/
def writeValue (parameterize : Bool) (parameters : Parameters) (term : Term) (operator : Operator)
    (value : Value) : Condition × Parameters :=
  match operator, value with
  | .equal, .null => (⟨[term.node], .isNull term.expr false⟩, parameters)
  | .notEqual, .null => (⟨[term.node], .isNull term.expr true⟩, parameters)
  | operator, value =>
    let (operand, parameters) := parameters.value parameterize value
    (⟨[term.node], .comparison term.expr operator operand⟩, parameters)

/-- Compares a term with a value in place. -/
def ofValue (term : Term) (operator : Operator) (value : Value) : Condition :=
  (writeValue false [] term operator value).1

/-- Tests the membership of an annotation in the subset that a filter names
(`subset_condition`). -/
def ofSubset (h : Hierarchy) (f : Filter) (r : Reference) (value : Value) :
    Except FilterFault Condition :=
  match value with
  | .string name =>
    match (h.tier? r.tier).bind (·.subsetSide? name) with
    | none => .error (.notSubset name r.tier)
    | some side =>
      let node := Node.ofSide r side
      let test := Expr.hasLabel node.aliasName name
      match f.operator with
      | .equal => .ok ⟨[node], test⟩
      | .notEqual => .ok ⟨[node], .negation test⟩
      | _ => .error (.subsetOperator f)
  | _ => .error (.subsetNotNamed f)

end Condition

namespace Corpus

/-- Writes the condition of a filter, as seen from the anchor of queries on a tier (`condition`). -/
def writeCondition (c : Corpus) (parameterize : Bool) (tier : String) (f : Filter)
    (parameters : Parameters) : Except QueryError (Condition × Parameters) := do
  f.validate
  let resolved ← c.resolve tier f.path
  match f.operand with
  | .path other =>
    let otherResolved ← c.resolve tier other
    let left ← resolved.term.mapError (.invalidPath f.path)
    let right ← otherResolved.term.mapError (.invalidPath other)
    return (.ofTerms left f.operator right, parameters)
  | .literal value =>
    match resolved with
    | .subset r =>
      let condition ← (Condition.ofSubset c.hierarchy f r value).mapError .invalidFilter
      return (condition, parameters)
    | resolved =>
      let left ← resolved.term.mapError (.invalidPath f.path)
      return Condition.writeValue parameterize parameters left f.operator value

/-- The condition of a filter with its value in place. -/
def condition (c : Corpus) (tier : String) (f : Filter) : Except QueryError Condition := do
  let (condition, _) ← c.writeCondition false tier f []
  return condition

/-- The conditions of filters in order. -/
def conditions (c : Corpus) (tier : String) (filters : List Filter) :
    Except QueryError (List Condition) :=
  filters.mapM (c.condition tier)

end Corpus

end AnnotationQuery
