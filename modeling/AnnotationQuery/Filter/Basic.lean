import AnnotationQuery.Path.Basic
import AnnotationQuery.Value.Literal

/-!
# Filters

A filter compares an attribute with a literal value or with another attribute. Alignments are
filters on a shared boundary of two annotations.

* `Operator.flipped?`: the operator that holds with swapped operands.
* `Filter.aligned`, `Filter.isAlignment`: building and recognising alignments.
* `flipped?_flipped?`: flipping twice changes nothing.
-/

namespace AnnotationQuery

/-- A comparison. -/
inductive Operator where
  | equal
  | notEqual
  | greater
  | greaterEqual
  | less
  | lessEqual
  | isIn
  | notIn
  | regex
deriving DecidableEq, Repr

namespace Operator

/-- The text of an operator. -/
def text : Operator → String
  | equal => "=="
  | notEqual => "!="
  | greater => ">"
  | greaterEqual => ">="
  | less => "<"
  | lessEqual => "<="
  | isIn => "in"
  | notIn => "not in"
  | regex => "regex"

/-- The operator in a statement, where `not in` is a negated `IN` (`as_statement_str`). -/
def statementText : Operator → String
  | equal => "="
  | notEqual => "<>"
  | greater => ">"
  | greaterEqual => ">="
  | less => "<"
  | lessEqual => "<="
  | isIn | notIn => "IN"
  | regex => "=~"

/-- The operator that holds of swapped operands, for those that have one (`flipped`). -/
def flipped? : Operator → Option Operator
  | equal => some equal
  | notEqual => some notEqual
  | greater => some less
  | greaterEqual => some lessEqual
  | less => some greater
  | lessEqual => some greaterEqual
  | isIn | notIn | regex => none

/-- All operators. -/
def all : List Operator :=
  [equal, notEqual, greater, greaterEqual, less, lessEqual, isIn, notIn, regex]

/-- The spellings of the operators. -/
def spellings : List (String × Operator) :=
  [("==", equal), ("=", equal), ("!=", notEqual), ("<>", notEqual), (">", greater),
    (">=", greaterEqual), ("<", less), ("<=", lessEqual), ("in", isIn), ("IN", isIn),
    ("not in", notIn), ("NOT IN", notIn), ("not_in", notIn), ("regex", regex), ("=~", regex)]

theorem flipped?_flipped? {o p : Operator} (h : o.flipped? = some p) : p.flipped? = some o := by
  cases o <;> simp_all [flipped?] <;> subst h <;> rfl

end Operator

/-- How two annotations share or do not share a boundary. -/
inductive Alignment where
  | right
  | left
  | notRight
  | notLeft
deriving DecidableEq, Repr

namespace Alignment

/-- The spellings of the alignments. -/
def spellings : List (String × Alignment) :=
  [("right aligned with", right), ("left aligned with", left),
    ("not right aligned with", notRight), ("not left aligned with", notLeft)]

/-- The boundary that is compared. -/
def boundary : Alignment → String
  | right | notRight => "end"
  | left | notLeft => "begin"

/-- How the boundaries are compared. -/
def operator : Alignment → Operator
  | right | left => .equal
  | notRight | notLeft => .notEqual

end Alignment

/-- What a filter compares with (`FilterValue`). -/
inductive Operand where
  | literal (value : Value)
  | path (path : Path)
deriving Repr

/-- A condition on an attribute. -/
structure Filter where
  path : Path
  operator : Operator
  operand : Operand
deriving Repr

namespace Filter

/-- The filter that states an alignment of two annotations (`aligned`). -/
def aligned (path : Path) (alignment : Alignment) (other : Path) : Filter :=
  ⟨path.join alignment.boundary, alignment.operator, .path (other.join alignment.boundary)⟩

/-- Does the filter compare the same boundary of two annotations for equality (`is_alignment`)? -/
def isAlignment (f : Filter) : Bool :=
  match f.path.last?, f.operand with
  | some step, .path other =>
    (step == "begin" || step == "end") && (f.operator == .equal || f.operator == .notEqual) &&
      other.last? == some step
  | _, _ => false

/-- The text of a filter. -/
def text (f : Filter) : String :=
  f.path.text ++ " " ++ f.operator.text ++ " " ++
    match f.operand with
    | .literal value => value.literal
    | .path path => path.text

end Filter

end AnnotationQuery
