import AnnotationQuery.Error
import AnnotationQuery.Regex.Validity
import AnnotationQuery.Text.Blank

/-!
# Well-formed filters

Operators and alignments are read from their spellings, with blanks around them allowed. A filter is
well formed when its operator fits what it compares with: a match pattern has to be valid text, and
membership needs a list unless it refers to an attribute.

* `Operator.read`, `Alignment.read`: the readers.
* `Filter.validate`: the check.
-/

namespace AnnotationQuery

/-- Reads an operator. -/
def Operator.read (text : String) : Except QueryError Operator :=
  let word := Text.trim text
  match spellings.lookup word with
  | some operator => .ok operator
  | none => .error (.invalidFilter (.unknownOperator word))

/-- Reads an alignment. -/
def Alignment.read (text : String) : Except QueryError Alignment :=
  let word := Text.trim text
  match spellings.lookup word with
  | some alignment => .ok alignment
  | none => .error (.invalidFilter (.unknownAlignment word))

namespace Filter

/-- The reason why the operator does not fit what the filter compares with, if it does not. -/
def fault? (f : Filter) : Option FilterFault :=
  match f.operator, f.operand with
  | .regex, .literal (.string pattern) =>
    if Regex.isValid pattern then none else some (.badPattern f.path)
  | .regex, _ => some (.patternNotText f.path)
  | .isIn, .literal (.list _) | .notIn, .literal (.list _) => none
  | .isIn, .literal _ | .notIn, .literal _ => some (.listRequired f.operator f.path)
  | _, _ => none

/-- Checks that the operator fits what the filter compares with (`validate`). -/
def validate (f : Filter) : Except QueryError Unit :=
  match f.fault? with
  | some fault => .error (.invalidFilter fault)
  | none => .ok ()

end Filter

end AnnotationQuery
