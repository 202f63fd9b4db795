import AnnotationQuery.Compiled.Basic
import AnnotationQuery.Digest.Sha1

/-!
# Fingerprints

Statements with the same text and the same parameters have the same fingerprint, under which their
results can be kept.

* `CompiledStatement.signature`: the text that is hashed.
* `CompiledStatement.fingerprint`: its digest.
-/

namespace AnnotationQuery.CompiledStatement

/-- The line for a parameter in the hashed text. -/
def parameterLine (parameter : String × Value) : String :=
  "\n$" ++ parameter.1 ++ "=" ++ parameter.2.literal

/-- The text that identifies the statement and its parameters. -/
def signature (s : CompiledStatement) : String :=
  s.text ++ Text.joined "" (s.parameters.map parameterLine)

/-- The digest of the statement and its parameters (`fingerprint`). -/
def fingerprint (s : CompiledStatement) : String :=
  Sha1.hex s.signature.toUTF8.toList

end AnnotationQuery.CompiledStatement
