import AnnotationQuery.Regex.Beginning
import AnnotationQuery.Regex.Meaning
import AnnotationQuery.Regex.Reader.Pattern
import AnnotationQuery.Regex.Room

/-!
# Valid match patterns

A text is a valid match pattern when it can be read, is not nested too deep, has a meaning, and
either is found by looking for texts alone or has automata that do not take too much room.
-/

namespace AnnotationQuery.Regex

/-- The greatest depth of a pattern. -/
def depthLimit : Nat := 250

/-- Is the text a valid match pattern? -/
def isValid (text : String) : Bool :=
  match Pattern.read? text with
  | none => false
  | some pattern =>
    pattern.depth ≤ depthLimit && pattern.normal?.any fun n => n.isSearch || n.fits

end AnnotationQuery.Regex
