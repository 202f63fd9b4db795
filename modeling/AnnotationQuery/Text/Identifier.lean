/-!
# Identifiers of the statement language

Names of labels, property keys, relationship types and result columns are written as they are when
they are simple: not empty, ASCII letters, digits and `_` only, no digit in front. Every other name
stands between backticks, and a backtick inside is written twice.
-/

namespace AnnotationQuery.Identifier

/-- The quotation mark of names that are not simple. -/
def backtick : Char := '\x60'

/-- The characters of simple names. -/
def isPlain (c : Char) : Bool :=
  c.isAlphanum || c == '_'

/-- Is the name written without quotation marks? -/
def isSimple (name : List Char) : Bool :=
  match name with
  | [] => false
  | c :: _ => !c.isDigit && name.all isPlain

/-- Writes every backtick twice. -/
def escaped : List Char → List Char
  | [] => []
  | c :: cs => if c = backtick then backtick :: backtick :: escaped cs else c :: escaped cs

/-- The written form of a name, character by character. -/
def quotedChars (name : List Char) : List Char :=
  if isSimple name then name else backtick :: escaped name ++ [backtick]

/-- The written form of a name (`write_identifier`). -/
def quoted (name : String) : String :=
  String.ofList (quotedChars name.toList)

end AnnotationQuery.Identifier
