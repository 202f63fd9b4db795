import AnnotationQuery.Table.Basic

/-!
# Comma separated values

A table is exported with a record for its header and one for each row. A field stands between double
quotes when it holds a comma, a quote or a line break, and quotes inside it are doubled. A record
that would be an empty line is written as an empty quoted field.

* `Csv.recordChars`: the line of a record.
* `Table.csv`: the text of a table; every row has to be as wide as the header.
-/

namespace AnnotationQuery

namespace Csv

def quote : Char := '"'

/-- The characters that make a field stand between quotes. -/
def isSpecial (c : Char) : Bool :=
  c == ',' || c == quote || c == '\r' || c == '\n'

/-- Writes every quote twice. -/
def doubled : List Char → List Char
  | [] => []
  | c :: cs => if c = quote then quote :: quote :: doubled cs else c :: doubled cs

def quotedField (field : List Char) : List Char :=
  quote :: doubled field ++ [quote]

def fieldChars (field : List Char) : List Char :=
  if field.any isSpecial then quotedField field else field

/-- The line of a record, with its line feed. -/
def recordChars (fields : List (List Char)) : List Char :=
  let line := [','].intercalate (fields.map fieldChars)
  (if line.isEmpty then quotedField [] else line) ++ ['\n']

end Csv

namespace Table

/-- The fields of a row. -/
def fields (row : List Value) : List (List Char) :=
  row.map Value.displayChars

/-- The text of a table (`to_csv_writer`). -/
def csv (t : Table) : Except QueryError String :=
  if t.rows.all (·.length == t.columns.length) then
    .ok (String.ofList ((t.columns.map String.toList :: t.rows.map fields).flatMap
      Csv.recordChars))
  else .error (.recordWidth "Writing row")

end Table

end AnnotationQuery
