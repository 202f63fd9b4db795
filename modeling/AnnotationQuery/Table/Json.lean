import AnnotationQuery.Table.Basic
import AnnotationQuery.Value.Json

/-!
# Tables in JSON

A table is an object with its columns and its rows; the cells are values.

* `Table.decode`: decodes a table, whatever the width of its rows.
* `Table.checkWidths`: checks that every row is as wide as the header.
-/

namespace AnnotationQuery.Table

open Decoder

def json (t : Table) : Json :=
  .object
    [("columns", .ofList .string t.columns),
      ("rows", .ofList (fun row => .ofList Value.json row) t.rows)]

def decode : Decoder Table :=
  record
    [field "columns" .required (list string) fun columns t => { t with columns },
      field "rows" .required (list (list Value.decode)) fun rows t => { t with rows }]
    (ofColumns [])

/-- Checks that every row of a table from a file is as wide as the header. -/
def checkWidths (name : String) (t : Table) : Except QueryError Table :=
  match t.rows.find? (·.length != t.columns.length) with
  | some row => .error (.fileRowWidth name row.length t.columns.length)
  | none => .ok t

end AnnotationQuery.Table
