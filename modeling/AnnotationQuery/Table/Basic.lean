import AnnotationQuery.Error

/-!
# Result tables

Rows under named columns. Column names may be repeated; a name stands for the first column that has
it. A table is built row by row, and then each row has as many cells as there are columns.

* `Table.push`: adds a row of the right width.
* `Table.append`: adds the rows of another table under this table's columns.
-/

namespace AnnotationQuery

/-- Named columns and rows of cells (`ResultTable`). -/
structure Table where
  columns : List String
  rows : List (List Value)
deriving Repr

namespace Table

/-- A table without rows. -/
def ofColumns (columns : List String) : Table :=
  ⟨columns, []⟩

/-- Adds a row (`push_row`); it needs one cell for each column. -/
def push (t : Table) (row : List Value) : Except QueryError Table :=
  if row.length = t.columns.length then .ok { t with rows := t.rows ++ [row] }
  else .error (.rowWidth row.length t.columns.length)

/-- The table with the given rows. -/
def ofRows (columns : List String) (rows : List (List Value)) : Except QueryError Table :=
  rows.foldlM push (ofColumns columns)

def isEmpty (t : Table) : Bool :=
  t.rows.isEmpty

/-- The position of the first column with a name (`column_index`). -/
def index? (t : Table) (name : String) : Option Nat :=
  t.columns.findIdx? (· == name)

/-- The cell of a row under a column (`get`). -/
def get? (t : Table) (row : Nat) (name : String) : Option Value := do
  let i ← t.index? name
  (← t.rows[row]?)[i]?

/-- The cells under a column (`column`). -/
def column? (t : Table) (name : String) : Option (List Value) :=
  (t.index? name).map fun i => t.rows.filterMap (·[i]?)

/-! ## Appending -/

/-- The cells of a row of `other` in the order of the given columns, where each cell is used once: a
name that stands in the columns a second time gets null there, like a name that `other` lacks. -/
def rearranged (other : Table) (row : List Value) : List String → List String → List Value
  | _, [] => []
  | seen, name :: names =>
    let cell :=
      if seen.contains name then .null
      else (((other.index? name).bind (row[·]?)).getD .null)
    cell :: rearranged other row (name :: seen) names

/-- Adds the rows of another table (`append`). Under equal headers they are taken as they are,
otherwise their cells are rearranged by column name. -/
def append (t other : Table) : Table :=
  if other.columns = t.columns then { t with rows := t.rows ++ other.rows }
  else { t with rows := t.rows ++ other.rows.map fun row => other.rearranged row [] t.columns }

/-- Puts tables with rows together under the columns of the first of them (`merge`); the fallback
columns stand in when no table has rows. -/
def merge (tables : List Table) (fallback : List String) : Table :=
  let filled := tables.filter (!·.isEmpty)
  filled.foldl append (ofColumns ((filled.head?.map (·.columns)).getD fallback))

theorem columns_append (t other : Table) : (t.append other).columns = t.columns := by
  unfold append; split <;> rfl

end Table

end AnnotationQuery
