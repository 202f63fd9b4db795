import AnnotationQuery.Compiled.Parameter
import AnnotationQuery.Reference
import AnnotationQuery.Statement.Alias
import AnnotationQuery.Statement.Text

/-!
# Compiled statements

A compiled statement is a statement together with the values of its parameters, the names of its
result columns and what the store has to do with it. It first matches patterns and then does
something with the rows.

* `CompiledStatement`: what compilation results in.
* `Ending`: what is done with the rows.
* `Ending.terminal`: the clauses of an ending, before the aliases that they carry on are known.
* `fillCarrying`: fills these aliases in.
-/

namespace AnnotationQuery

/-- What a store does with a statement (`StatementMode`). -/
inductive Mode where
  /-- Returns rows. -/
  | read
  /-- Changes the graph. -/
  | write
  /-- Keeps the rows in a side cache; the statement has to be completed by whoever runs it. -/
  | cache
deriving DecidableEq, Repr

/-- A statement, the values of its parameters and the names of its result columns. -/
structure CompiledStatement where
  statement : Statement
  parameters : Parameters
  columns : List String
  mode : Mode
deriving Repr

/-- The text of the statement. -/
def CompiledStatement.text (s : CompiledStatement) : String :=
  s.statement.text

/-! ## What is done with the rows -/

/-- What stands behind the matched patterns. -/
inductive Ending where
  | returning (distinct : Bool) (items : List ReturnItem) (orderBy : List OrderItem)
      (limit : Option Nat)
  | settingProperties (set : List SetItem) (remove : List RemoveItem)
  | settingLabels (items : List SetItem)
  | removingLabels (items : List RemoveItem)
  | deleting (aliasName : String)
  | caching
deriving Repr

namespace Ending

/-- The names of the result columns. -/
def columns : Ending → List String
  | returning _ items _ _ => items.map (·.columnName)
  | _ => []

def mode : Ending → Mode
  | returning _ _ _ _ => .read
  | caching => .cache
  | _ => .write

/-- The clauses of an ending, given all aliases. The `WITH` between setting and removing properties
holds the place of the aliases that are still needed. -/
def terminal (aliases : List String) : Ending → List Clause
  | returning distinct items orderBy limit => [.returning distinct items orderBy limit]
  | settingProperties set remove =>
    (if set.isEmpty then [] else [.setting set]) ++
      if remove.isEmpty then [] else
        (if set.isEmpty then [] else [.carrying []]) ++ [.removing remove]
  | settingLabels items => [.setting items]
  | removingLabels items => [.removing items]
  | deleting aliasName => [.deleting true [aliasName]]
  | caching => [.carrying aliases]

end Ending

/-! ## Carrying aliases on -/

/-- Those of the available aliases that clauses mention; the anchor if there are none
(`carry_forward`). -/
def carryForward (anchor : Reference) (available : List String) (clauses : List Clause) :
    List String :=
  let mentioned := clauses.flatMap Clause.aliases
  match available.filter (mentioned.contains ·) with
  | [] => [anchor.aliasName]
  | aliases => aliases

/-- Fills in the places of aliases that are carried on. -/
def fillCarrying (anchor : Reference) (available : List String) : List Clause → List Clause
  | [] => []
  | clause :: rest =>
    match clause with
    | .carrying [] =>
      .carrying (carryForward anchor available rest) :: fillCarrying anchor available rest
    | clause => clause :: fillCarrying anchor available rest

end AnnotationQuery
