import AnnotationQuery.Compiled.Term
import AnnotationQuery.Statement.Text

/-!
# Output

A projection becomes one `RETURN` clause. A sort key that names a result column, or whose path is
that of a column, refers to the column; any other one is an expression of its own, which is not
allowed when rows are grouped or made distinct, because then only the result columns are left.

* `Output.ofProjection`: the clause, the columns and the nodes of a projection.
-/

namespace AnnotationQuery

/-- What a projection adds to a statement. -/
structure Output where
  nodes : List Node
  items : List ReturnItem
  orderBy : List OrderItem
deriving Repr

/-- An expression with the nodes that it refers to. -/
structure OutputExpr where
  nodes : List Node
  expr : Expr
deriving Repr

namespace Corpus

/-- The expression of an output path (`output`). -/
def outputExpr (c : Corpus) (tier : String) (path : Path) : Except QueryError OutputExpr := do
  let term ← c.outputTerm tier path
  return ⟨[term.node], term.expr⟩

/-- The returned item of a column. -/
def columnItem (c : Corpus) (tier : String) (column : Column) :
    Except QueryError (List Node × ReturnItem) := do
  let output ← c.outputExpr tier column.path
  return (output.nodes, ⟨output.expr, some column.name⟩)

/-- The returned item of an aggregate. -/
def aggregateItem (c : Corpus) (tier : String) (aggregate : Aggregate) :
    Except QueryError (List Node × ReturnItem) := do
  let argument ←
    match aggregate.path with
    | some path => c.outputExpr tier path
    | none => pure ⟨[], .node (c.anchor tier).aliasName⟩
  return (argument.nodes,
    ⟨.call aggregate.function.statementName [argument.expr], some aggregate.name⟩)

end Corpus

namespace Projection

/-- The result column that a sort key refers to: the one that it names, or the first column with its
path. -/
def orderColumn? (p : Projection) (columns : List String) (key : OrderKey) : Option String :=
  let byName :=
    match key.path.steps with
    | [name] => if name ∈ columns then some name else none
    | _ => none
  byName.or ((p.columns.find? (·.path == key.path)).map (·.name))

/-- The expression of a sort key. -/
def orderExpr (c : Corpus) (tier : String) (p : Projection) (columns : List String)
    (key : OrderKey) : Except QueryError OutputExpr :=
  match p.orderColumn? columns key with
  | some name => .ok ⟨[], .column name⟩
  | none =>
    if p.isAggregate then .error (.invalidPath key.path .orderNotGrouped)
    else if p.distinct then .error (.invalidPath key.path .orderNotReturned)
    else c.outputExpr tier key.path

/-- The row limit; grouped rows have none. -/
def effectiveLimit (p : Projection) : Option Nat :=
  if p.isAggregate then none else p.limit

/-- The returned items with their nodes; the anchor is returned when nothing else is. -/
def items (c : Corpus) (tier : String) (p : Projection) :
    Except QueryError (List (List Node × ReturnItem)) := do
  let columns ← p.columns.mapM (c.columnItem tier)
  let aggregates ← p.aggregates.mapM (c.aggregateItem tier)
  let items := columns ++ aggregates
  if items.isEmpty then return [([], ⟨.node (c.anchor tier).aliasName, none⟩)] else return items

end Projection

/-- What a projection adds to a statement (`projection`). -/
def Output.ofProjection (c : Corpus) (tier : String) (p : Projection) :
    Except QueryError Output := do
  let items ← p.items c tier
  let columns := items.map (·.2.columnName)
  let keys ← p.orderBy.mapM fun key => do
    let output ← p.orderExpr c tier columns key
    return (output.nodes, (⟨output.expr, key.descending⟩ : OrderItem))
  return ⟨items.flatMap (·.1) ++ keys.flatMap (·.1), items.map (·.2), keys.map (·.2)⟩

end AnnotationQuery
