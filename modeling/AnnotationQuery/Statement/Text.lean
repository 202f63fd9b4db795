import AnnotationQuery.Statement.Basic
import AnnotationQuery.Text.Identifier
import AnnotationQuery.Text.Joined

/-!
# Statement text

The text of a statement has one clause per line. Labels, property keys, edge types and column names
are quoted where they are not simple names; aliases are written as they are.
-/

namespace AnnotationQuery

open Identifier Text

/-! ## Patterns -/

def NodePattern.text (n : NodePattern) : String :=
  "(" ++ n.aliasName ++ joined "" (n.labels.map fun label => ":" ++ quoted label) ++ ")"

/-- The edges of a step; a number of edges other than one is written as a range. -/
def PathStep.edgeText (s : PathStep) : String :=
  let count := toString s.hops
  let range := if s.hops = 1 then "" else "*" ++ count ++ ".." ++ count
  (if s.direction = .incoming then "<" else "") ++ "-[:" ++ quoted s.relation ++ range ++ "]-" ++
    (if s.direction = .outgoing then ">" else "")

def PathPattern.text (p : PathPattern) : String :=
  p.start.text ++ joined "" (p.steps.map fun s => s.edgeText ++ s.node.text)

/-! ## Expressions -/

mutual

def Expr.text : Expr → String
  | .node name => name
  | .column name => quoted name
  | .property a key => a ++ "." ++ quoted key
  | .duration a => "(" ++ a ++ ".end - " ++ a ++ ".begin)"
  | .literal value => value.literal
  | .parameter name => "$" ++ name
  | .hasLabel a l => a ++ ":" ++ quoted l
  | .compare left operator right =>
    left.text ++ " " ++ operator.statementText ++ " " ++ right.text
  | .isNull e false => e.text ++ " IS NULL"
  | .isNull e true => e.text ++ " IS NOT NULL"
  | .negation e => "NOT (" ++ e.text ++ ")"
  | .call function arguments => function ++ "(" ++ joined ", " (Expr.textAll arguments) ++ ")"
  | .collect pattern item => "[" ++ pattern.text ++ " | " ++ item.text ++ "]"

/-- The texts of expressions. -/
def Expr.textAll : List Expr → List String
  | [] => []
  | e :: es => e.text :: Expr.textAll es

end

/-! ## Clauses -/

def ReturnItem.text (i : ReturnItem) : String :=
  match i.name with
  | some name => i.expr.text ++ " AS " ++ quoted name
  | none => i.expr.text

/-- The name of the column that an item produces (`column_name`). -/
def ReturnItem.columnName (i : ReturnItem) : String :=
  i.name.getD i.expr.text

def OrderItem.text (i : OrderItem) : String :=
  i.expr.text ++ if i.descending then " DESC" else ""

def SetItem.text : SetItem → String
  | .property a key value => a ++ "." ++ quoted key ++ " = " ++ value.text
  | .label a l => a ++ ":" ++ quoted l

def RemoveItem.text : RemoveItem → String
  | .property a key => a ++ "." ++ quoted key
  | .label a l => a ++ ":" ++ quoted l

namespace Clause

def keyword : Clause → String
  | matching _ => "MATCH"
  | optionalMatching _ => "OPTIONAL MATCH"
  | filtering _ => "WHERE"
  | carrying _ => "WITH"
  | returning _ _ _ _ => "RETURN"
  | setting _ => "SET"
  | removing _ => "REMOVE"
  | deleting true _ => "DETACH DELETE"
  | deleting false _ => "DELETE"

/-- The text behind the keyword. -/
def body : Clause → String
  | matching patterns | optionalMatching patterns => joined ", " (patterns.map PathPattern.text)
  | filtering conditions => joined " AND " (conditions.map Expr.text)
  | carrying aliases | deleting _ aliases => joined ", " aliases
  | returning distinct items orderBy limit =>
    (if distinct then "DISTINCT " else "") ++ joined ", " (items.map ReturnItem.text) ++
      (if orderBy.isEmpty then ""
        else "\nORDER BY " ++ joined ", " (orderBy.map OrderItem.text)) ++
      (match limit with
        | some n => "\nLIMIT " ++ toString n
        | none => "")
  | setting items => joined ", " (items.map SetItem.text)
  | removing items => joined ", " (items.map RemoveItem.text)

def text (c : Clause) : String :=
  c.keyword ++ " " ++ c.body

end Clause

/-- The text of a statement, one clause per line. -/
def Statement.text (s : Statement) : String :=
  joined "\n" (s.clauses.map Clause.text)

end AnnotationQuery
