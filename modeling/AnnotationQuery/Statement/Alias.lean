import AnnotationQuery.Statement.Basic
import AnnotationQuery.Text.Joined

/-!
# Aliases of a statement

Which aliases the parts of a statement mention. A list comprehension has aliases of its own, so only
the start of its pattern is an alias of the statement.

* `Clause.aliases`: the aliases of a clause, those that it binds included.
* `Statement.boundAliases`: all aliases of the patterns that the statement matches.
-/

namespace AnnotationQuery

def PathPattern.aliases (p : PathPattern) : List String :=
  p.nodes.map (·.aliasName)

mutual

def Expr.aliases : Expr → List String
  | .node name => [name]
  | .property a _ | .duration a | .hasLabel a _ => [a]
  | .column _ | .literal _ | .parameter _ => []
  | .compare left _ right => left.aliases ++ right.aliases
  | .isNull e _ | .negation e => e.aliases
  | .call _ arguments => Expr.aliasesAll arguments
  | .collect pattern _ => [pattern.start.aliasName]

/-- The aliases of expressions. -/
def Expr.aliasesAll : List Expr → List String
  | [] => []
  | e :: es => e.aliases ++ Expr.aliasesAll es

end

theorem Expr.aliasesAll_eq_flatMap (es : List Expr) :
    Expr.aliasesAll es = es.flatMap Expr.aliases := by
  induction es with
  | nil => rfl
  | cons e es ih => simp [Expr.aliasesAll, ih]

def SetItem.aliases : SetItem → List String
  | .property a _ value => a :: value.aliases
  | .label a _ => [a]

def RemoveItem.aliasName : RemoveItem → String
  | .property a _ => a
  | .label a _ => a

namespace Clause

def aliases : Clause → List String
  | matching patterns | optionalMatching patterns => patterns.flatMap PathPattern.aliases
  | filtering conditions => conditions.flatMap Expr.aliases
  | carrying aliases | deleting _ aliases => aliases
  | returning _ items orderBy _ =>
    items.flatMap (·.expr.aliases) ++ orderBy.flatMap (·.expr.aliases)
  | setting items => items.flatMap SetItem.aliases
  | removing items => items.map RemoveItem.aliasName

/-- The aliases of the patterns of a clause that matches. -/
def boundAliases : Clause → List String
  | matching patterns | optionalMatching patterns => patterns.flatMap PathPattern.aliases
  | _ => []

end Clause

/-- The aliases that the statement binds, sorted (`bound_aliases`). -/
def Statement.boundAliases (s : Statement) : List String :=
  Text.sortedNames (s.clauses.flatMap Clause.boundAliases)

end AnnotationQuery
