import AnnotationQuery.Filter.Basic

/-!
# Statements

A statement asks a graph store for the nodes that match patterns. It is a list of clauses; the
patterns bind graph nodes to aliases, and expressions refer to the aliases.

* `PathPattern`: a chain of nodes joined by edges.
* `Expr`, `Clause`, `Statement`: the syntax.
-/

namespace AnnotationQuery

/-! ## Patterns -/

/-- The direction in which an edge is followed. -/
inductive Direction where
  | outgoing
  | incoming
deriving DecidableEq, Repr

/-- A graph node in a pattern. A pattern without labels refers to an alias bound before. -/
structure NodePattern where
  aliasName : String
  labels : List String
deriving DecidableEq, Repr

/-- The pattern of a node that is bound already. -/
def NodePattern.bound (aliasName : String) : NodePattern :=
  ⟨aliasName, []⟩

/-- A number of edges of one type and direction, and the node at their end (`RelPattern`). -/
structure PathStep where
  relation : String
  direction : Direction
  hops : Nat
  node : NodePattern
deriving DecidableEq, Repr

/-- A chain of nodes joined by edges. -/
structure PathPattern where
  start : NodePattern
  steps : List PathStep
deriving DecidableEq, Repr

namespace PathPattern

/-- The pattern of a single node. -/
def single (node : NodePattern) : PathPattern :=
  ⟨node, []⟩

/-- The pattern with one more step (`then`). -/
def andThen (p : PathPattern) (step : PathStep) : PathPattern :=
  ⟨p.start, p.steps ++ [step]⟩

/-- All nodes of the pattern in order. -/
def nodes (p : PathPattern) : List NodePattern :=
  p.start :: p.steps.map (·.node)

/-- Does a step span more or fewer edges than one (`has_variable_length`)? -/
def hasVariableLength (p : PathPattern) : Bool :=
  p.steps.any (·.hops != 1)

end PathPattern

/-! ## Expressions -/

/-- An expression. -/
inductive Expr where
  /-- A graph node itself. -/
  | node (aliasName : String)
  /-- A result column. -/
  | column (name : String)
  | property (aliasName key : String)
  /-- The time from the begin to the end of an annotation. -/
  | duration (aliasName : String)
  | literal (value : Value)
  | parameter (name : String)
  | hasLabel (aliasName label : String)
  | compare (left : Expr) (operator : Operator) (right : Expr)
  | isNull (e : Expr) (negated : Bool)
  | negation (e : Expr)
  | call (function : String) (arguments : List Expr)
  /-- The list of an expression's values over all matches of a pattern. -/
  | collect (pattern : PathPattern) (item : Expr)
deriving Repr

/-- The comparison of two expressions (`compare`). `not in` is a negated membership. -/
def Expr.comparison (left : Expr) (operator : Operator) (right : Expr) : Expr :=
  match operator with
  | .notIn => .negation (.compare left .isIn right)
  | operator => .compare left operator right

/-! ## Clauses -/

/-- A returned expression and the name it is returned under, if it gets a name. -/
structure ReturnItem where
  expr : Expr
  name : Option String
deriving Repr

/-- A sort key of the returned rows. -/
structure OrderItem where
  expr : Expr
  descending : Bool
deriving Repr

/-- Something that is set on a node. -/
inductive SetItem where
  | property (aliasName key : String) (value : Expr)
  | label (aliasName label : String)
deriving Repr

/-- Something that is removed from a node. -/
inductive RemoveItem where
  | property (aliasName key : String)
  | label (aliasName label : String)
deriving DecidableEq, Repr

/-- A clause. -/
inductive Clause where
  | matching (patterns : List PathPattern)
  /-- Binds the aliases to nothing where the patterns do not match. -/
  | optionalMatching (patterns : List PathPattern)
  /-- All conditions have to hold. -/
  | filtering (conditions : List Expr)
  /-- Keeps the listed aliases and forgets the others. -/
  | carrying (aliases : List String)
  | returning (distinct : Bool) (items : List ReturnItem) (orderBy : List OrderItem)
      (limit : Option Nat)
  | setting (items : List SetItem)
  | removing (items : List RemoveItem)
  | deleting (detach : Bool) (aliases : List String)
deriving Repr

/-- A statement: clauses in order. -/
structure Statement where
  clauses : List Clause
deriving Repr

end AnnotationQuery
