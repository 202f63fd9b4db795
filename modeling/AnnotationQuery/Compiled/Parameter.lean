import AnnotationQuery.Statement.Basic

/-!
# Parameters

The values of a statement can be passed beside it as parameters. While the statement is put together
each value takes the next name in turn: it is counted by the parameters there are so far. The same
parameters result when the literals of a finished statement are numbered from left to right.

* `Parameters.value`: writes a value as the next parameter, or in place.
* `Statement.lift`: replaces the literals by parameters and lists their values.
* `Parameters.ofValues`: the parameters with their names, sorted by name.
-/

namespace AnnotationQuery

/-- Parameter values by name, sorted by name. -/
abbrev Parameters := List (String × Value)

namespace Parameters

/-- The name of a parameter. -/
def nameOf (n : Nat) : String :=
  "p" ++ toString n

/-- The parameters with the value under a name, in place of another value of that name. -/
def insert (parameters : Parameters) (name : String) (v : Value) : Parameters :=
  match parameters with
  | [] => [(name, v)]
  | (other, w) :: rest =>
    if name = other then (name, v) :: rest
    else if name < other then (name, v) :: (other, w) :: rest
    else (other, w) :: insert rest name v

/-- Writes a value: it becomes the next parameter, or stays in place (`value`). -/
def value (parameterize : Bool) (parameters : Parameters) (v : Value) : Expr × Parameters :=
  if parameterize then
    let name := nameOf parameters.length
    (.parameter name, parameters.insert name v)
  else (.literal v, parameters)

/-- The parameters with the given values in turn, sorted by name. -/
def ofValues (values : List Value) : Parameters :=
  (values.zipIdx.map fun (v, n) => (nameOf n, v)).mergeSort fun a b => a.1 ≤ b.1

end Parameters

mutual

/-- Replaces the literals of an expression by the parameters from number `n` on. -/
def Expr.lift (n : Nat) : Expr → Expr × List Value
  | .literal v => (.parameter (Parameters.nameOf n), [v])
  | .compare left operator right =>
    let (left, vs) := left.lift n
    let (right, ws) := right.lift (n + vs.length)
    (.compare left operator right, vs ++ ws)
  | .isNull e negated =>
    let (e, vs) := e.lift n
    (.isNull e negated, vs)
  | .negation e =>
    let (e, vs) := e.lift n
    (.negation e, vs)
  | .call function arguments =>
    let (arguments, vs) := Expr.liftAll n arguments
    (.call function arguments, vs)
  | .collect pattern item =>
    let (item, vs) := item.lift n
    (.collect pattern item, vs)
  | .node name => (.node name, [])
  | .column name => (.column name, [])
  | .property a key => (.property a key, [])
  | .duration a => (.duration a, [])
  | .parameter name => (.parameter name, [])
  | .hasLabel a l => (.hasLabel a l, [])

/-- Replaces the literals of expressions, from left to right. -/
def Expr.liftAll (n : Nat) : List Expr → List Expr × List Value
  | [] => ([], [])
  | e :: es =>
    let (e, vs) := e.lift n
    let (es, ws) := Expr.liftAll (n + vs.length) es
    (e :: es, vs ++ ws)

end

/-- Replaces the literals of the items of a list from left to right. -/
def liftEach (lift : Nat → α → α × List Value) (n : Nat) : List α → List α × List Value
  | [] => ([], [])
  | a :: as =>
    let (a, vs) := lift n a
    let (as, ws) := liftEach lift (n + vs.length) as
    (a :: as, vs ++ ws)

def SetItem.lift (n : Nat) : SetItem → SetItem × List Value
  | .property a key value =>
    let (value, vs) := value.lift n
    (.property a key value, vs)
  | .label a l => (.label a l, [])

def ReturnItem.lift (n : Nat) (i : ReturnItem) : ReturnItem × List Value :=
  let (expr, vs) := i.expr.lift n
  (⟨expr, i.name⟩, vs)

def OrderItem.lift (n : Nat) (i : OrderItem) : OrderItem × List Value :=
  let (expr, vs) := i.expr.lift n
  (⟨expr, i.descending⟩, vs)

/-- Replaces the literals of a clause by the parameters from number `n` on. -/
def Clause.lift (n : Nat) : Clause → Clause × List Value
  | .filtering conditions =>
    let (conditions, vs) := Expr.liftAll n conditions
    (.filtering conditions, vs)
  | .returning distinct items orderBy limit =>
    let (items, vs) := liftEach ReturnItem.lift n items
    let (orderBy, ws) := liftEach OrderItem.lift (n + vs.length) orderBy
    (.returning distinct items orderBy limit, vs ++ ws)
  | .setting items =>
    let (items, vs) := liftEach SetItem.lift n items
    (.setting items, vs)
  | .matching patterns => (.matching patterns, [])
  | .optionalMatching patterns => (.optionalMatching patterns, [])
  | .carrying aliases => (.carrying aliases, [])
  | .removing items => (.removing items, [])
  | .deleting detach aliases => (.deleting detach aliases, [])

/-- Replaces the literals of a statement by parameters, from left to right. -/
def Statement.lift (s : Statement) : Statement × List Value :=
  let (clauses, vs) := liftEach Clause.lift 0 s.clauses
  (⟨clauses⟩, vs)

end AnnotationQuery
