import AnnotationQuery.Compiled.Basic
import AnnotationQuery.Compiled.Condition
import AnnotationQuery.Compiled.Mutation
import AnnotationQuery.Compiled.Output
import AnnotationQuery.Node.Collected
import AnnotationQuery.Node.Order

/-!
# Compiling a query

A query becomes a statement that first matches all nodes that its filters need: rows that lack one
of them are left out. Nodes that only the output needs are matched optionally, one pattern at a
time, so that they never leave a row out. The clauses stand in a fixed order: `MATCH`, `WHERE`,
`WITH`, the `OPTIONAL MATCH` clauses and what is done with the rows.

Compilation goes through the filters and then the intent, and collects nodes, conditions and
parameters. When all nodes are known they are put into binding order and bound one after the other.

* `Generation`: the state of a compilation.
* `Generation.addFilter`, `Generation.addIntent`: go through a filter and through the intent.
* `Generation.assemble`: puts the statement together.
* `Corpus.compileIn`: compiles a query, with sets of nodes listed in a given order.
* `Corpus.compile`: compiles a query, with sets of nodes listed as they came in.
-/

namespace AnnotationQuery

/-- The state of a compilation (`Generation`). -/
structure Generation where
  collected : Collected
  conditions : List Expr
  parameters : Parameters
deriving Repr

namespace Generation

/-- The state before anything is collected. -/
def empty : Generation :=
  ⟨.empty, [], []⟩

/-! ## Filters and intents -/

/-- Adds the condition of a filter. Every node that it refers to is required (`add_filter`). -/
def addFilter (c : Corpus) (tier : String) (g : Generation) (f : Filter) :
    Except QueryError Generation := do
  let (condition, parameters) ← c.writeCondition c.config.parameterize tier f g.parameters
  return ⟨condition.nodes.foldl .require g.collected, g.conditions ++ [condition.expr], parameters⟩

end Generation

/-- The type node of the anchor, if anything is done with it. -/
def typeDemand (anchor : Reference) (updates : List α) : List Node :=
  if updates.isEmpty then [] else [.type anchor]

namespace Generation

/-- Adds what an intent needs, and finds what it does with the rows. -/
def addIntent (c : Corpus) (tier : String) (g : Generation) :
    Intent → Except QueryError (Ending × Generation)
  | .project p => do
    let output ← Output.ofProjection c tier p
    return (.returning p.distinct output.items output.orderBy p.effectiveLimit,
      { g with collected := output.nodes.foldl .want g.collected })
  | .setProperties u =>
    let anchor := c.anchor tier
    let collected := (typeDemand anchor u.type).foldl .require g.collected
    let (items, parameters) :=
      writeAssignments c.config.parameterize g.parameters (u.effective anchor)
    return (.settingProperties items (u.removeItems anchor), { g with collected, parameters })
  | .setLabels u =>
    let anchor := c.anchor tier
    return (.settingLabels ((u.items anchor).map fun (aliasName, label) => .label aliasName label),
      { g with collected := (typeDemand anchor u.type).foldl .require g.collected })
  | .removeLabels u =>
    let anchor := c.anchor tier
    return (.removingLabels ((u.items anchor).map fun (aliasName, label) => .label aliasName label),
      { g with collected := (typeDemand anchor u.type).foldl .require g.collected })
  | .delete => return (.deleting (c.anchor tier).aliasName, g)
  | .cache => return (.caching, g)

/-! ## Statements -/

/-- Binds the nodes and puts all clauses together (`assemble`). -/
def assemble (l : Listing) (h : Hierarchy) (anchor : Reference) (g : Generation)
    (ending : Ending) : Except QueryError Statement := do
  let required := l.sorted g.collected.required
  let optional := l.sorted g.collected.optional
  let (patterns, bound) ← Group.bindAll h required [] required
  let requiredAliases := bound.map Node.aliasName
  let (optionalPatterns, bound) ← Group.bindAll h optional bound optional
  let aliases := bound.map Node.aliasName
  let later := fillCarrying anchor aliases
    (optionalPatterns.map (fun pattern => .optionalMatching [pattern]) ++ ending.terminal aliases)
  return ⟨[.matching patterns] ++
    (if g.conditions.isEmpty then [] else [.filtering g.conditions]) ++
    (if optionalPatterns.isEmpty then []
      else [.carrying (carryForward anchor requiredAliases later)]) ++ later⟩

end Generation

namespace Corpus

/-- Compiles a query, with sets of nodes listed in a given order (`compile`). -/
def compileIn (l : Listing) (c : Corpus) (q : Query) : Except QueryError CompiledStatement := do
  if let some fault := q.intent.mutationFault? then throw (.invalidMutation fault)
  let _ ← c.hierarchy.tier q.tier
  let anchor := c.anchor q.tier
  let g := { Generation.empty with collected := Collected.empty.require (.token anchor) }
  let g ← q.effectiveFilters.foldlM (Generation.addFilter c q.tier) g
  let (ending, g) ← g.addIntent c q.tier q.intent
  let statement ← g.assemble l c.hierarchy anchor ending
  return ⟨statement, g.parameters, ending.columns, ending.mode⟩

/-- Compiles a query, with sets of nodes listed as they came in. -/
def compile (c : Corpus) (q : Query) : Except QueryError CompiledStatement :=
  c.compileIn .arrival q

end Corpus

end AnnotationQuery
