import AnnotationQuery.Compiled.Generation

/-!
# Plans

A plan describes the statement of a query without the steps that lead to it. The nodes that the
anchor, the filters and the intent require and those that the output needs besides are given in
binding order, every pattern starts at the nearest of these nodes, and the literals stand in place.
Compiling a query comes to the statement of its plan with its literals in place or lifted, which is
`Corpus.compileIn_eq`.

* `Corpus.demand`: what an intent needs and does with the rows.
* `Plan`: the nodes, conditions and final clauses of a query.
* `Plan.clauses`: the clauses of a plan.
-/

namespace AnnotationQuery

/-- An ending and the nodes that it needs. -/
structure Demand where
  /-- The nodes without which a row is left out. -/
  required : List Node
  /-- The nodes that are matched optionally. -/
  wanted : List Node
  ending : Ending
deriving Repr

/-- What an intent does with the rows, with its values in place. -/
def Corpus.demand (c : Corpus) (tier : String) : Intent → Except QueryError Demand
  | .project p => do
    let output ← Output.ofProjection c tier p
    return ⟨[], output.nodes,
      .returning p.distinct output.items output.orderBy p.effectiveLimit⟩
  | .setProperties u =>
    let anchor := c.anchor tier
    return ⟨typeDemand anchor u.type, [],
      .settingProperties (u.setItems anchor) (u.removeItems anchor)⟩
  | .setLabels u =>
    let anchor := c.anchor tier
    return ⟨typeDemand anchor u.type, [],
      .settingLabels ((u.items anchor).map fun (aliasName, label) => .label aliasName label)⟩
  | .removeLabels u =>
    let anchor := c.anchor tier
    return ⟨typeDemand anchor u.type, [],
      .removingLabels ((u.items anchor).map fun (aliasName, label) => .label aliasName label)⟩
  | .delete => return ⟨[], [], .deleting (c.anchor tier).aliasName⟩
  | .cache => return ⟨[], [], .caching⟩

/-- A query as nodes to be bound, conditions on them and an ending. -/
@[ext]
structure Plan where
  hierarchy : Hierarchy
  anchor : Reference
  required : Group
  optional : Group
  conditions : List Expr
  ending : Ending
deriving Repr

namespace Corpus

/-- The plan that the conditions of a query and the demand of its intent make, with sets of nodes
listed in a given order. -/
def planOf (l : Listing) (c : Corpus) (q : Query) (conditions : List Condition)
    (demand : Demand) : Plan :=
  let needed := .token (c.anchor q.tier) :: conditions.flatMap (·.nodes) ++ demand.required
  let collected := Collected.ofNodes needed demand.wanted
  { hierarchy := c.hierarchy
    anchor := c.anchor q.tier
    required := l.sorted collected.required
    optional := l.sorted collected.optional
    conditions := conditions.map (·.expr)
    ending := demand.ending }

/-- The plan of a query, with sets of nodes listed in a given order. -/
def plan (l : Listing) (c : Corpus) (q : Query) : Except QueryError Plan := do
  if let some fault := q.intent.mutationFault? then throw (.invalidMutation fault)
  let _ ← c.hierarchy.tier q.tier
  let conditions ← c.conditions q.tier q.effectiveFilters
  let demand ← c.demand q.tier q.intent
  return c.planOf l q conditions demand

end Corpus

namespace Plan

/-- The aliases of the plan in the order in which they are bound. -/
def aliases (p : Plan) : List String :=
  p.required.aliases ++ p.optional.aliases

/-- Those of the given aliases that clauses mention; the anchor if there are none. -/
def carried (p : Plan) (available : List String) (clauses : List Clause) : List String :=
  carryForward p.anchor available clauses

/-- The clauses for the optional nodes, one for each pattern. -/
def optionalClauses (p : Plan) : List Clause :=
  (p.optional.patterns p.hierarchy (p.required ++ p.optional)).map fun pattern =>
    .optionalMatching [pattern]

/-- The clauses of the ending. Between setting and removing properties the aliases that are still
needed are carried on. -/
def endingClauses (p : Plan) : List Clause :=
  match p.ending with
  | .returning distinct items orderBy limit => [.returning distinct items orderBy limit]
  | .settingProperties set [] => [.setting set]
  | .settingProperties [] remove => [.removing remove]
  | .settingProperties set remove =>
    [.setting set, .carrying (p.carried p.aliases [.removing remove]), .removing remove]
  | .settingLabels items => [.setting items]
  | .removingLabels items => [.removing items]
  | .deleting aliasName => [.deleting true [aliasName]]
  | .caching => [.carrying p.aliases]

/-- The clauses of a plan. -/
def clauses (p : Plan) : List Clause :=
  let later := p.optionalClauses ++ p.endingClauses
  [.matching (p.required.patterns p.hierarchy p.required)] ++
    (if p.conditions.isEmpty then [] else [.filtering p.conditions]) ++
    (if p.optionalClauses.isEmpty then [] else [.carrying (p.carried p.required.aliases later)]) ++
    later

/-- The statement of a plan with its literals in place. -/
def statement (p : Plan) : Statement :=
  ⟨p.clauses⟩

end Plan

end AnnotationQuery
