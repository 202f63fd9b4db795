import AnnotationQuery.Partition.Store
import AnnotationQuery.Proofs.AddedNode
import AnnotationQuery.Proofs.Meaning
import AnnotationQuery.Proofs.Parameters
import AnnotationQuery.Proofs.TierDistance
import Mathlib.Data.Fintype.Defs
import Mathlib.Data.Multiset.Bind

/-!
# The rows of a statement

A record says which graph node stands under each alias. A `MATCH` extends a record in every way that
satisfies its patterns, an `OPTIONAL MATCH` does so too but keeps a record that cannot be extended,
a `WHERE` keeps the records that fulfil its conditions, and a `WITH` forgets aliases. The rows of a
statement are the values of its returned items on the records that its clauses find in turn. How an
expression is evaluated is left to the store; of the evaluation only a few laws are known.

Results:
* `Record.extensions_gains`: the extensions by one more alias.
* `Graph.rel_matched`, `Clause.rel_found`: clauses keep a relation of records that extending keeps,
  if related records agree on the aliases of the clauses.
-/

namespace AnnotationQuery

/-! ## Graphs and records -/

/-- A graph whose nodes have properties. A property that a node lacks is null. -/
structure PropertyGraph (V : Type*) extends Graph V where
  property : V → String → Value

/-- Graph nodes under aliases. An alias without a node is not bound, or it is bound to nothing. -/
abbrev Record (V : Type*) := String → Option V

variable {V : Type*}

/-- The record binds all aliases of the pattern, to nodes that satisfy it. -/
def Graph.Satisfies (g : Graph V) (ρ : Record V) (p : PathPattern) : Prop :=
  ∃ σ : String → V, (∀ a ∈ p.aliases, ρ a = some (σ a)) ∧ g.Matches σ p

namespace Record

/-- No alias is bound. -/
def empty : Record V :=
  fun _ => none

/-- The record with a node under one more alias. -/
def bind (ρ : Record V) (a : String) (v : V) : Record V :=
  Function.update ρ a (some v)

/-- The record with only these aliases. -/
def restrict (ρ : Record V) (aliases : List String) : Record V :=
  fun a => if a ∈ aliases then ρ a else none

/-- The record with nodes under further aliases, in all ways. -/
def extensions [Fintype V] : List String → Record V → Multiset (Record V)
  | [], ρ => {ρ}
  | a :: aliases, ρ => Finset.univ.val.bind fun v => extensions aliases (ρ.bind a v)

end Record

open scoped Classical in
/-- The record with nodes under the aliases that the patterns introduce, in all ways that satisfy
the patterns. -/
noncomputable def Graph.matched [Fintype V] (g : Graph V) (patterns : List PathPattern)
    (ρ : Record V) : Multiset (Record V) :=
  (ρ.extensions (patterns.flatMap PathPattern.introducedAliases)).filter
    fun τ => ∀ p ∈ patterns, g.Satisfies τ p

/-! ## Evaluation -/

mutual

/-- All aliases that occur in an expression, also within a list comprehension. -/
def Expr.occurring : Expr → List String
  | .node a | .property a _ | .duration a | .hasLabel a _ => [a]
  | .column _ | .literal _ | .parameter _ => []
  | .compare left _ right => left.occurring ++ right.occurring
  | .isNull e _ | .negation e => e.occurring
  | .call _ arguments => Expr.occurringAll arguments
  | .collect pattern item => pattern.aliases ++ item.occurring

/-- All aliases that occur in expressions. -/
def Expr.occurringAll : List Expr → List String
  | [] => []
  | e :: es => e.occurring ++ Expr.occurringAll es

end

/-- How a store evaluates an expression on a record. -/
abbrev Evaluation (V : Type*) := Record V → Expr → Value

/-- The value of an expression depends on the nodes under its aliases only, a property is that of
the node under its alias, and nothing but a string itself is equal to the string. -/
structure PropertyGraph.Evaluates (g : PropertyGraph V) (eval : Evaluation V) : Prop where
  congr : ∀ {ρ ρ' : Record V} {e : Expr}, (∀ a ∈ e.occurring, ρ a = ρ' a) → eval ρ e = eval ρ' e
  property : ∀ {ρ : Record V} {a : String} {u : V} (key : String), ρ a = some u →
    eval ρ (.property a key) = g.property u key
  equal : ∀ {ρ : Record V} {e : Expr} {text : String},
    eval ρ (.compare e .equal (.literal (.string text))) = .bool true ↔ eval ρ e = .string text

/-- An expression that has a value on every single record: it aggregates nothing and refers to no
result column and no parameter. -/
def Expr.Single : Expr → Prop
  | .node _ | .property _ _ | .duration _ | .literal _ | .hasLabel _ _ => True
  | .column _ | .parameter _ | .call _ _ => False
  | .compare left _ right => left.Single ∧ right.Single
  | .isNull e _ | .negation e => e.Single
  | .collect _ item => item.Single

/-! ## Clauses -/

section Clauses

variable [Fintype V] (g : PropertyGraph V) (eval : Evaluation V)

/-- The clause finds records, leaves some out or forgets aliases. -/
def Clause.Finds : Clause → Prop
  | matching _ | optionalMatching _ | filtering _ | carrying _ => True
  | returning _ _ _ _ | setting _ | removing _ | deleting _ _ => False

open scoped Classical in
/-- The records that a clause makes of one. -/
noncomputable def Clause.records : Clause → Record V → Multiset (Record V)
  | matching patterns, ρ => g.matched patterns ρ
  | optionalMatching patterns, ρ => if g.matched patterns ρ = 0 then {ρ} else g.matched patterns ρ
  | filtering conditions, ρ => if ∀ e ∈ conditions, eval ρ e = .bool true then {ρ} else 0
  | carrying aliases, ρ => {ρ.restrict aliases}
  | _, ρ => {ρ}

/-- The records that clauses make of one, each of those that the clause before it has made. -/
noncomputable def Clause.found : List Clause → Record V → Multiset (Record V)
  | [], ρ => {ρ}
  | k :: ks, ρ => (k.records g eval ρ).bind (found ks)

/-- The row of the values of returned items. -/
def Record.row (items : List ReturnItem) (ρ : Record V) : List Value :=
  items.map fun i => eval ρ i.expr

/-- The rows that clauses find. -/
noncomputable def PropertyGraph.rows (body : List Clause) (items : List ReturnItem) :
    Multiset (List Value) :=
  (Clause.found g eval body .empty).map (Record.row eval items)

end Clauses

/-! ## Statements -/

/-- With its parameters in place, the statement is one that returns items of all records that its
clauses find: it leaves out no row, sorts none and groups none. -/
structure CompiledStatement.Lists (s : CompiledStatement) (body : List Clause)
    (items : List ReturnItem) : Prop where
  mode_eq : s.mode = .read
  clauses_eq : s.inlined.clauses = body ++ [.returning false items [] none]
  finds : ∀ k ∈ body, k.Finds
  inScope : Clause.ScopedFrom [] s.inlined.clauses
  /-- No alias is introduced twice. -/
  fresh : (body.flatMap Clause.introducedAliases).Nodup
  single : (∀ k ∈ body, ∀ e ∈ k.conditions, e.Single) ∧ ∀ i ∈ items, i.expr.Single

/-- The store answers such statements with their rows, in some order, and nobody cancels the
execution meanwhile. The columns of a table without rows do not matter. -/
structure Store.Answers [Fintype V] {σ : Type} (store : Store σ) (g : PropertyGraph V)
    (eval : Evaluation V) : Prop where
  rows : ∀ {s : CompiledStatement} {body : List Clause} {items : List ReturnItem} (state : σ),
    s.Lists body items → ∃ table, (store.execute s state).result = .ok table ∧
      (table.rows ≠ [] → table.columns = items.map (·.columnName)) ∧
      (table.rows : Multiset (List Value)) = g.rows eval body items
  not_cancels : ∀ s state, (store.execute s state).cancels = false

/-! ## Extending records -/

namespace Record

variable {ρ τ : Record V} {a b : String} {v w : V} {aliases aliases' : List String}

@[simp] theorem bind_self : ρ.bind a v a = some v :=
  Function.update_self ..

theorem bind_of_ne (h : b ≠ a) : ρ.bind a v b = ρ b :=
  Function.update_of_ne h ..

theorem bind_comm (h : a ≠ b) : (ρ.bind a v).bind b w = (ρ.bind b w).bind a v :=
  (Function.update_comm h.symm ..).symm

variable [Fintype V]

/-- Extending leaves other aliases as they are. -/
theorem eq_of_mem_extensions (h : τ ∈ ρ.extensions aliases) (ha : a ∉ aliases) : τ a = ρ a := by
  induction aliases generalizing ρ with
  | nil => rw [Multiset.mem_singleton.1 h]
  | cons b aliases ih =>
    obtain ⟨v, -, h⟩ := Multiset.mem_bind.1 h
    rw [List.mem_cons, not_or] at ha
    rw [ih h ha.2, bind_of_ne ha.1]

/-- It does not matter whether a node is bound before or after extending. -/
theorem extensions_bind (ha : a ∉ aliases) :
    (ρ.bind a v).extensions aliases = (ρ.extensions aliases).map (·.bind a v) := by
  induction aliases generalizing ρ with
  | nil => rfl
  | cons b aliases ih =>
    rw [List.mem_cons, not_or] at ha
    simp only [extensions, Multiset.map_bind]
    exact Multiset.bind_congr fun w _ => by rw [bind_comm ha.1, ih ha.2]

/-- The extensions by one more alias, wherever it stands among the others. -/
theorem extensions_gains (h : Gains a aliases aliases') (ha : a ∉ aliases) :
    ρ.extensions aliases' =
      (ρ.extensions aliases).bind fun τ => Finset.univ.val.map fun v => τ.bind a v := by
  obtain ⟨before, after, rfl, rfl⟩ := h
  induction before generalizing ρ with
  | nil =>
    rw [List.nil_append] at ha
    rw [List.nil_append, List.nil_append, ← Multiset.bind_map_comm]
    exact Multiset.bind_congr fun v _ => extensions_bind ha
  | cons b before ih =>
    rw [List.cons_append, List.mem_cons, not_or] at ha
    simp only [List.cons_append, extensions, Multiset.bind_assoc]
    exact Multiset.bind_congr fun w _ => ih ha.2

end Record

/-! ## Related records -/

theorem rel_filter {α : Type*} {Q : α → α → Prop} {p : α → Prop} [DecidablePred p]
    {s t : Multiset α} (h : s.Rel Q t) (hp : ∀ a b, Q a b → (p a ↔ p b)) :
    (s.filter p).Rel Q (t.filter p) := by
  induction h with
  | zero => exact .zero
  | @cons a b s t hab _ ih =>
    have hiff := hp a b hab
    by_cases ha : p a
    · rw [Multiset.filter_cons_of_pos s ha, Multiset.filter_cons_of_pos t (hiff.1 ha)]
      exact .cons hab ih
    · rw [Multiset.filter_cons_of_neg s ha, Multiset.filter_cons_of_neg t fun hb => ha (hiff.2 hb)]
      exact ih

/-- Binding the same node under one of these aliases keeps the relation. -/
def Record.Keeps (Q : Record V → Record V → Prop) (aliases : List String) : Prop :=
  ∀ a ∈ aliases, ∀ ρ τ v, Q ρ τ → Q (ρ.bind a v) (τ.bind a v)

/-- Related records agree on these aliases. -/
def Record.Agree (Q : Record V → Record V → Prop) (aliases : List String) : Prop :=
  ∀ ρ τ, Q ρ τ → ∀ a ∈ aliases, ρ a = τ a

/-- The aliases on which two records have to agree do not matter to binding. -/
theorem Record.keeps_agreement (P : String → Prop) (aliases : List String) :
    Keeps (V := V) (fun ρ τ => ∀ a, P a → ρ a = τ a) aliases := by
  intro b _ ρ τ v h a ha
  by_cases hab : a = b
  · rw [hab, bind_self, bind_self]
  · rw [bind_of_ne hab, bind_of_ne hab, h a ha]

section Related

variable {Q : Record V → Record V → Prop} {ρ τ : Record V}

theorem Graph.satisfies_congr {g : Graph V} {p : PathPattern} (h : ∀ a ∈ p.aliases, ρ a = τ a) :
    g.Satisfies ρ p ↔ g.Satisfies τ p := by
  refine exists_congr fun σ => and_congr_left fun _ => forall₂_congr fun a ha => ?_
  rw [h a ha]

variable [Fintype V]

theorem Record.rel_extensions {aliases : List String} (hk : Keeps Q aliases) (h : Q ρ τ) :
    (ρ.extensions aliases).Rel Q (τ.extensions aliases) := by
  induction aliases generalizing ρ τ with
  | nil => exact .cons h .zero
  | cons a aliases ih =>
    refine Multiset.rel_bind (r := Eq) ?_ (Multiset.rel_eq_refl ..)
    rintro v _ rfl
    exact ih (fun b hb => hk b (List.mem_cons_of_mem _ hb)) (hk a List.mem_cons_self ρ τ v h)

theorem Graph.mem_matched {g : Graph V} {patterns : List PathPattern} :
    τ ∈ g.matched patterns ρ ↔ τ ∈ ρ.extensions (patterns.flatMap PathPattern.introducedAliases) ∧
      ∀ p ∈ patterns, g.Satisfies τ p := by
  classical
  exact Multiset.mem_filter

/-- Related records have related extensions that satisfy patterns. -/
theorem Graph.rel_matched {g : Graph V} {patterns : List PathPattern}
    (hk : Record.Keeps Q (patterns.flatMap PathPattern.introducedAliases))
    (ha : Record.Agree Q (patterns.flatMap PathPattern.aliases)) (h : Q ρ τ) :
    (g.matched patterns ρ).Rel Q (g.matched patterns τ) := by
  classical
  unfold matched
  refine rel_filter (Record.rel_extensions hk h) fun ρ τ h => forall₂_congr fun p hp => ?_
  exact satisfies_congr fun a hmem => ha ρ τ h a (List.mem_flatMap.2 ⟨p, hp, hmem⟩)

namespace Clause

variable {g : PropertyGraph V} {eval : Evaluation V}

theorem found_append (ks ks' : List Clause) :
    found g eval (ks ++ ks') ρ = (found g eval ks ρ).bind (found g eval ks') := by
  induction ks generalizing ρ with
  | nil => rw [List.nil_append, found, Multiset.singleton_bind]
  | cons k ks ih =>
    rw [List.cons_append, found, found, Multiset.bind_assoc]
    exact Multiset.bind_congr fun τ _ => ih

/-- An optional match keeps a relation of records. -/
theorem rel_records {patterns : List PathPattern}
    (hk : Record.Keeps Q (patterns.flatMap PathPattern.introducedAliases))
    (ha : Record.Agree Q (patterns.flatMap PathPattern.aliases)) (h : Q ρ τ) :
    ((optionalMatching patterns).records g eval ρ).Rel Q
      ((optionalMatching patterns).records g eval τ) := by
  have hmatched := Graph.rel_matched (g := g.toGraph) hk ha h
  simp only [records]
  by_cases hnone : g.matched patterns ρ = 0
  · have hnone' : g.matched patterns τ = 0 := Multiset.rel_zero_left.1 (hnone ▸ hmatched)
    rw [if_pos hnone, if_pos hnone']
    exact .cons h .zero
  · have hnone' : g.matched patterns τ ≠ 0 := fun heq =>
      hnone (Multiset.rel_zero_right.1 (heq ▸ hmatched))
    rw [if_neg hnone, if_neg hnone']
    exact hmatched

variable (g eval) in
/-- Optional matches one after another keep a relation of records. -/
theorem rel_found {patterns : List PathPattern}
    (hk : Record.Keeps Q (patterns.flatMap PathPattern.introducedAliases))
    (ha : Record.Agree Q (patterns.flatMap PathPattern.aliases)) (h : Q ρ τ) :
    (found g eval (patterns.map fun p => optionalMatching [p]) ρ).Rel Q
      (found g eval (patterns.map fun p => optionalMatching [p]) τ) := by
  induction patterns generalizing ρ τ with
  | nil => exact .cons h .zero
  | cons p patterns ih =>
    have hsingle : ∀ f : PathPattern → List String, [p].flatMap f ⊆ (p :: patterns).flatMap f := by
      intro f
      rw [List.flatMap_cons, List.flatMap_cons, List.flatMap_nil, List.append_nil]
      exact List.subset_append_left _ _
    have hrest : ∀ f : PathPattern → List String, patterns.flatMap f ⊆ (p :: patterns).flatMap f :=
      fun f => List.subset_append_right _ _
    refine Multiset.rel_bind (r := Q) (fun ρ τ h => ?_) (rel_records
      (fun a hmem => hk a (hsingle _ hmem)) (fun ρ τ h a hmem => ha ρ τ h a (hsingle _ hmem)) h)
    exact ih (fun a hmem => hk a (hrest _ hmem)) (fun ρ τ h a hmem => ha ρ τ h a (hrest _ hmem)) h

end Clause

end Related

end AnnotationQuery
