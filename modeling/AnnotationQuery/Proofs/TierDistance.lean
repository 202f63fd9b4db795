import AnnotationQuery.Proofs.Compilation
import AnnotationQuery.Proofs.Containment
import AnnotationQuery.Proofs.PathGrammar
import AnnotationQuery.Proofs.Scope

/-!
# Distances between tiers

A containment step of a pattern spans as many edges as its two tiers are apart. The distance exists
only between a tier and one strictly above it, and it is the resolver, far from the patterns, that
lets no other pair of tiers arise: a reference goes up to strictly higher tiers only, and a list is
collected from a strictly lower tier. So a query that does not compile fails for one of the
documented reasons, and never because two tiers are in the wrong order.

Results:
* `Corpus.documented_compile`: the errors of compilation.
* `Path.ascends_resolve`: what resolved paths go up to and collect from.
* `Group.patterns_measured`, `PathPattern.Collects.measured`: the steps of the patterns of a plan.
* `Corpus.compile_measured`: all of it for compiled queries.
-/

namespace AnnotationQuery

/-! ## Documented errors -/

/-- The error is one of those that compilation is documented to have. -/
def QueryError.Documented : QueryError → Prop
  | unknownTier _ | invalidPath _ _ | invalidMutation _ | invalidFilter _ => True
  | _ => False

theorem QueryError.Documented.isCompileError {e : QueryError} (h : e.Documented) :
    e.isCompileError = true := by
  cases e <;> first | rfl | exact h.elim

theorem QueryError.Documented.ne_hierarchy {e : QueryError} (h : e.Documented)
    (fault : HierarchyFault) : e ≠ .hierarchy fault := by
  rintro rfl
  exact h

/-- Every error of the check is a documented one. -/
def FailsAsDocumented {α : Type} (x : Except QueryError α) : Prop :=
  ∀ e, x = .error e → e.Documented

namespace FailsAsDocumented

variable {α β : Type}

theorem ok (a : α) : FailsAsDocumented (.ok a) :=
  fun _ he => nomatch he

theorem error {e : QueryError} (he : e.Documented) : FailsAsDocumented (.error e : Except _ α) := by
  intro e' heq
  obtain rfl := Except.error.inj heq
  exact he

theorem bind {x : Except QueryError α} {f : α → Except QueryError β} (hx : FailsAsDocumented x)
    (hf : ∀ a, FailsAsDocumented (f a)) : FailsAsDocumented (x >>= f) := by
  intro e he
  rcases bind_eq_error.1 he with he | ⟨a, -, he⟩
  · exact hx e he
  · exact hf a e he

theorem mapError {ε : Type} {f : ε → QueryError} (x : Except ε α) (hf : ∀ e, (f e).Documented) :
    FailsAsDocumented (x.mapError f) := by
  cases x with
  | ok a => exact .ok a
  | error e => exact .error (hf e)

theorem mapM {f : α → Except QueryError β} (hf : ∀ a, FailsAsDocumented (f a)) (as : List α) :
    FailsAsDocumented (as.mapM f) := by
  induction as with
  | nil => exact .ok []
  | cons a as ih =>
    rw [List.mapM_cons]
    exact (hf a).bind fun b => ih.bind fun bs => .ok (b :: bs)

end FailsAsDocumented

theorem Path.documented_resolve (h : Hierarchy) (config : Config) (tier : String) (path : Path) :
    FailsAsDocumented (path.resolve h config tier) := by
  unfold resolve
  split
  · exact .error trivial
  · split
    · exact .error trivial
    · exact .mapError _ fun _ => trivial

theorem Hierarchy.documented_tier (h : Hierarchy) (name : String) :
    FailsAsDocumented (h.tier name) := by
  unfold Hierarchy.tier
  cases h.tier? name with
  | none => exact .error trivial
  | some t => exact .ok t

theorem Filter.documented_validate (f : Filter) : FailsAsDocumented f.validate := by
  unfold validate
  cases f.fault? with
  | none => exact .ok ()
  | some fault => exact .error trivial

namespace Corpus

variable (c : Corpus) (tier : String)

theorem documented_term (resolved : Resolved) (path : Path) :
    FailsAsDocumented (resolved.term.mapError (.invalidPath path)) :=
  .mapError _ fun _ => trivial

theorem documented_condition (f : Filter) : FailsAsDocumented (c.condition tier f) := by
  rw [condition_eq]
  refine f.documented_validate.bind fun _ => ?_
  refine (Path.documented_resolve _ _ _ f.path).bind fun resolved => ?_
  split
  · refine (Path.documented_resolve _ _ _ _).bind fun other => ?_
    refine (documented_term _ f.path).bind fun left => ?_
    exact (documented_term _ _).bind fun right => .ok _
  · split
    · exact .mapError _ fun _ => trivial
    · exact (documented_term _ f.path).bind fun left => .ok _

theorem documented_outputExpr (path : Path) : FailsAsDocumented (c.outputExpr tier path) := by
  have hterm : FailsAsDocumented (c.outputTerm tier path) := by
    rw [outputTerm_eq]
    exact (Path.documented_resolve _ _ _ path).bind fun _ => .mapError _ fun _ => trivial
  exact hterm.bind fun term => .ok _

theorem documented_columnItem (column : Column) : FailsAsDocumented (c.columnItem tier column) :=
  (c.documented_outputExpr tier column.path).bind fun _ => .ok _

theorem documented_aggregateItem (a : Aggregate) : FailsAsDocumented (c.aggregateItem tier a) := by
  unfold aggregateItem
  cases a.path with
  | none => exact .ok _
  | some path => exact (c.documented_outputExpr tier path).bind fun _ => .ok _

theorem documented_items (p : Projection) : FailsAsDocumented (p.items c tier) := by
  refine (FailsAsDocumented.mapM (c.documented_columnItem tier) p.columns).bind fun columns => ?_
  refine (FailsAsDocumented.mapM (c.documented_aggregateItem tier) p.aggregates).bind
    fun aggregates => ?_
  simp only
  split
  · exact .ok _
  · exact .ok _

theorem documented_orderExpr (p : Projection) (columns : List String) (key : OrderKey) :
    FailsAsDocumented (p.orderExpr c tier columns key) := by
  unfold Projection.orderExpr
  split
  · exact .ok _
  · split
    · exact .error trivial
    · split
      · exact .error trivial
      · exact c.documented_outputExpr tier key.path

theorem documented_demand (intent : Intent) : FailsAsDocumented (c.demand tier intent) := by
  cases intent with
  | project p =>
    refine FailsAsDocumented.bind ?_ fun output => .ok _
    refine (c.documented_items tier p).bind fun items => ?_
    refine (FailsAsDocumented.mapM (fun key => ?_) p.orderBy).bind fun keys => .ok _
    exact (c.documented_orderExpr tier p _ key).bind fun output => .ok _
  | setProperties u | setLabels u | removeLabels u => exact .ok _
  | delete | cache => exact .ok _

/-- A query that does not compile names a tier that is missing, or has a path, a filter or a
mutation that is invalid. -/
theorem documented_compile (l : Listing) (q : Query) : FailsAsDocumented (c.compileIn l q) := by
  intro e he
  rcases plan_eq_error.1 (compile_eq_error.1 he) with
    ⟨fault, -, rfl⟩ | ⟨-, he | ⟨t, -, he | ⟨ks, -, he⟩⟩⟩
  · trivial
  · exact Hierarchy.documented_tier _ _ e he
  · exact FailsAsDocumented.mapM (c.documented_condition q.tier) q.effectiveFilters e he
  · exact c.documented_demand q.tier q.intent e he

end Corpus

/-! ## Tiers and their distance -/

namespace Hierarchy

variable {h : Hierarchy} {lower higher : String}

theorem Below.position_lt {n : Nat} (hb : h.Below lower higher n) :
    h.hasTier lower = true ∧ h.position higher < h.position lower := by
  have hplaces := hb.isHigher_eq
  simp only [isHigher, bind_eq_ok, pure_eq_ok] at hplaces
  obtain ⟨i, hi, j, hj, hlt⟩ := hplaces
  have hindex : ∀ {name : String} {k : Nat}, h.index name = .ok k →
      h.hasTier name = true ∧ h.position name = k := by
    intro name k hk
    unfold index at hk
    split at hk
    · exact ⟨‹_›, Except.ok.inj hk⟩
    · cases hk
  rw [(hindex hi).2, (hindex hj).2]
  exact ⟨(hindex hj).1, of_decide_eq_true hlt⟩

end Hierarchy

/-! ## References that ascend -/

/-- The tier that the reference starts at exists, and every containing annotation that it goes up to
is of a tier strictly above the one before. -/
def Reference.Ascends (h : Hierarchy) : Reference → Prop
  | root _ tier _ => h.hasTier tier = true
  | within inner tier _ => inner.Ascends h ∧ ∃ n, h.Below inner.tier tier n

theorem Reference.Climbs.ascends {h : Hierarchy} {tier : String} {r : Reference}
    (ht : h.hasTier tier = true) (hr : r.Climbs h tier) : r.Ascends h := by
  induction hr with
  | root _ => exact ht
  | within offset hinner hlt ih =>
    exact ⟨ih, _, (Climbs.within offset hinner hlt).below_enclosing ht rfl⟩

/-- The reference of the path ascends, and a list is collected from a tier strictly below. -/
structure Resolved.Ascends (h : Hierarchy) (resolved : Resolved) : Prop where
  reference : resolved.reference.Ascends h
  collected : ∀ r lower leaf, resolved = .collected r lower leaf →
    h.Below lower r.tier (h.levels lower r.tier)

namespace Path

variable {h : Hierarchy} {config : Config} {tier : String}

/-- A resolved path ends behind an annotation, or it collects from a tier below the anchor's. -/
theorem ends_of_resolve (hn : h.tierNames.Nodup) (ht : h.hasTier tier = true) {path : Path}
    {resolved : Resolved} (hf : path.resolve h config tier = .ok resolved) :
    (∃ r ending, Ends h r ending resolved) ∨ ∃ lower leaf, h.Above tier lower ∧
      resolved = .collected (.anchor tier h.corpus) lower leaf := by
  have hfrom : ∀ (start : Reference) {rest : List String}, h.hasTier start.tier = true →
      resolveFrom h config start rest = .ok resolved → ∃ r ending, Ends h r ending resolved := by
    intro start rest hstart hf
    obtain ⟨moves, legs, ending, -, -, -, he⟩ := continues_of_resolveFrom hn hstart hf
    exact ⟨_, ending, he⟩
  cases hsteps : path.steps with
  | nil =>
    unfold resolve at hf
    rw [hsteps] at hf
    cases hf
  | cons first rest =>
    obtain ⟨hfirst, hf⟩ := (resolve_eq_ok_of_cons hsteps).1 hf
    split at hf
    · exact .inl (hfrom (.anchor tier h.corpus) ht hf)
    · rename_i hne
      split at hf
      · exact .inl (hfrom (.containedBy _ first) hfirst hf)
      · rename_i hnlt
        obtain ⟨step, leaf, -, -, rfl⟩ := collects_of_resolveCollected hn hf
        exact .inr ⟨first, leaf, Hierarchy.above_or_above hn hfirst ht hne hnlt, rfl⟩

/-- Resolved paths ascend. -/
theorem ascends_resolve (ht : h.hasTier tier = true) {path : Path} {resolved : Resolved}
    (hf : path.resolve h config tier = .ok resolved) : resolved.Ascends h where
  reference := (climbs_resolve hf).ascends ht
  collected := by
    rintro r lower leaf rfl
    exact below_of_collected hf

end Path

/-! ## Patterns of a statement -/

mutual

/-- The patterns of the list comprehensions in an expression. -/
def Expr.patterns : Expr → List PathPattern
  | .compare left _ right => left.patterns ++ right.patterns
  | .isNull e _ | .negation e => e.patterns
  | .call _ arguments => Expr.patternsAll arguments
  | .collect pattern item => pattern :: item.patterns
  | .node _ | .column _ | .property _ _ | .duration _ | .literal _ | .parameter _
  | .hasLabel _ _ => []

def Expr.patternsAll : List Expr → List PathPattern
  | [] => []
  | e :: es => e.patterns ++ Expr.patternsAll es

end

theorem Expr.patternsAll_eq_flatMap (es : List Expr) :
    Expr.patternsAll es = es.flatMap Expr.patterns := by
  induction es with
  | nil => rfl
  | cons e es ih => simp [Expr.patternsAll, ih]

def SetItem.patterns : SetItem → List PathPattern
  | .property _ _ value => value.patterns
  | .label _ _ => []

/-- The patterns of the list comprehensions in a clause. -/
def Clause.listPatterns : Clause → List PathPattern
  | .filtering conditions => conditions.flatMap Expr.patterns
  | .returning _ items orderBy _ =>
    items.flatMap (·.expr.patterns) ++ orderBy.flatMap (·.expr.patterns)
  | .setting items => items.flatMap SetItem.patterns
  | .matching _ | .optionalMatching _ | .carrying _ | .removing _ | .deleting _ _ => []

/-- The patterns that a clause matches and those of its list comprehensions. -/
def Clause.patterns : Clause → List PathPattern
  | .matching patterns | .optionalMatching patterns => patterns
  | clause => clause.listPatterns

/-- All patterns of a statement. -/
def Statement.patterns (s : Statement) : List PathPattern :=
  s.clauses.flatMap Clause.patterns

mutual

/-- Lifting the literals of an expression leaves its patterns as they are. -/
theorem Expr.patterns_lift : ∀ (e : Expr) (n : Nat), (e.lift n).1.patterns = e.patterns
  | .node _, _ | .property _ _, _ | .duration _, _ | .hasLabel _ _, _ | .column _, _
  | .literal _, _ | .parameter _, _ => by simp [Expr.lift, Expr.patterns]
  | .compare left _ right, n => by
    simp only [Expr.lift, Expr.patterns, left.patterns_lift, right.patterns_lift]
  | .isNull e _, n | .negation e, n => by simp only [Expr.lift, Expr.patterns, e.patterns_lift]
  | .call _ arguments, n => by
    simp only [Expr.lift, Expr.patterns, Expr.patternsAll_liftAll arguments]
  | .collect _ item, n => by simp only [Expr.lift, Expr.patterns, item.patterns_lift]

theorem Expr.patternsAll_liftAll : ∀ (es : List Expr) (n : Nat),
    Expr.patternsAll (Expr.liftAll n es).1 = Expr.patternsAll es
  | [], _ => rfl
  | e :: es, n => by
    simp only [Expr.liftAll, Expr.patternsAll, e.patterns_lift, Expr.patternsAll_liftAll es]

end

theorem SetItem.patterns_lift (i : SetItem) (n : Nat) : (i.lift n).1.patterns = i.patterns := by
  cases i <;> simp [SetItem.lift, SetItem.patterns, Expr.patterns_lift]

theorem Clause.listPatterns_lift (k : Clause) (n : Nat) :
    (k.lift n).1.listPatterns = k.listPatterns := by
  cases k with
  | filtering conditions =>
    simp only [Clause.lift, Clause.listPatterns, ← Expr.patternsAll_eq_flatMap,
      Expr.patternsAll_liftAll]
  | returning distinct items orderBy limit =>
    refine congrArg₂ (· ++ ·) (flatMap_liftEach fun n i => ?_) (flatMap_liftEach fun n i => ?_)
    · exact i.expr.patterns_lift n
    · exact i.expr.patterns_lift n
  | setting items => exact flatMap_liftEach fun n i => i.patterns_lift n
  | matching _ | optionalMatching _ | carrying _ | removing _ | deleting _ _ => rfl

theorem Clause.Lifts.listPatterns {k k' : Clause} (h : k.Lifts k') :
    k'.listPatterns = k.listPatterns := by
  rcases h with rfl | ⟨n, rfl⟩
  · rfl
  · exact k.listPatterns_lift n

/-! ## Measured patterns -/

/-- The step leads from an annotation of a tier up to a tier above or down to one below, over as
many edges as the two are apart. -/
def PathStep.Spans (h : Hierarchy) (tier : String) (s : PathStep) : Prop :=
  ∃ other, s.node.labels.head? = some other ∧
    match s.direction with
    | .outgoing => h.Below tier other s.hops
    | .incoming => h.Below other tier s.hops

/-- The pattern starts at an annotation. A containment step is its first step and spans the distance
of the two tiers. Every step spans an edge, and it is written with a range when it spans more. -/
structure PathPattern.Measured (h : Hierarchy) (r : Reference) (p : PathPattern) : Prop where
  start_eq : p.start.aliasName = r.aliasName
  containment : ∀ s ∈ p.steps, s.relation = Relation.containedBy →
    p.steps.head? = some s ∧ s.Spans h r.tier
  hops_pos : ∀ s ∈ p.steps, 0 < s.hops
  range_iff : ∀ s ∈ p.steps, '*' ∈ s.edgeText.toList ↔ 1 < s.hops

/-- The types of the edges that do not lead from tier to tier. -/
def Relation.lateral : List String :=
  [precedes, precedesPause, isA, annotates, spokenBy, spokenIn]

/-- The types of the edges in patterns. -/
def Relation.all : List String :=
  containedBy :: lateral

theorem Relation.lateral_spec {relation : String} (hr : relation ∈ lateral) :
    relation ∈ all ∧ relation ≠ containedBy := by
  have hall : ∀ relation ∈ lateral, relation ∈ all ∧ relation ≠ containedBy := by decide
  exact hall relation hr

theorem Relation.along_mem_lateral (axis : Axis) : Relation.along axis ∈ Relation.lateral := by
  cases axis <;> decide

theorem Relation.toEntity_mem_lateral (kind : EntityKind) :
    Relation.toEntity kind ∈ Relation.lateral := by
  cases kind <;> decide

/-- A step over more or fewer edges than one is written with a range. -/
theorem PathStep.range_mem_iff {s : PathStep} (hr : s.relation ∈ Relation.all) :
    '*' ∈ s.edgeText.toList ↔ s.hops ≠ 1 := by
  have hplain : ∀ relation ∈ Relation.all, '*' ∉ (Identifier.quoted relation).toList := by decide
  have hrelation := hplain _ hr
  unfold edgeText
  by_cases hone : s.hops = 1
  · cases hd : s.direction <;> simp [hone, hrelation]
  · simp [hone]

namespace PathPattern.Measured

variable {h : Hierarchy} {r : Reference}

/-- A pattern without steps. -/
theorem single {node : NodePattern} (hnode : node.aliasName = r.aliasName) :
    (PathPattern.single node).Measured h r :=
  ⟨hnode, List.forall_mem_nil _, List.forall_mem_nil _, List.forall_mem_nil _⟩

/-- A pattern of one step. -/
theorem one {s : PathStep} (hr : s.relation ∈ Relation.all) (hpos : 0 < s.hops)
    (hspans : s.relation = Relation.containedBy → s.Spans h r.tier) :
    (⟨.bound r.aliasName, [s]⟩ : PathPattern).Measured h r := by
  refine ⟨rfl, fun s' hs hc => ?_, fun s' hs => ?_, fun s' hs => ?_⟩ <;>
    obtain rfl := List.mem_singleton.1 hs
  · exact ⟨rfl, hspans hc⟩
  · exact hpos
  · rw [PathStep.range_mem_iff hr]
    omega

/-- Going on to a type node. -/
theorem andThen_isA {p : PathPattern} (hp : p.Measured h r) (node : NodePattern) :
    (p.andThen ⟨Relation.isA, .outgoing, 1, node⟩).Measured h r := by
  obtain ⟨hlisted, hother⟩ := Relation.lateral_spec (by decide : Relation.isA ∈ Relation.lateral)
  refine ⟨hp.start_eq, fun s hs hc => ?_, fun s hs => ?_, fun s hs => ?_⟩ <;>
    rcases List.mem_append.1 hs with hs | hs
  · obtain ⟨hhead, hspans⟩ := hp.containment s hs hc
    exact ⟨by rw [PathPattern.andThen, List.head?_append, hhead, Option.some_or], hspans⟩
  · obtain rfl := List.mem_singleton.1 hs
    exact absurd hc hother
  · exact hp.hops_pos s hs
  · obtain rfl := List.mem_singleton.1 hs
    exact Nat.one_pos
  · exact hp.range_iff s hs
  · obtain rfl := List.mem_singleton.1 hs
    exact iff_of_false (fun hstar => (PathStep.range_mem_iff hlisted).1 hstar rfl)
      (Nat.lt_irrefl 1)

end PathPattern.Measured

/-! ## Patterns that bind nodes -/

section

variable {h : Hierarchy} {tier : String} {available : List Node} {n : Node}

/-- The edges from a start to a node of a reference that climbs. -/
theorem Node.stepFrom_measured (ht : h.hasTier tier = true) (hr : n.reference.Climbs h tier)
    {start : Reference} (hs : n.start? available = some start) :
    (n.stepFrom h start).relation ∈ Relation.all ∧ 0 < (n.stepFrom h start).hops ∧
      ((n.stepFrom h start).relation = Relation.containedBy →
        (n.stepFrom h start).Spans h start.tier) := by
  have hlateral : ∀ {s : PathStep}, s.relation ∈ Relation.lateral → 0 < s.hops →
      s.relation ∈ Relation.all ∧ 0 < s.hops ∧
        (s.relation = Relation.containedBy → s.Spans h start.tier) := by
    intro s hs hpos
    obtain ⟨hlisted, hother⟩ := Relation.lateral_spec hs
    exact ⟨hlisted, hpos, fun hc => absurd hc hother⟩
  have hisA : Relation.isA ∈ Relation.lateral := by decide
  have hannotates : Relation.annotates ∈ Relation.lateral := by decide
  have hcontainedBy : Relation.containedBy ∈ Relation.all := by decide
  cases n with
  | token r =>
    rcases start?_token_cases hs with ⟨h0, he⟩ | ⟨h0, rfl⟩
    · have hbelow : h.Below start.tier r.tier (h.levels start.tier r.tier) :=
        Reference.Climbs.below_enclosing ht hr he
      simp only [stepFrom, if_pos h0]
      exact ⟨hcontainedBy, hbelow.pos, fun _ => ⟨r.tier, rfl, hbelow⟩⟩
    · have hlt := Reference.natAbs_nearest_lt available h0
      have hhops : 0 < (r.position - (r.nearest available).position).natAbs := by omega
      rw [stepFrom, if_neg h0]
      exact hlateral (Relation.along_mem_lateral r.axis) hhops
  | type r => exact hlateral hisA Nat.one_pos
  | entity kind r => exact hlateral (Relation.toEntity_mem_lateral kind) Nat.one_pos
  | attached r name => exact hlateral hannotates Nat.one_pos

/-- The pattern of a node starts at an annotation at hand and is measured. -/
theorem Node.pattern_measured (ht : h.hasTier tier = true) (hc : Closed available)
    (hn : n ∈ available) (hr : n.reference.Climbs h tier) :
    ∃ r, token r ∈ available ∧ (n.pattern h available).Measured h r := by
  rw [pattern_eq]
  cases hs : n.start? available with
  | none =>
    obtain ⟨corpus, t, rfl⟩ := start?_eq_none hs
    exact ⟨_, hn, .single rfl⟩
  | some start =>
    obtain ⟨hrelation, hpos, hspans⟩ := stepFrom_measured ht hr hs
    exact ⟨start, start_mem hc hn hs, .one hrelation hpos hspans⟩

theorem Group.patterns_measured {group : Group} (ht : h.hasTier tier = true)
    (hc : Node.Closed available) (hsub : group ⊆ available)
    (hclimbs : ∀ n ∈ group, n.reference.Climbs h tier) {p : PathPattern}
    (hp : p ∈ group.patterns h available) : ∃ r, .token r ∈ available ∧ p.Measured h r := by
  obtain ⟨n, hn, rfl⟩ := List.mem_map.1 hp
  have hn := List.mem_of_mem_filter hn
  obtain ⟨r, hr, hm⟩ := Node.pattern_measured ht hc (hsub hn) (hclimbs n hn)
  refine ⟨r, hr, ?_⟩
  unfold Group.pattern
  cases group.companion? n with
  | none => exact hm
  | some t => exact hm.andThen_isA _

end

/-! ## Patterns of list comprehensions -/

theorem Resolved.patterns_term {resolved : Resolved} {term : Term} (h : resolved.term = .ok term) :
    term.expr.patterns = [] := by
  cases resolved with
  | attached r name p => cases p <;> rw [← Except.ok.inj h] <;> rfl
  | subset r | collected r _ _ => cases h
  | node r | property r p | duration r | entity _ r _ =>
    rw [← Except.ok.inj h]
    rfl

/-- The pattern collects from a tier strictly below that of an annotation. -/
def PathPattern.Collects (h : Hierarchy) (r : Reference) (p : PathPattern) : Prop :=
  ∃ lower leaf, h.Below lower r.tier (h.levels lower r.tier) ∧
    p ∈ (Term.collected (h.levels lower r.tier) r lower leaf).expr.patterns

theorem PathPattern.Collects.measured {h : Hierarchy} {r : Reference} {p : PathPattern}
    (hp : p.Collects h r) : p.Measured h r := by
  obtain ⟨lower, leaf, hb, hp⟩ := hp
  have hcontainedBy : Relation.containedBy ∈ Relation.all := by decide
  have hcontained : (Term.containedPattern (h.levels lower r.tier) r lower).Measured h r :=
    .one hcontainedBy hb.pos fun _ => ⟨lower, rfl, hb⟩
  cases leaf with
  | duration =>
    rw [List.mem_singleton.1 hp]
    exact hcontained
  | property property =>
    cases hside : property.side with
    | token =>
      simp only [Term.collected, hside] at hp
      rw [List.mem_singleton.1 hp]
      exact hcontained
    | type =>
      simp only [Term.collected, hside] at hp
      rw [List.mem_singleton.1 hp]
      exact hcontained.andThen_isA _

theorem Expr.patterns_comparison (left : Expr) (operator : Operator) (right : Expr) :
    (Expr.comparison left operator right).patterns = left.patterns ++ right.patterns := by
  cases operator <;> rfl

/-- Conditions collect nothing. -/
theorem Corpus.patterns_condition {c : Corpus} {tier : String} {f : Filter} {k : Condition}
    (h : c.condition tier f = .ok k) : k.expr.patterns = [] := by
  have hterm : ∀ {path : Path} {term : Term}, c.filterTerm tier path = .ok term →
      term.expr.patterns = [] := by
    intro path term hf
    obtain ⟨resolved, -, ht⟩ := filterTerm_eq_ok.1 hf
    exact Resolved.patterns_term ht
  cases condition_eq_ok h with
  | @terms other left right hop hl hr =>
    have hleft := hterm hl
    have hright := hterm hr
    unfold Condition.ofTerms
    split
    · simp only
      split <;> simp [Expr.patterns_comparison, hleft, hright]
    · simp [Expr.patterns_comparison, hleft, hright]
  | @value value left hop hl =>
    have hleft := hterm hl
    rcases Condition.ofValue_cases left f.operator value with ⟨negated, heq⟩ | heq
    · rw [heq]
      exact hleft
    · rw [heq, Expr.patterns_comparison, hleft]
      rfl
  | subset hr hop hside he =>
    rcases he with rfl | rfl <;> rfl

/-- Only literals are assigned to properties. -/
theorem PropertyUpdates.patterns_setItems (u : PropertyUpdates) (anchor : Reference) :
    (u.setItems anchor).flatMap SetItem.patterns = [] := by
  rw [List.flatMap_eq_nil_iff]
  intro item hitem
  obtain ⟨e, -, key, value, rfl⟩ := mem_setItems hitem
  rfl

theorem Plan.listPatterns_settingProperties {p : Plan} {set : List SetItem}
    {remove : List RemoveItem} (hending : p.ending = .settingProperties set remove) :
    p.endingClauses.flatMap Clause.listPatterns = set.flatMap SetItem.patterns := by
  rw [endingClauses, hending]
  cases set <;> cases remove <;> simp [Clause.listPatterns]

namespace Corpus

variable {l : Listing} {c : Corpus} {q : Query} {tier : String}

theorem outputTerm_collects (ht : c.hierarchy.hasTier tier = true) {path : Path} {term : Term}
    (ho : c.outputTerm tier path = .ok term) {p : PathPattern} (hp : p ∈ term.expr.patterns) :
    ∃ r, term.node = .token r ∧ p.Collects c.hierarchy r := by
  obtain ⟨resolved, hr, hterm⟩ := outputTerm_eq_ok.1 ho
  rcases Resolved.outputTerm_eq_ok hterm with hterm | ⟨r, lower, leaf, rfl, rfl⟩
  · rw [Resolved.patterns_term hterm] at hp
    cases hp
  · have hbelow := (Path.ascends_resolve ht hr).collected r lower leaf rfl
    exact ⟨r, Term.node_collected _ _ _ _, lower, leaf, hbelow, hp⟩

theorem ItemOf.collects (ht : c.hierarchy.hasTier tier = true)
    {item : List Node × ReturnItem} (hi : c.ItemOf tier item) {p : PathPattern}
    (hp : p ∈ item.2.expr.patterns) : ∃ r, .token r ∈ item.1 ∧ p.Collects c.hierarchy r := by
  have hterm : ∀ {path : Path} {term : Term}, c.outputTerm tier path = .ok term →
      p ∈ term.expr.patterns → ∃ r, .token r ∈ [term.node] ∧ p.Collects c.hierarchy r := by
    intro path term ho hp
    obtain ⟨r, hnode, hm⟩ := outputTerm_collects ht ho hp
    exact ⟨r, hnode ▸ List.mem_singleton_self _, hm⟩
  cases hi with
  | anchor => cases hp
  | value ho => exact hterm ho hp
  | callAnchor => cases hp
  | call ho =>
    simp only [Expr.patterns, Expr.patternsAll, List.append_nil] at hp
    exact hterm ho hp

/-- The patterns of the returned items and of the sort keys of a projection. -/
theorem output_collects (ht : c.hierarchy.hasTier tier = true)
    {pr : Projection} {output : Output} (ho : Output.ofProjection c tier pr = .ok output)
    {p : PathPattern} (hp : p ∈ output.items.flatMap (·.expr.patterns) ++
      output.orderBy.flatMap (·.expr.patterns)) :
    ∃ r, .token r ∈ output.nodes ∧ p.Collects c.hierarchy r := by
  obtain ⟨items, keys, hi, hk, hnodes, hitems, hkeys⟩ := Output.ofProjection_eq_ok ho
  rw [hnodes]
  rcases List.mem_append.1 hp with hp | hp
  · obtain ⟨item, hitem, hp⟩ := List.mem_flatMap.1 hp
    rw [hitems] at hitem
    obtain ⟨entry, hentry, rfl⟩ := List.mem_map.1 hitem
    obtain ⟨r, hr, hm⟩ := (Projection.itemOf_items hi hentry).collects ht hp
    exact ⟨r, List.mem_append_left _ (List.mem_flatMap.2 ⟨entry, hentry, hr⟩), hm⟩
  · obtain ⟨key, hkey, hp⟩ := List.mem_flatMap.1 hp
    rw [hkeys] at hkey
    obtain ⟨entry, hentry, rfl⟩ := List.mem_map.1 hkey
    obtain ⟨order, -, heq⟩ := (mem_mapM hk).1 hentry
    rcases Projection.orderItem_eq_ok heq with ⟨name, -, rfl⟩ | ⟨-, term, hterm, rfl⟩
    · cases hp
    · obtain ⟨r, hnode, hm⟩ := outputTerm_collects ht hterm hp
      exact ⟨r, List.mem_append_right _
        (List.mem_flatMap.2 ⟨_, hentry, hnode ▸ List.mem_singleton_self _⟩), hm⟩

/-- The clauses of an ending have patterns only where a projection collects from a lower tier. -/
theorem ending_collects {p : Plan} (h : c.plan l q = .ok p)
    {pattern : PathPattern} (hp : pattern ∈ p.endingClauses.flatMap Clause.listPatterns) :
    ∃ r, c.Shows q p.ending.columns (.token r) ∧ pattern.Collects c.hierarchy r := by
  cases hi : q.intent with
  | project pr =>
    obtain ⟨output, ho, hending⟩ := ending_plan_project h hi
    rw [Plan.endingClauses, hending] at hp
    have hp : pattern ∈ output.items.flatMap (·.expr.patterns) ++
        output.orderBy.flatMap (·.expr.patterns) := by
      simpa [Clause.listPatterns] using hp
    obtain ⟨r, hr, hm⟩ := output_collects (hasTier_plan h) ho hp
    obtain ⟨path, hpath, hrefers⟩ := (Output.mem_nodes ho).1 hr
    have hshown : path ∈ q.outputPaths p.ending.columns := by
      rw [Query.outputPaths, hi, hending]
      exact hpath
    exact ⟨r, .output hshown hrefers, hm⟩
  | setProperties u =>
    have hending : p.ending = .settingProperties (u.setItems (c.anchor q.tier))
      (u.removeItems (c.anchor q.tier)) := ending_plan h hi rfl
    rw [Plan.listPatterns_settingProperties hending, PropertyUpdates.patterns_setItems] at hp
    cases hp
  | setLabels u | removeLabels u | delete | cache =>
    rw [Plan.endingClauses, ending_plan h hi rfl] at hp
    simp [Clause.listPatterns, SetItem.patterns] at hp

/-- The conditions of a plan have no patterns. -/
theorem listPatterns_filterClauses {p : Plan} (h : c.plan l q = .ok p) :
    p.filterClauses.flatMap Clause.listPatterns = [] := by
  obtain ⟨conditions, hc, hexprs⟩ := conditions_plan h
  refine List.flatMap_eq_nil_iff.2 fun k hk => ?_
  rw [Plan.mem_filterClauses hk]
  refine List.flatMap_eq_nil_iff.2 fun e he => ?_
  rw [hexprs] at he
  obtain ⟨condition, hcondition, rfl⟩ := List.mem_map.1 he
  obtain ⟨f, -, hf⟩ := (mem_mapM hc).1 hcondition
  exact patterns_condition hf

/-- The list comprehensions of a compiled statement are those of the last clauses of its plan. -/
theorem listPatterns_statement {s : CompiledStatement} {p : Plan} (h : c.compileIn l q = .ok s)
    (hp : c.plan l q = .ok p) : s.statement.clauses.flatMap Clause.listPatterns =
      p.endingClauses.flatMap Clause.listPatterns := by
  obtain ⟨p', hp', -, -, hclauses, -⟩ := compile_eq_ok h
  obtain rfl : p = p' := Except.ok.inj (hp.symm.trans hp')
  have hcarrying : p.carryingClauses.flatMap Clause.listPatterns = [] := by
    refine List.flatMap_eq_nil_iff.2 fun k hk => ?_
    obtain ⟨aliases, rfl⟩ := Plan.mem_carryingClauses hk
    rfl
  have hoptional : p.optionalClauses.flatMap Clause.listPatterns = [] := by
    refine List.flatMap_eq_nil_iff.2 fun k hk => ?_
    obtain ⟨optional, rfl⟩ := Plan.mem_optionalClauses hk
    rfl
  rw [hclauses, Clause.Lifts.flatMap_eq (forall₂_lifted 0 p.clauses) fun hk => hk.listPatterns,
    p.clauses_eq, List.flatMap_cons, List.flatMap_append, List.flatMap_append, List.flatMap_append,
    listPatterns_filterClauses hp, hcarrying, hoptional]
  rfl

/-- The list comprehensions of a compiled statement collect from tiers below annotations that it
shows. -/
theorem listPatterns_compile {s : CompiledStatement}
    (h : c.compileIn l q = .ok s) {pattern : PathPattern}
    (hp : pattern ∈ s.statement.clauses.flatMap Clause.listPatterns) :
    ∃ r, c.Shows q s.columns (.token r) ∧ pattern.Collects c.hierarchy r := by
  obtain ⟨p, hplan, hcolumns, -⟩ := compile_eq_ok h
  rw [listPatterns_statement h hplan] at hp
  rw [hcolumns]
  exact ending_collects hplan hp

/-- The patterns of a clause are the ones that it matches or those of its list comprehensions. -/
theorem mem_patterns_compile {s : CompiledStatement} {pattern : PathPattern}
    (hp : pattern ∈ s.statement.patterns) :
    pattern ∈ s.statement.clauses.flatMap Clause.listPatterns ∨
      ∃ patterns, pattern ∈ patterns ∧ (.matching patterns ∈ s.statement.clauses ∨
        .optionalMatching patterns ∈ s.statement.clauses) := by
  obtain ⟨k, hk, hp⟩ := List.mem_flatMap.1 hp
  cases k with
  | matching patterns => exact .inr ⟨patterns, hp, .inl hk⟩
  | optionalMatching patterns => exact .inr ⟨patterns, hp, .inr hk⟩
  | filtering _ | returning _ _ _ _ | setting _ | carrying _ | removing _ | deleting _ _ =>
    exact .inl (List.mem_flatMap.2 ⟨_, hk, hp⟩)

/-- Every pattern of a compiled statement starts at an annotation that the query binds, and is
measured from there. -/
theorem patterns_measured {s : CompiledStatement}
    (h : c.compileIn l q = .ok s) {pattern : PathPattern} (hp : pattern ∈ s.statement.patterns) :
    ∃ r, (c.Requires q (.token r) ∨ c.Shows q s.columns (.token r)) ∧
      pattern.Measured c.hierarchy r := by
  rcases mem_patterns_compile hp with hp | ⟨patterns, hp, hclause⟩
  · obtain ⟨r, hr, hc⟩ := listPatterns_compile h hp
    exact ⟨r, .inr hr, hc.measured⟩
  · obtain ⟨p, n, hplan, hcolumns, hstages, -⟩ := compile_stages h
    have ht := hasTier_plan hplan
    have hclimbs : ∀ n ∈ p.required ++ p.optional, n.reference.Climbs c.hierarchy q.tier :=
      fun n hn => ((mem_bound hplan).1 hn).elim Requires.climbs Shows.climbs
    rw [hcolumns]
    rcases hclause with hclause | hclause
    · rw [hstages.matching_mem_iff.1 hclause] at hp
      obtain ⟨r, hr, hm⟩ := Group.patterns_measured ht (closed_required hplan)
        (List.Subset.refl p.required) (fun n hn => hclimbs n (List.mem_append_left _ hn)) hp
      exact ⟨r, .inl ((mem_required hplan).1 hr), hm⟩
    · obtain ⟨optional, hoptional, rfl⟩ := hstages.optionalMatching_mem_iff.1 hclause
      rw [List.mem_singleton.1 hp]
      obtain ⟨r, hr, hm⟩ := Group.patterns_measured ht (closed_bound hplan)
        (List.subset_append_right p.required p.optional)
        (fun n hn => hclimbs n (List.mem_append_right _ hn)) hoptional
      exact ⟨r, (mem_bound hplan).1 hr, hm⟩

/-- On a valid hierarchy a query fails to compile for a documented reason only, never because of the
order of two tiers: resolved paths ascend and collect from tiers strictly below, and in a compiled
statement every containment step spans the distance of its tiers, and a range stands for more than
one edge. -/
theorem compile_measured (l : Listing) (c : Corpus) (q : Query) :
    (∀ e, c.compileIn l q = .error e →
      e.Documented ∧ e.isCompileError = true ∧ ∀ fault, e ≠ .hierarchy fault) ∧
    (c.hierarchy.hasTier q.tier = true → ∀ path resolved, c.resolve q.tier path = .ok resolved →
      resolved.Ascends c.hierarchy) ∧
    ∀ s, c.compileIn l q = .ok s → ∀ pattern ∈ s.statement.patterns,
      ∃ r, (c.Requires q (.token r) ∨ c.Shows q s.columns (.token r)) ∧
        r.Ascends c.hierarchy ∧ pattern.Measured c.hierarchy r := by
  refine ⟨fun e he => ?_, fun ht path resolved hr => Path.ascends_resolve ht hr,
    fun s hs pattern hp => ?_⟩
  · have hdocumented := c.documented_compile l q e he
    exact ⟨hdocumented, hdocumented.isCompileError, hdocumented.ne_hierarchy⟩
  · obtain ⟨r, hr, hm⟩ := patterns_measured hs hp
    obtain ⟨p, hplan, -⟩ := compile_eq_ok hs
    have hclimbs : r.Climbs c.hierarchy q.tier := hr.elim Requires.climbs Shows.climbs
    exact ⟨r, hr, hclimbs.ascends (hasTier_plan hplan), hm⟩

end Corpus

/-- A query for the labels of the phones in a syllable and of the word before the syllable's. -/
def Query.phonesOfSyllable : Query :=
  ⟨"syllable", none, [], .project { Projection.empty with
    columns := [.ofPath ⟨["syllable", "phone", "label"]⟩,
      .ofPath ⟨["syllable", "word", "previous", "label"]⟩] }⟩

theorem Corpus.compile_measured_small :
    small.hierarchy.validate = .ok () ∧ ∃ s, small.compile .phonesOfSyllable = .ok s ∧
      s.statement.patterns.length = 4 ∧ ∀ pattern ∈ s.statement.patterns,
        ∃ r, (small.Requires .phonesOfSyllable (.token r) ∨
            small.Shows .phonesOfSyllable s.columns (.token r)) ∧
          r.Ascends small.hierarchy ∧ pattern.Measured small.hierarchy r := by
  have hv : small.hierarchy.validate = .ok () := rfl
  have hok : (small.compile .phonesOfSyllable).toOption.isSome = true := by decide
  have hlength : (small.compile .phonesOfSyllable).toOption.map (·.statement.patterns.length) =
      some 4 := by decide
  obtain ⟨s, hs⟩ := exists_eq_ok hok
  rw [hs] at hlength
  obtain ⟨-, -, hmeasured⟩ := compile_measured .arrival small .phonesOfSyllable
  exact ⟨hv, s, hs, Option.some.inj hlength, hmeasured s hs⟩

end AnnotationQuery
