import AnnotationQuery.Proofs.Outputs
import AnnotationQuery.Proofs.PlanRows

/-!
# Declarations as they are listed

The properties and subsets of a tier are published as lists, token side first and implicit
properties before declared ones. A name may stand in a list several times: a property may repeat an
implicit one, a type property may be named like a token property. What a name means is then decided
by its first entry. A lookup by name searches the sides and the implicit and declared properties one
after the other and finds just that entry, so a statement reads a property from the type node if the
first entry is on the type side, and from the annotation itself otherwise.

Results:
* `Tier.property?_eq_find?`, `Tier.subsetSide?_eq_find?`: looking a name up is searching the list.
* `Hierarchy.property?_eq_some`, `Hierarchy.subsetSide?_eq_some`: the same for the lists that a
  hierarchy publishes.
* `Path.finds_resolve`: a path to a property ends in a name whose first entry the property is.
* `Corpus.readsListed_of_outputTerm`, `Corpus.conditionListed`: how outputs and filters read
  properties and subsets.
* `Corpus.compile_listed`: lookups agree with the lists, and compiled statements read from the sides
  that are listed first.
-/

namespace AnnotationQuery

/-! ## First entries -/

/-- The element is the first one of a list whose key is a name. -/
structure FirstNamed {α : Type} (key : α → String) (name : String) (entries : List α) (a : α) :
    Prop where
  key_eq : key a = name
  split : ∃ before after, entries = before ++ a :: after ∧ ∀ other ∈ before, key other ≠ name

theorem find?_eq_some_iff_firstNamed {α : Type} {key : α → String} {name : String}
    {entries : List α} {a : α} :
    entries.find? (key · == name) = some a ↔ FirstNamed key name entries a := by
  rw [List.find?_eq_some_iff_append]
  constructor
  · rintro ⟨hkey, before, after, hentries, hbefore⟩
    exact ⟨beq_iff_eq.1 hkey, before, after, hentries, by simpa using hbefore⟩
  · rintro ⟨hkey, before, after, hentries, hbefore⟩
    exact ⟨beq_iff_eq.2 hkey, before, after, hentries, by simpa using hbefore⟩

theorem find?_eq_none_iff_ne {α : Type} {key : α → String} {name : String} {entries : List α} :
    entries.find? (key · == name) = none ↔ ∀ a ∈ entries, key a ≠ name := by
  simp

/-! ## Looking names up -/

/-- The implicit properties are searched before the declared ones. -/
theorem findProperty?_eq_find? (implicit declared : List Property) (name : String) :
    findProperty? implicit declared name = (implicit ++ declared).find? (·.name == name) :=
  List.find?_append.symm

/-- Of the subsets of one side, the first entry is the name with that side. -/
theorem find?_map_side (names : List String) (side : Side) (name : String) :
    (names.map (·, side)).find? (·.1 == name) =
      if name ∈ names then some (name, side) else none := by
  induction names with
  | nil => rfl
  | cons first names ih =>
    by_cases hfirst : first = name
    · simp [hfirst]
    · simp [ih, hfirst, Ne.symm hfirst]

namespace Tier

variable (t : Tier) (name : String)

/-- Looking a property up is searching the list of the properties. -/
theorem property?_eq_find? : t.property? name = t.properties.find? (·.name == name) := by
  rw [property?, findProperty?_eq_find?, findProperty?_eq_find?]
  conv_rhs => rw [properties, List.find?_append, List.find?_map, List.find?_map]
  rfl

/-- Looking a subset up is searching the list of the subsets. -/
theorem subsetSide?_eq_find? :
    t.subsetSide? name = (t.subsets.find? (·.1 == name)).map (·.2) := by
  rw [subsetSide?, subsets, List.find?_append, find?_map_side, find?_map_side]
  split
  · rfl
  · split <;> rfl

end Tier

namespace Hierarchy

variable {h : Hierarchy} {tier : String}

theorem propertiesOf_eq_ok {listing : List SidedProperty} :
    h.propertiesOf tier = .ok listing ↔ ∃ t, h.tier? tier = some t ∧ t.properties = listing := by
  simp only [propertiesOf, bind_eq_ok, pure_eq_ok, tier_eq_ok_iff]

theorem subsetsOf_eq_ok {listing : List (String × Side)} :
    h.subsetsOf tier = .ok listing ↔ ∃ t, h.tier? tier = some t ∧ t.subsets = listing := by
  simp only [subsetsOf, bind_eq_ok, pure_eq_ok, tier_eq_ok_iff]

end Hierarchy

/-- Looking a name up finds its first entry in the lists of a tier, and nothing only where no entry
has the name. The lists are those that hierarchies publish for the tier. -/
structure Tier.LooksUpFirst (t : Tier) (name : String) : Prop where
  propertiesOf_eq : ∀ (h : Hierarchy) tier, h.tier? tier = some t →
    h.propertiesOf tier = .ok t.properties
  property?_eq_some : ∀ p,
    t.property? name = some p ↔ FirstNamed SidedProperty.name name t.properties p
  property?_eq_none : t.property? name = none ↔ ∀ p ∈ t.properties, p.name ≠ name
  subsetsOf_eq : ∀ (h : Hierarchy) tier, h.tier? tier = some t → h.subsetsOf tier = .ok t.subsets
  subsetSide?_eq_some : ∀ side,
    t.subsetSide? name = some side ↔ FirstNamed Prod.fst name t.subsets (name, side)
  subsetSide?_eq_none : t.subsetSide? name = none ↔ ∀ entry ∈ t.subsets, entry.1 ≠ name

theorem Tier.looksUpFirst (t : Tier) (name : String) : t.LooksUpFirst name where
  propertiesOf_eq _ _ ht := Hierarchy.propertiesOf_eq_ok.2 ⟨t, ht, rfl⟩
  property?_eq_some p := by rw [property?_eq_find?, find?_eq_some_iff_firstNamed]
  property?_eq_none := by rw [property?_eq_find?, find?_eq_none_iff_ne]
  subsetsOf_eq _ _ ht := Hierarchy.subsetsOf_eq_ok.2 ⟨t, ht, rfl⟩
  subsetSide?_eq_some side := by
    rw [subsetSide?_eq_find?, Option.map_eq_some_iff, ← find?_eq_some_iff_firstNamed]
    constructor
    · rintro ⟨⟨found, side⟩, hfound, rfl⟩
      obtain rfl : found = name := (find?_eq_some_iff_firstNamed.1 hfound).key_eq
      exact hfound
    · exact fun hfound => ⟨_, hfound, rfl⟩
  subsetSide?_eq_none := by
    rw [subsetSide?_eq_find?, Option.map_eq_none_iff, find?_eq_none_iff_ne]

namespace Hierarchy

variable {h : Hierarchy} {tier name : String}

/-- The property is the first entry of a name in the published list of a tier. -/
def ListsProperty (h : Hierarchy) (tier name : String) (p : SidedProperty) : Prop :=
  ∃ listing, h.propertiesOf tier = .ok listing ∧ FirstNamed SidedProperty.name name listing p

/-- The side is that of the first entry of a name in the published list of the subsets of a tier. -/
def ListsSubset (h : Hierarchy) (tier name : String) (side : Side) : Prop :=
  ∃ listing, h.subsetsOf tier = .ok listing ∧ FirstNamed Prod.fst name listing (name, side)

theorem property?_eq_some {p : SidedProperty} :
    (h.tier? tier).bind (·.property? name) = some p ↔ h.ListsProperty tier name p := by
  rw [Option.bind_eq_some_iff]
  constructor
  · rintro ⟨t, ht, hp⟩
    exact ⟨_, propertiesOf_eq_ok.2 ⟨t, ht, rfl⟩, ((t.looksUpFirst name).property?_eq_some p).1 hp⟩
  · rintro ⟨listing, hlisting, hfirst⟩
    obtain ⟨t, ht, rfl⟩ := propertiesOf_eq_ok.1 hlisting
    exact ⟨t, ht, ((t.looksUpFirst name).property?_eq_some p).2 hfirst⟩

theorem subsetSide?_eq_some {side : Side} :
    (h.tier? tier).bind (·.subsetSide? name) = some side ↔ h.ListsSubset tier name side := by
  rw [Option.bind_eq_some_iff]
  constructor
  · rintro ⟨t, ht, hside⟩
    exact ⟨_, subsetsOf_eq_ok.2 ⟨t, ht, rfl⟩,
      ((t.looksUpFirst name).subsetSide?_eq_some side).1 hside⟩
  · rintro ⟨listing, hlisting, hfirst⟩
    obtain ⟨t, ht, rfl⟩ := subsetsOf_eq_ok.1 hlisting
    exact ⟨t, ht, ((t.looksUpFirst name).subsetSide?_eq_some side).2 hfirst⟩

end Hierarchy

/-! ## Paths to properties -/

/-- The property that a path has reached, and the tier that it belongs to. -/
def Resolved.leaf? : Resolved → Option (String × SidedProperty)
  | property r p => some (r.tier, p)
  | collected _ lower (.property p) => some (lower, p)
  | _ => none

namespace Path

variable {h : Hierarchy} {config : Config} {r : Reference} {resolved : Resolved} {tier : String}
  {p : SidedProperty}

/-- The steps end in a name whose first entry in the list of a tier is the property. -/
def Finds (h : Hierarchy) (steps : List String) (tier : String) (p : SidedProperty) : Prop :=
  ∃ name, steps.getLast? = some name ∧ h.ListsProperty tier name p

theorem Finds.cons {steps : List String} (hf : Finds h steps tier p) (step : String) :
    Finds h (step :: steps) tier p := by
  obtain ⟨name, hlast, hlisted⟩ := hf
  exact ⟨name, by rw [List.getLast?_cons, hlast, Option.getD_some], hlisted⟩

theorem finds_resolveCollected {lower : String} {steps : List String}
    (hf : resolveCollected h r lower steps = .ok resolved)
    (hleaf : resolved.leaf? = some (tier, p)) : Finds h steps tier p := by
  cases steps with
  | nil => cases hf
  | cons step rest =>
    simp only [resolveCollected] at hf
    split at hf
    · obtain ⟨-, rfl⟩ := finish_eq_ok_iff.1 hf
      cases hleaf
    · split at hf
      · rename_i hfound
        obtain ⟨rfl, rfl⟩ := finish_eq_ok_iff.1 hf
        cases hleaf
        exact ⟨step, rfl, Hierarchy.property?_eq_some.1 hfound⟩
      · cases hf

theorem finds_resolveName {step : String} {rest : List String}
    (hf : resolveName h r step rest = .ok resolved) (hleaf : resolved.leaf? = some (tier, p)) :
    Finds h (step :: rest) tier p := by
  unfold resolveName at hf
  split at hf
  · -- Sub-annotations have properties of their own.
    rename_i s hs
    cases rest with
    | nil =>
      obtain rfl := Except.ok.inj hf
      cases hleaf
    | cons next rest =>
      simp only [resolveAttached] at hf
      split at hf
      · obtain ⟨-, rfl⟩ := finish_eq_ok_iff.1 hf
        cases hleaf
      · cases hf
  · split at hf
    · rename_i hfound
      obtain ⟨rfl, rfl⟩ := finish_eq_ok_iff.1 hf
      cases hleaf
      exact ⟨step, rfl, Hierarchy.property?_eq_some.1 hfound⟩
    · cases hf

theorem leaf?_resolveEntity {kind : EntityKind} {steps : List String}
    (hf : resolveEntity h kind r steps = .ok resolved) : resolved.leaf? = none := by
  simp only [resolveEntity] at hf
  split at hf
  · rw [finish_eq_ok hf]
    rfl
  · cases hf

theorem finds_resolveFrom {steps : List String} (hf : resolveFrom h config r steps = .ok resolved)
    (hleaf : resolved.leaf? = some (tier, p)) : Finds h steps tier p := by
  induction steps generalizing r with
  | nil =>
    obtain rfl := Except.ok.inj hf
    cases hleaf
  | cons step rest ih =>
    unfold resolveFrom at hf
    split at hf
    · split at hf
      · cases hf
      · exact (ih hf).cons step
    -- Speakers, discourses, subsets and durations lead to no property of a tier.
    · rw [leaf?_resolveEntity hf] at hleaf
      cases hleaf
    · rw [finish_eq_ok hf] at hleaf
      cases hleaf
    · rw [finish_eq_ok hf] at hleaf
      cases hleaf
    -- A step that is no keyword leads to a higher tier, a lower tier or a property.
    · split at hf
      · split at hf
        · cases hf
        · split at hf
          · exact (ih hf).cons step
          · exact (finds_resolveCollected hf hleaf).cons step
      · exact finds_resolveName hf hleaf

/-- A path to a property ends in a name whose first entry the property is. -/
theorem finds_resolve {anchorTier : String} {path : Path}
    (hf : path.resolve h config anchorTier = .ok resolved)
    (hleaf : resolved.leaf? = some (tier, p)) : Finds h path.steps tier p := by
  cases hsteps : path.steps with
  | nil =>
    unfold resolve at hf
    rw [hsteps] at hf
    cases hf
  | cons first rest =>
    obtain ⟨-, hf⟩ := (resolve_eq_ok_of_cons hsteps).1 hf
    refine Finds.cons ?_ first
    split at hf
    · exact finds_resolveFrom hf hleaf
    · split at hf
      · exact finds_resolveFrom hf hleaf
      · exact finds_resolveCollected hf hleaf

end Path

/-! ## What terms and conditions read -/

/-- The node is the type node of a reference for the type side, and the annotation itself for the
token side. -/
structure Node.OnSide (n : Node) (r : Reference) (side : Side) : Prop where
  type_iff : n = .type r ↔ side = .type
  token_iff : n = .token r ↔ side = .token

theorem Node.onSide_ofSide (r : Reference) (side : Side) : (ofSide r side).OnSide r side := by
  cases side <;> constructor <;> simp [ofSide]

/-- The labels are those of the type nodes of a tier for the type side, and those of its annotations
for the token side. -/
structure Side.Labels (side : Side) (tier corpus : String) (labels : List String) : Prop where
  type_iff : labels = [tier ++ "_type", corpus] ↔ side = .type
  token_iff : labels = [tier, corpus] ↔ side = .token

namespace Side

theorem labels_type (tier corpus : String) :
    Side.type.Labels tier corpus [tier ++ "_type", corpus] := by
  constructor <;> simp

theorem labels_token (tier corpus : String) : Side.token.Labels tier corpus [tier, corpus] := by
  have hne : tier ≠ tier ++ "_type" := fun heq => by simpa using congrArg String.length heq
  constructor <;> simp [hne]

end Side

namespace Corpus

variable {l : Listing} {c : Corpus} {tier : String}

/-- How the property that a path leads to is read. A property of a reference is read from its type
node if the first entry of the last step's name is on the type side, and from the annotation
otherwise. A list of values over a lower tier reads each one from a node that its pattern introduces
with the labels of that side. -/
structure ReadsListed (c : Corpus) (tier : String) (path : Path) (term : Term) : Prop where
  property : ∀ r p, c.resolve tier path = .ok (.property r p) →
    Path.Finds c.hierarchy path.steps r.tier p ∧ term.node.OnSide r p.side ∧
      term.expr = .property term.node.aliasName p.name
  collected : ∀ r lower p, c.resolve tier path = .ok (.collected r lower (.property p)) →
    Path.Finds c.hierarchy path.steps lower p ∧ term.node = .token r ∧
      ∃ pattern, ∃ n ∈ pattern.introduced, p.side.Labels lower r.corpus n.labels ∧
        term.expr = .collect pattern (.property n.aliasName p.name)

theorem exists_collected (levels : Nat) (r : Reference) (lower : String) (p : SidedProperty) :
    ∃ pattern, ∃ n ∈ pattern.introduced, p.side.Labels lower r.corpus n.labels ∧
      (Term.collected levels r lower (.property p)).expr =
        .collect pattern (.property n.aliasName p.name) := by
  cases hside : p.side with
  | token =>
    refine ⟨Term.containedPattern levels r lower,
      ⟨r.aliasName ++ "_" ++ lower, [lower, r.corpus]⟩, ?_, Side.labels_token lower r.corpus, ?_⟩
    · simp [PathPattern.introduced, PathPattern.nodes, Term.containedPattern, NodePattern.bound]
    · simp only [Term.collected, hside]
  | type =>
    let typeNode : NodePattern :=
      ⟨"type_" ++ (r.aliasName ++ "_" ++ lower), [lower ++ "_type", r.corpus]⟩
    refine ⟨(Term.containedPattern levels r lower).andThen ⟨Relation.isA, .outgoing, 1, typeNode⟩,
      typeNode, ?_, Side.labels_type lower r.corpus, ?_⟩
    · simp [PathPattern.introduced, PathPattern.nodes, Term.containedPattern, PathPattern.andThen,
        NodePattern.bound, typeNode]
    · simp only [Term.collected, hside, typeNode]

theorem readsListed_of_outputTerm {path : Path} {term : Term}
    (h : c.outputTerm tier path = .ok term) : c.ReadsListed tier path term := by
  obtain ⟨resolved, hresolved, hterm⟩ := outputTerm_eq_ok.1 h
  constructor
  case property =>
    intro r p hproperty
    obtain rfl := Except.ok.inj (hresolved.symm.trans hproperty)
    obtain rfl := Except.ok.inj hterm
    exact ⟨Path.finds_resolve hproperty rfl, Node.onSide_ofSide r p.side, rfl⟩
  case collected =>
    intro r lower p hcollected
    obtain rfl := Except.ok.inj (hresolved.symm.trans hcollected)
    obtain rfl := Except.ok.inj hterm
    exact ⟨Path.finds_resolve hcollected rfl, Term.node_collected _ _ _ _,
      exists_collected _ _ _ _⟩

theorem outputTerm_of_filterTerm {path : Path} {term : Term}
    (h : c.filterTerm tier path = .ok term) : c.outputTerm tier path = .ok term := by
  obtain ⟨resolved, hresolved, hterm⟩ := filterTerm_eq_ok.1 h
  refine outputTerm_eq_ok.2 ⟨resolved, hresolved, ?_⟩
  cases resolved with
  | collected r lower leaf => cases hterm
  | _ => exact hterm

/-- How the condition of a filter reads properties and subsets. -/
inductive ConditionListed (c : Corpus) (tier : String) (f : Filter) : Condition → Prop
  | terms {other : Path} {left right : Term} :
    f.operand = .path other → c.filterTerm tier f.path = .ok left →
    c.filterTerm tier other = .ok right → c.ReadsListed tier f.path left →
    c.ReadsListed tier other right → ConditionListed c tier f (.ofTerms left f.operator right)
  | value {value : Value} {left : Term} :
    f.operand = .literal value → c.filterTerm tier f.path = .ok left →
    c.ReadsListed tier f.path left → ConditionListed c tier f (.ofValue left f.operator value)
  /-- Membership is tested on the side of the first entry with the name of the subset. -/
  | subset {r : Reference} {name : String} {side : Side} {n : Node} {e : Expr} :
    c.resolve tier f.path = .ok (.subset r) → f.operand = .literal (.string name) →
    c.hierarchy.ListsSubset r.tier name side → n.OnSide r side →
    e = .hasLabel n.aliasName name ∨ e = .negation (.hasLabel n.aliasName name) →
    ConditionListed c tier f ⟨[n], e⟩

theorem conditionListed {f : Filter} {k : Condition} (h : c.condition tier f = .ok k) :
    c.ConditionListed tier f k := by
  have hreads : ∀ {path : Path} {term : Term}, c.filterTerm tier path = .ok term →
      c.ReadsListed tier path term := fun hterm =>
    readsListed_of_outputTerm (outputTerm_of_filterTerm hterm)
  cases condition_eq_ok h with
  | terms hop hl hr => exact .terms hop hl hr (hreads hl) (hreads hr)
  | value hop hl => exact .value hop hl (hreads hl)
  | subset hr hop hside he =>
    exact .subset hr hop (Hierarchy.subsetSide?_eq_some.1 hside) (Node.onSide_ofSide _ _) he

end Corpus

/-! ## What compiled statements read -/

theorem Plan.conditions_statement (p : Plan) : p.statement.conditions = p.conditions := by
  have hstages : p.statement.Stages (p.required.patterns p.hierarchy p.required) p.filterClauses
      p.carryingClauses (p.optional.patterns p.hierarchy (p.required ++ p.optional))
      p.endingClauses :=
    { clauses_eq := p.clauses_eq
      filters_eq := fun _ hk => ⟨_, mem_filterClauses hk⟩
      carried_eq := fun _ => mem_carryingClauses
      ending_final := fun _ => final_endingClauses }
  rw [hstages.conditions_eq, p.conditions_filterClauses]

/-- The expression is the condition of a filter, which reads what the filter names from nodes that
the patterns introduce. -/
def Corpus.FilterListed (c : Corpus) (tier : String) (patterns : List PathPattern) (f : Filter)
    (e : Expr) : Prop :=
  ∃ k, c.ConditionListed tier f k ∧ e = k.expr ∧
    ∀ n ∈ k.nodes, n.nodePattern ∈ patterns.flatMap PathPattern.introduced

/-- The item returns a column, which reads the property that its path leads to from a node that the
patterns introduce. -/
def Corpus.ColumnListed (c : Corpus) (tier : String) (patterns : List PathPattern)
    (column : Column) (item : ReturnItem) : Prop :=
  ∃ term, c.outputTerm tier column.path = .ok term ∧ c.ReadsListed tier column.path term ∧
    item = ⟨term.expr, some column.name⟩ ∧
    term.node.nodePattern ∈ patterns.flatMap PathPattern.introduced

/-- How a compiled statement reads the properties and subsets of filters and columns. The nodes of
a filter are introduced by the `MATCH`; those of a column may be matched optionally. -/
structure CompiledStatement.ReadsListed (s : CompiledStatement) (c : Corpus) (q : Query)
    (required optional : List PathPattern) (ending : List Clause) : Prop where
  conditions : List.Forall₂ (c.FilterListed q.tier required) q.effectiveFilters s.inlined.conditions
  columns : ∀ p, q.intent = .project p → ∃ items others orderBy limit,
    ending = [.returning p.distinct (items ++ others) orderBy limit] ∧
      List.Forall₂ (c.ColumnListed q.tier (required ++ optional)) p.columns items

namespace Corpus

variable {l : Listing} {c : Corpus} {q : Query} {plan : Plan}

theorem filterListed_plan (hp : c.plan l q = .ok plan) :
    List.Forall₂ (c.FilterListed q.tier (plan.required.patterns c.hierarchy plan.required))
      q.effectiveFilters plan.conditions := by
  obtain ⟨ks, hks, heq⟩ := conditions_plan hp
  have hfilters := (List.forall₂_and_left q.effectiveFilters ks).2
    ⟨fun f hf => hf, mapM_eq_ok.1 hks⟩
  rw [heq, List.forall₂_map_right_iff]
  refine hfilters.imp fun f k hk => ⟨k, conditionListed hk.2, rfl, fun n hn => ?_⟩
  have hrequired : c.Requires q n := .filter hk.1 ((mem_condition_nodes hk.2).1 hn)
  exact Group.nodePattern_mem_introduced _ _ ((mem_required hp).2 hrequired)

/-- The nodes of a column are bound. -/
theorem nodePattern_mem_of_column (hp : c.plan l q = .ok plan) {p : Projection}
    (hi : q.intent = .project p) {column : Column} (hcolumn : column ∈ p.columns) {term : Term}
    (hterm : c.outputTerm q.tier column.path = .ok term) :
    term.node.nodePattern ∈ (plan.required.patterns c.hierarchy plan.required ++
      plan.optional.patterns c.hierarchy (plan.required ++ plan.optional)).flatMap
        PathPattern.introduced := by
  have hpath : column.path ∈ q.outputPaths plan.ending.columns := by
    rw [Query.outputPaths, hi]
    exact List.mem_append_left _ (List.mem_append_left _ (List.mem_map_of_mem hcolumn))
  have hshown : c.Shows q plan.ending.columns term.node :=
    .output hpath ((refers_of_outputTerm hterm).2 rfl)
  rw [List.flatMap_append, List.mem_append]
  rcases List.mem_append.1 ((mem_bound hp).2 (.inr hshown)) with hn | hn
  · exact .inl (Group.nodePattern_mem_introduced _ _ hn)
  · exact .inr (Group.nodePattern_mem_introduced _ _ hn)

/-- The columns are returned in front of everything else. -/
theorem columnListed_plan (hp : c.plan l q = .ok plan) {p : Projection}
    (hi : q.intent = .project p) : ∃ items others orderBy limit,
      plan.endingClauses = [.returning p.distinct (items ++ others) orderBy limit] ∧
        List.Forall₂ (c.ColumnListed q.tier (plan.required.patterns c.hierarchy plan.required ++
          plan.optional.patterns c.hierarchy (plan.required ++ plan.optional)))
          p.columns items := by
  obtain ⟨output, ho, hending⟩ := ending_plan_project hp hi
  obtain ⟨items, keys, hitems, -, -, houtput, -⟩ := Output.ofProjection_eq_ok ho
  obtain ⟨columns, aggregates, hcolumns, -, hsplit⟩ := Projection.items_eq_ok hitems
  obtain ⟨others, hothers⟩ : ∃ others, output.items = columns.map (·.2) ++ others := by
    rcases hsplit with ⟨hempty, -⟩ | rfl
    · rw [(List.append_eq_nil_iff.1 hempty).1]
      exact ⟨_, rfl⟩
    · exact ⟨aggregates.map (·.2), by rw [houtput, List.map_append]⟩
  refine ⟨columns.map (·.2), others, output.orderBy, p.effectiveLimit, ?_, ?_⟩
  · rw [Plan.endingClauses, hending, hothers]
  · have hcolumns := (List.forall₂_and_left p.columns columns).2
      ⟨fun column hcolumn => hcolumn, mapM_eq_ok.1 hcolumns⟩
    rw [List.forall₂_map_right_iff]
    refine hcolumns.imp fun column item hitem => ?_
    obtain ⟨term, hterm, rfl⟩ := columnItem_eq_ok hitem.2
    exact ⟨term, hterm, readsListed_of_outputTerm hterm, rfl,
      nodePattern_mem_of_column hp hi hitem.1 hterm⟩

theorem readsListed_compile {s : CompiledStatement} (hs : c.compileIn l q = .ok s) :
    ∃ required filters carried optional ending,
      s.statement.Stages required filters carried optional ending ∧
        s.ReadsListed c q required optional ending := by
  obtain ⟨plan, n, hp, -, hstages, -⟩ := compile_stages hs
  obtain ⟨plan', hp', -, -, hinlined⟩ := inlined_compile hs
  obtain rfl := Except.ok.inj (hp.symm.trans hp')
  refine ⟨_, _, _, _, _, hstages, ?_⟩
  constructor
  case conditions =>
    rw [hinlined, plan.conditions_statement]
    exact filterListed_plan hp
  case columns =>
    intro p hi
    have hplain : q.intent.Plain := by
      rw [hi]
      trivial
    rw [lifted_of_plain (plain_ending hp hplain)]
    exact columnListed_plan hp hi

/-- Looking a name up in a tier finds its first entry in the published lists, and nothing only where
no entry has the name. A compiled statement reads the properties and subsets that its filters and
columns name from the side of the first entry: from the type node on the type side, and from the
annotation itself on the token side. -/
theorem compile_listed (c : Corpus) (q : Query) (t : Tier) (name : String) :
    t.LooksUpFirst name ∧ ∀ s, c.compileIn l q = .ok s →
      ∃ required filters carried optional ending,
        s.statement.Stages required filters carried optional ending ∧
          s.ReadsListed c q required optional ending :=
  ⟨t.looksUpFirst name, fun _ => readsListed_compile⟩

/-- Phones with labels of their own and with stops on both sides. -/
def shadowingPhone : Tier :=
  ⟨"phone", [⟨"label", .string⟩], [⟨"id", .string⟩, ⟨"place", .string⟩], ["stop"],
    ["stop", "vowel"], []⟩

def shadowing : Corpus :=
  ⟨⟨"shadowing", [.bare "word", shadowingPhone], [], []⟩, .default⟩

/-- Stops that are not vowels, with the labels of phones and words. -/
def stopLabels : Query :=
  ⟨"phone", none, [⟨⟨["phone", "subset"]⟩, .equal, .literal (.string "stop")⟩,
    ⟨⟨["phone", "subset"]⟩, .notEqual, .literal (.string "vowel")⟩], .project
      ⟨[⟨⟨["phone", "label"]⟩, "phone"⟩, ⟨⟨["phone", "word", "label"]⟩, "word"⟩], [], [], none,
        false⟩⟩

/-- Stops and labels of phones are those of the annotations, vowels and labels of words those of the
type nodes. -/
theorem compile_listed_shadowing :
    ∃ s, shadowing.compile stopLabels = .ok s ∧
      s.statement.conditions =
        [.hasLabel "node_phone" "stop", .negation (.hasLabel "type_node_phone" "vowel")] ∧
      s.statement.clauses.getLast? = some (.returning false
        [⟨.property "node_phone" "label", some "phone"⟩,
          ⟨.property "type_node_phone_word" "label", some "word"⟩] [] none) ∧
      FirstNamed SidedProperty.name "label" shadowingPhone.properties ⟨"label", .string, .token⟩ ∧
      ∃ required filters carried optional ending,
        s.statement.Stages required filters carried optional ending ∧
          s.ReadsListed shadowing stopLabels required optional ending := by
  obtain ⟨hlookup, hcompile⟩ := compile_listed shadowing stopLabels shadowingPhone "label"
  have hok : (shadowing.compile stopLabels).toOption.isSome = true := by decide
  have hconditions : (shadowing.compile stopLabels).toOption.map (·.statement.conditions) =
      some [.hasLabel "node_phone" "stop", .negation (.hasLabel "type_node_phone" "vowel")] := by
    rfl
  have hreturning : (shadowing.compile stopLabels).toOption.map (·.statement.clauses.getLast?) =
      some (some (.returning false
        [⟨.property "node_phone" "label", some "phone"⟩,
          ⟨.property "type_node_phone_word" "label", some "word"⟩] [] none)) := by
    rfl
  obtain ⟨s, hs⟩ := exists_eq_ok hok
  rw [hs] at hconditions hreturning
  have hlabel : shadowingPhone.property? "label" = some ⟨"label", .string, .token⟩ := by decide
  exact ⟨s, hs, Option.some.inj hconditions, Option.some.inj hreturning,
    (hlookup.property?_eq_some _).1 hlabel, hcompile s hs⟩

end Corpus

end AnnotationQuery
