import AnnotationQuery.Proofs.Conditions
import AnnotationQuery.Proofs.Outputs
import AnnotationQuery.Proofs.WellScoped

/-!
# The form of compiled statements

A compiled statement finds its rows by one `MATCH`, a `WHERE` if the query has filters, and a `WITH`
and `OPTIONAL MATCH` clauses if the output shows nodes that the filters do not need. What stands
behind depends on the intent: one `RETURN` for a projection, `SET` and `REMOVE` clauses, a
`DETACH DELETE` of the anchor or a last `WITH` for the others. No clause is left empty: an intent
without assignments or labels does not compile, and what is returned, carried or changed always
names something.

Results:
* `Group.patterns_eq_nil_iff`: only an empty group has no patterns.
* `Corpus.expresses_liftedConditions`: the conditions of a statement are those of its filters.
* `Corpus.endsWith_endingClauses`: the last clauses by intent.
* `Corpus.mem_boundAliases_iff`: a statement matches the aliases of its plan.
* `Corpus.compile_form`: the form of a compiled statement.
-/

namespace AnnotationQuery

/-! ## Last clauses by intent -/

/-- The last clauses of a statement for an intent, with the statement's mode and columns. `anchor`
is the alias of the anchor and `bound` are the aliases that the statement matches. -/
inductive Intent.EndsWith (anchor : String) (bound : List String) :
    Intent → Mode → List String → List Clause → Prop
  | returning {p : Projection} {items : List ReturnItem} {orderBy : List OrderItem} :
    items ≠ [] → EndsWith anchor bound (.project p) .read (items.map (·.columnName))
      [.returning p.distinct items orderBy p.effectiveLimit]
  | setting {u : PropertyUpdates} {set : List SetItem} :
    set ≠ [] → EndsWith anchor bound (.setProperties u) .write [] [.setting set]
  | removing {u : PropertyUpdates} {remove : List RemoveItem} :
    remove ≠ [] → EndsWith anchor bound (.setProperties u) .write [] [.removing remove]
  | settingAndRemoving {u : PropertyUpdates} {set : List SetItem} {aliases : List String}
    {remove : List RemoveItem} : set ≠ [] → aliases ≠ [] → remove ≠ [] →
    EndsWith anchor bound (.setProperties u) .write []
      [.setting set, .carrying aliases, .removing remove]
  | settingLabels {u : LabelUpdates} {set : List SetItem} :
    set ≠ [] → EndsWith anchor bound (.setLabels u) .write [] [.setting set]
  | removingLabels {u : LabelUpdates} {remove : List RemoveItem} :
    remove ≠ [] → EndsWith anchor bound (.removeLabels u) .write [] [.removing remove]
  | deleting : EndsWith anchor bound .delete .write [] [.deleting true [anchor]]
  | caching {aliases : List String} :
    (∀ a, a ∈ aliases ↔ a ∈ bound) → EndsWith anchor bound .cache .cache [] [.carrying aliases]

namespace Intent.EndsWith

variable {anchor : String} {bound columns : List String} {i : Intent} {mode : Mode}
  {ending : List Clause}

/-- Only what is returned has columns. -/
theorem columns_ne_nil_iff (h : i.EndsWith anchor bound mode columns ending) :
    columns ≠ [] ↔ mode = .read := by
  cases h with
  | returning hne => exact ⟨fun _ => rfl, fun _ => List.map_eq_nil_iff.not.2 hne⟩
  | setting _ | removing _ | settingAndRemoving _ _ _ | settingLabels _ | removingLabels _
  | deleting | caching _ =>
    exact ⟨fun hne => absurd rfl hne, fun hmode => by cases hmode⟩

theorem eq_cache (h : i.EndsWith anchor bound .cache columns ending) : i = .cache := by
  cases h
  rfl

end Intent.EndsWith

/-- The expression is the condition of a filter, its literal in place or lifted. -/
def Corpus.Expresses (c : Corpus) (tier : String) (f : Filter) (e : Expr) : Prop :=
  ∃ k, c.condition tier f = .ok k ∧ (e = k.expr ∨ ∃ n, e = (k.expr.lift n).1)

/-- The compiled statement of a query in stages: the patterns that it requires, its conditions, the
aliases that it carries to the optional patterns, those patterns and its last clauses. -/
structure CompiledStatement.Form (s : CompiledStatement) (c : Corpus) (q : Query)
    (required : List PathPattern) (conditions : List Expr) (carried : List String)
    (optional : List PathPattern) (ending : List Clause) : Prop where
  clauses_eq : s.statement.clauses = .matching required ::
    ((if q.effectiveFilters.isEmpty then [] else [.filtering conditions]) ++
      (if optional.isEmpty then [] else [.carrying carried]) ++
      optional.map (fun p => .optionalMatching [p]) ++ ending)
  required_ne_nil : required ≠ []
  conditions_eq : List.Forall₂ (c.Expresses q.tier) q.effectiveFilters conditions
  carried_ne_nil : carried ≠ []
  optional_ne_nil_iff : optional ≠ [] ↔ ∃ n, c.Shows q s.columns n ∧ ¬c.Requires q n
  optional_of_mode : s.mode ≠ .read → optional = []
  ending_eq : q.intent.EndsWith (c.anchor q.tier).aliasName s.statement.boundAliases s.mode
    s.columns ending
  columns_ne_nil_iff : s.columns ≠ [] ↔ s.mode = .read
  nodup_carried : c.DistinctAliases q s.columns →
    ∀ aliases, s.mode = .cache → ending = [.carrying aliases] → aliases.Nodup

/-! ## Nothing is empty -/

theorem Projection.items_ne_nil {c : Corpus} {tier : String} {p : Projection}
    {items : List (List Node × ReturnItem)} (h : p.items c tier = .ok items) : items ≠ [] := by
  simp only [Projection.items, bind_eq_ok] at h
  obtain ⟨columns, -, aggregates, -, h⟩ := h
  split at h
  · rw [← pure_eq_ok.1 h]
    exact List.cons_ne_nil _ _
  · rename_i hne
    rw [← pure_eq_ok.1 h]
    exact fun hnil => hne (by rw [hnil]; rfl)

theorem LabelUpdates.items_ne_nil {u : LabelUpdates} {fault : MutationFault}
    (h : (if u.isEmpty then some fault else none) = none) (anchor : Reference) :
    u.items anchor ≠ [] := by
  intro hnil
  have hall : ∀ a : String × String, a ∉ u.token.map (anchor.sideAlias .token, ·) ++
      u.type.map (anchor.sideAlias .type, ·) := by
    intro a ha
    have : a ∈ u.items anchor := List.mem_eraseDups.2 ha
    rw [hnil] at this
    cases this
  have hempty := List.eq_nil_iff_forall_not_mem.2 hall
  rw [List.append_eq_nil_iff, List.map_eq_nil_iff, List.map_eq_nil_iff] at hempty
  rw [isEmpty, hempty.1, hempty.2] at h
  cases h

theorem Plan.carried_ne_nil (p : Plan) (available : List String) (clauses : List Clause) :
    p.carried available clauses ≠ [] := by
  simp only [carried, carryForward]
  split
  · exact List.cons_ne_nil _ _
  · assumption

/-- Only an empty group has no patterns. -/
theorem Group.patterns_eq_nil_iff {h : Hierarchy} {available : List Node} {group : Group} :
    group.patterns h available = [] ↔ group = [] := by
  constructor
  · intro hnil
    rw [patterns, List.map_eq_nil_iff] at hnil
    refine List.eq_nil_iff_forall_not_mem.2 fun n hn => ?_
    rw [← mem_bindingSequence, bindingSequence, hnil] at hn
    cases hn
  · rintro rfl
    rfl

/-! ## The clauses of a plan -/

namespace Clause

theorem Lifts.setting {set : List SetItem} {k : Clause} (h : (setting set).Lifts k)
    (hne : set ≠ []) : ∃ set', k = .setting set' ∧ set' ≠ [] := by
  rcases h with rfl | ⟨n, rfl⟩
  · exact ⟨set, rfl, hne⟩
  · refine ⟨_, rfl, fun hnil => hne ?_⟩
    rw [← List.length_eq_zero_iff, ← length_liftEach n set, hnil]
    rfl

theorem Lifts.removing {remove : List RemoveItem} {k : Clause} (h : (removing remove).Lifts k) :
    k = .removing remove := by
  rcases h with rfl | ⟨n, rfl⟩ <;> rfl

theorem Lifts.carrying {aliases : List String} {k : Clause} (h : (carrying aliases).Lifts k) :
    k = .carrying aliases := by
  rcases h with rfl | ⟨n, rfl⟩ <;> rfl

theorem Lifts.of_singleton {k : Clause} {ending : List Clause}
    (h : List.Forall₂ Lifts [k] ending) : ∃ k', ending = [k'] ∧ k.Lifts k' := by
  cases h with
  | cons hk hrest =>
    cases hrest
    exact ⟨_, rfl, hk⟩

end Clause

namespace Corpus

variable {l : Listing} {c : Corpus} {q : Query} {p : Plan}

/-- The conditions of a statement are those of its filters in order. -/
theorem expresses_liftedConditions (h : c.plan l q = .ok p) :
    List.Forall₂ (c.Expresses q.tier) q.effectiveFilters (c.liftedConditions p.conditions).1 := by
  obtain ⟨conditions, hc, heq⟩ := conditions_plan h
  have hfilters : List.Forall₂ (fun f e => ∃ k, c.condition q.tier f = .ok k ∧ e = k.expr)
      q.effectiveFilters p.conditions := by
    rw [heq, List.forall₂_map_right_iff]
    exact (mapM_eq_ok.1 hc).imp fun f k hk => ⟨k, hk, rfl⟩
  have hlifted : List.Forall₂ (fun e e' => e' = e ∨ ∃ n, e' = (Expr.lift n e).1) p.conditions
      (c.liftedConditions p.conditions).1 := by
    refine (forall₂_liftEach 0 p.conditions).imp fun e e' ⟨n, he⟩ => ?_
    unfold lifting at he
    split at he
    · exact .inr ⟨n, he⟩
    · exact .inl he
  refine (forall₂_trans hfilters hlifted).imp fun f e' => ?_
  rintro ⟨e, ⟨k, hk, rfl⟩, he⟩
  exact ⟨k, hk, he⟩

/-- What only the output needs is bound optionally. -/
theorem optional_ne_nil_iff (h : c.plan l q = .ok p) :
    p.optional ≠ [] ↔ ∃ n, c.Shows q p.ending.columns n ∧ ¬c.Requires q n := by
  constructor
  · intro hne
    obtain ⟨n, hn⟩ := List.exists_mem_of_ne_nil _ hne
    exact ⟨n, (mem_optional h).1 hn⟩
  · rintro ⟨n, hn⟩
    exact List.ne_nil_of_mem ((mem_optional h).2 hn)

/-- Only a projection shows anything. -/
theorem mode_of_shows {n : Node} (h : c.plan l q = .ok p) (hn : c.Shows q p.ending.columns n) :
    p.ending.mode = .read := by
  obtain ⟨m, -, path, hpath, -⟩ := shows_iff.1 hn
  cases hi : q.intent with
  | project pr =>
    obtain ⟨output, -, hending⟩ := ending_plan_project h hi
    rw [hending]
    rfl
  | setProperties _ | setLabels _ | removeLabels _ | delete | cache =>
    rw [Query.outputPaths, hi] at hpath
    cases hpath

/-- The aliases that a statement matches are those of its plan. -/
theorem mem_boundAliases_iff {s : CompiledStatement} (h : c.plan l q = .ok p)
    (hclauses : List.Forall₂ Clause.Lifts p.clauses s.statement.clauses) {a : String} :
    a ∈ s.statement.boundAliases ↔ a ∈ p.aliases := by
  rw [Statement.boundAliases, Text.mem_sortedNames,
    Clause.Lifts.flatMap_eq hclauses Clause.Lifts.boundAliases]
  constructor
  · intro ha
    rw [← introducedAliases_clauses]
    exact ((scopedFrom_clauses h).mem_boundAliases ha).resolve_left List.not_mem_nil
  · intro ha
    rw [← introducedAliases_clauses] at ha
    obtain ⟨k, hk, ha⟩ := List.mem_flatMap.1 ha
    exact List.mem_flatMap.2 ⟨k, hk, k.introducedAliases_subset ha⟩

/-! ## The last clauses of a plan -/

/-- The last clauses for property updates: what is set, what is removed, or both. -/
theorem endsWith_settingProperties {u : PropertyUpdates} {anchor : String} {bound : List String}
    {set : List SetItem} {remove : List RemoveItem} (hne : set ≠ [] ∨ remove ≠ [])
    (hending : p.ending = .settingProperties set remove) {ending : List Clause}
    (hlifts : List.Forall₂ Clause.Lifts p.endingClauses ending) :
    Intent.EndsWith anchor bound (.setProperties u) p.ending.mode p.ending.columns ending := by
  rw [Plan.endingClauses, hending] at hlifts
  rw [hending]
  -- an empty list has no clause, and only two clauses have a `WITH` between them
  rcases set with - | ⟨item, set⟩ <;> rcases remove with - | ⟨item', remove⟩
  · exact absurd rfl (hne.resolve_left (absurd rfl))
  · obtain ⟨k, rfl, hk⟩ := Clause.Lifts.of_singleton hlifts
    rw [hk.removing]
    exact .removing (List.cons_ne_nil _ _)
  · obtain ⟨k, rfl, hk⟩ := Clause.Lifts.of_singleton hlifts
    obtain ⟨set', rfl, hset⟩ := hk.setting (List.cons_ne_nil _ _)
    exact .setting hset
  · obtain ⟨k, rest, hk, hrest, rfl⟩ := List.forall₂_cons_left_iff.1 hlifts
    obtain ⟨k', rest', hk', hrest', rfl⟩ := List.forall₂_cons_left_iff.1 hrest
    obtain ⟨k'', rfl, hk''⟩ := Clause.Lifts.of_singleton hrest'
    obtain ⟨set', rfl, hset⟩ := hk.setting (List.cons_ne_nil _ _)
    rw [hk'.carrying, hk''.removing]
    exact .settingAndRemoving hset (p.carried_ne_nil _ _) (List.cons_ne_nil _ _)

theorem endsWith_settingLabels {u : LabelUpdates} {anchor : String} {bound : List String}
    {set : List SetItem} (hne : set ≠ []) (hending : p.ending = .settingLabels set)
    {ending : List Clause} (hlifts : List.Forall₂ Clause.Lifts p.endingClauses ending) :
    Intent.EndsWith anchor bound (.setLabels u) p.ending.mode p.ending.columns ending := by
  rw [Plan.endingClauses, hending] at hlifts
  obtain ⟨k, rfl, hk⟩ := Clause.Lifts.of_singleton hlifts
  obtain ⟨set', rfl, hset⟩ := hk.setting hne
  rw [hending]
  exact .settingLabels hset

theorem endsWith_removingLabels {u : LabelUpdates} {anchor : String} {bound : List String}
    {remove : List RemoveItem} (hne : remove ≠ []) (hending : p.ending = .removingLabels remove)
    {ending : List Clause} (hlifts : List.Forall₂ Clause.Lifts p.endingClauses ending) :
    Intent.EndsWith anchor bound (.removeLabels u) p.ending.mode p.ending.columns ending := by
  rw [Plan.endingClauses, hending] at hlifts
  obtain ⟨k, rfl, hk⟩ := Clause.Lifts.of_singleton hlifts
  rw [hk.removing, hending]
  exact .removingLabels hne

/-- The last clauses of a plan, their literals in place or lifted. -/
theorem endsWith_endingClauses (h : c.plan l q = .ok p) {bound : List String}
    (hbound : ∀ a, a ∈ p.aliases ↔ a ∈ bound) {ending : List Clause}
    (hlifts : List.Forall₂ Clause.Lifts p.endingClauses ending)
    (hplain : q.intent.Plain → ending = p.endingClauses) :
    q.intent.EndsWith (c.anchor q.tier).aliasName bound p.ending.mode p.ending.columns ending := by
  obtain ⟨-, -, hfault, -⟩ := plan_eq_ok h
  cases hi : q.intent with
  | project pr =>
    obtain ⟨output, ho, hending⟩ := ending_plan_project h hi
    obtain ⟨items, -, hitems, -, -, heq, -⟩ := Output.ofProjection_eq_ok ho
    have hne : output.items ≠ [] := by
      rw [heq]
      exact fun hnil => Projection.items_ne_nil hitems (List.map_eq_nil_iff.1 hnil)
    rw [hplain (by rw [hi]; trivial), Plan.endingClauses, hending]
    exact .returning hne
  | setProperties u =>
    rw [hi] at hfault
    have hitems := PropertyUpdates.items_ne_nil hfault (c.anchor q.tier)
    exact endsWith_settingProperties hitems (ending_plan h hi rfl) hlifts
  | setLabels u =>
    rw [hi] at hfault
    have hitems := LabelUpdates.items_ne_nil hfault (c.anchor q.tier)
    exact endsWith_settingLabels (List.map_eq_nil_iff.not.2 hitems) (ending_plan h hi rfl) hlifts
  | removeLabels u =>
    rw [hi] at hfault
    have hitems := LabelUpdates.items_ne_nil hfault (c.anchor q.tier)
    exact endsWith_removingLabels (List.map_eq_nil_iff.not.2 hitems) (ending_plan h hi rfl) hlifts
  | delete =>
    rw [hplain (by rw [hi]; trivial), Plan.endingClauses, ending_plan h hi rfl]
    exact .deleting
  | cache =>
    rw [hplain (by rw [hi]; trivial), Plan.endingClauses, ending_plan h hi rfl]
    exact .caching hbound

/-- The form of a compiled statement. -/
theorem compile_form {s : CompiledStatement} (h : c.compileIn l q = .ok s) :
    ∃ required conditions carried optional ending,
      s.Form c q required conditions carried optional ending := by
  obtain ⟨p, hp, hcolumns, -, hclauses, -⟩ := compile_eq_ok h
  obtain rfl := Except.ok.inj (h.symm.trans (compile_of_plan hp))
  have hlifts : List.Forall₂ Clause.Lifts p.clauses
      (c.assembled p (c.liftedConditions p.conditions)).statement.clauses := by
    rw [hclauses]
    exact forall₂_lifted 0 p.clauses
  have hbound := fun a => (mem_boundAliases_iff hp hlifts (a := a)).symm
  have hconditions := expresses_liftedConditions hp
  -- literals are lifted in what is set only, all other last clauses stay as they are
  have hplain (hi : q.intent.Plain) (n : Nat) : (c.lifted n p.endingClauses).1 = p.endingClauses :=
    congrArg Prod.fst (lifted_of_plain (plain_ending hp hi))
  have hending := endsWith_endingClauses hp hbound (forall₂_lifted _ p.endingClauses)
    fun hi => hplain hi (c.liftedConditions p.conditions).2.length
  have hoptional : p.optional.patterns p.hierarchy (p.required ++ p.optional) ≠ [] ↔
      ∃ n, c.Shows q p.ending.columns n ∧ ¬c.Requires q n :=
    Group.patterns_eq_nil_iff.not.trans (optional_ne_nil_iff hp)
  refine ⟨p.required.patterns p.hierarchy p.required, (c.liftedConditions p.conditions).1,
    p.carried p.required.aliases (p.optionalClauses ++ p.endingClauses),
    p.optional.patterns p.hierarchy (p.required ++ p.optional),
    (c.lifted (c.liftedConditions p.conditions).2.length p.endingClauses).1, ?_⟩
  constructor
  case clauses_eq =>
    have hempty : (c.liftedConditions p.conditions).1.isEmpty = q.effectiveFilters.isEmpty := by
      rw [Bool.eq_iff_iff, List.isEmpty_iff_length_eq_zero, List.isEmpty_iff_length_eq_zero,
        hconditions.length_eq]
    rw [(stages_assembled p _).clauses_eq, Clause.whereAll, hempty, Plan.carryingClauses,
      Plan.optionalClauses, List.isEmpty_map]
  case required_ne_nil =>
    rw [Ne, Group.patterns_eq_nil_iff]
    exact List.ne_nil_of_mem ((mem_required hp).2 .anchor)
  case conditions_eq => exact hconditions
  case carried_ne_nil => exact p.carried_ne_nil _ _
  case optional_ne_nil_iff => exact hoptional
  case optional_of_mode =>
    intro hmode
    by_contra hne
    obtain ⟨n, hn, -⟩ := hoptional.1 hne
    exact hmode (mode_of_shows hp hn)
  case ending_eq => exact hending
  case columns_ne_nil_iff => exact hending.columns_ne_nil_iff
  case nodup_carried =>
    intro hdistinct aliases hmode heq
    have hi : q.intent = .cache := by
      change p.ending.mode = .cache at hmode
      rw [hmode] at hending
      exact hending.eq_cache
    rw [hplain (by rw [hi]; trivial), Plan.endingClauses, ending_plan hp hi rfl] at heq
    obtain rfl := Clause.carrying.inj (List.singleton_inj.1 heq)
    exact nodup_aliases hp hdistinct

/-- Phones are kept by the labels of their syllables. -/
theorem compile_form_small :
    ∃ s, small.compile (.ofSyllable .cache) = .ok s ∧ s.mode = .cache ∧
      ∃ required conditions carried optional ending,
        s.Form small (.ofSyllable .cache) required conditions carried optional ending := by
  have hok : (small.compile (.ofSyllable .cache)).toOption.isSome = true := by decide
  obtain ⟨s, hs⟩ := exists_eq_ok hok
  obtain ⟨required, conditions, carried, optional, ending, hform⟩ := compile_form hs
  have hmode : (small.compile (.ofSyllable .cache)).toOption.map (·.mode) = some .cache := by decide
  rw [hs] at hmode
  exact ⟨s, hs, Option.some.inj hmode, required, conditions, carried, optional, ending, hform⟩

end Corpus

end AnnotationQuery
