import AnnotationQuery.Proofs.AliasIdentity
import AnnotationQuery.Proofs.PlanRows
import AnnotationQuery.Proofs.StatementForm

/-!
# Assigned properties

Property updates assign values to keys on two sides, the anchor and its type node. They can not be
carried out if nothing is assigned or if two values of one property differ, and that is found out
before anything else about the query. Otherwise each property that is assigned is written once: it
is set to the first value that it is assigned, or removed if that value is null.

The items of `SET` and those of `REMOVE` each follow the order of the properties: the side of the
anchor before that of the type node, and the keys of a side as they are assigned first. Whatever is
removed comes behind all that is set.

Results:
* `PropertyUpdates.fault?_eq_none`: which updates can be carried out.
* `PropertyUpdates.forall₂_setItems`, `PropertyUpdates.forall₂_removeItems`: what is set and what is
  removed.
* `Corpus.compile_setProperties`: the errors and the statements of property updates.
-/

namespace AnnotationQuery

/-! ## Assignments -/

/-- Two of the assignments, not necessarily next to each other, have the same key and values that
differ. -/
def Conflict (assignments : List (String × Value)) : Prop :=
  ∃ key v w, [(key, v), (key, w)].Sublist assignments ∧ v.equals w = false

namespace PropertyUpdates

variable (u : PropertyUpdates)

/-- The assignments of a side. -/
def assignments : Side → List (String × Value)
  | .token => u.token
  | .type => u.type

/-- Nothing is assigned, or values of one property differ. -/
def Invalid : Prop :=
  (∀ side, u.assignments side = []) ∨ ∃ side, Conflict (u.assignments side)

/-- The keys of a side, each once, in the order in which they are assigned first. -/
def keys (side : Side) : List String :=
  ((u.assignments side).map Prod.fst).eraseDups

/-- The properties that are assigned, each once, those of the anchor in front. -/
def targets : List (Side × String) :=
  (u.keys .token).map (.token, ·) ++ (u.keys .type).map (.type, ·)

/-- The value that is assigned first to a property. -/
def value? (target : Side × String) : Option Value :=
  (u.assignments target.1).lookup target.2

/-- Is a property removed? -/
def isRemoved (target : Side × String) : Bool :=
  (u.value? target).any Value.isNull

/-- The item sets a property of the anchor or its type node to the value that is assigned first. -/
def Sets (anchor : Reference) (target : Side × String) (item : SetItem) : Prop :=
  ∃ v, u.value? target = some v ∧ v.isNull = false ∧
    item = .property (anchor.sideAlias target.1) target.2 (.literal v)

/-- The item removes a property of the anchor or its type node, to which null is assigned first. -/
def Removes (anchor : Reference) (target : Side × String) (item : RemoveItem) : Prop :=
  u.value? target = some .null ∧ item = .property (anchor.sideAlias target.1) target.2

end PropertyUpdates

/-- The clauses that set and remove items. None is empty, and a `WITH` stands between two. -/
inductive UpdateClauses : List SetItem → List RemoveItem → List Clause → Prop
  | setting {set : List SetItem} : set ≠ [] → UpdateClauses set [] [.setting set]
  | removing {remove : List RemoveItem} : remove ≠ [] → UpdateClauses [] remove [.removing remove]
  | both {set : List SetItem} {remove : List RemoveItem} {aliases : List String} :
    set ≠ [] → remove ≠ [] →
    UpdateClauses set remove [.setting set, .carrying aliases, .removing remove]

/-- With its parameters in place, the statement matches patterns, filters their rows and writes each
assigned property of the matched anchor or type node once. -/
structure CompiledStatement.Updates (s : CompiledStatement) (anchor : Reference)
    (u : PropertyUpdates) (patterns : List PathPattern) (filters : List Clause)
    (set : List SetItem) (remove : List RemoveItem) (ending : List Clause) : Prop where
  clauses_eq : s.inlined.clauses = .matching patterns :: (filters ++ ending)
  filters_eq : ∀ k ∈ filters, ∃ conditions, k = .filtering conditions
  ending_eq : UpdateClauses set remove ending
  mem_targets_iff : ∀ side key, (side, key) ∈ u.targets ↔ ∃ v, (key, v) ∈ u.assignments side
  targets_nodup : u.targets.Nodup
  set_eq : List.Forall₂ (u.Sets anchor) (u.targets.filter (!u.isRemoved ·)) set
  remove_eq : List.Forall₂ (u.Removes anchor) (u.targets.filter u.isRemoved) remove
  matched : ∀ side, u.assignments side ≠ [] →
    (Node.ofSide anchor side).nodePattern ∈ patterns.flatMap PathPattern.introduced
  sides_ne : anchor.sideAlias .token ≠ anchor.sideAlias .type

/-! ## Conflicts -/

/-- Two assignments agree: if they have the same key, they have equal values. -/
def Agree (a b : String × Value) : Prop :=
  a.1 = b.1 → a.2.equals b.2 = true

theorem not_conflict_iff {assignments : List (String × Value)} :
    ¬ Conflict assignments ↔ assignments.Pairwise Agree := by
  rw [List.pairwise_iff_forall_sublist]
  constructor
  · rintro h ⟨key, v⟩ ⟨key', w⟩ hsub hkey
    obtain rfl : key = key' := hkey
    exact Bool.of_not_eq_false fun hne => h ⟨key, v, w, hsub, hne⟩
  · rintro h ⟨key, v, w, hsub, hne⟩
    have hequal := h hsub rfl
    rw [hne] at hequal
    cases hequal

/-- Each assignment is compared with all earlier ones. -/
theorem firstConflict?_eq_none {earlier assignments : List (String × Value)} :
    firstConflict? earlier assignments = none ↔
      (∀ a ∈ earlier, ∀ b ∈ assignments, Agree a b) ∧ assignments.Pairwise Agree := by
  induction assignments generalizing earlier with
  | nil => simp [firstConflict?]
  | cons b rest ih =>
    obtain ⟨key, w⟩ := b
    have hany : (earlier.any fun a => a.1 == key && !a.2.equals w) = false ↔
        ∀ a ∈ earlier, Agree a (key, w) := by
      simp [Agree, List.any_eq_false]
    rw [firstConflict?]
    by_cases hconflict : (earlier.any fun a => a.1 == key && !a.2.equals w) = true
    · rw [if_pos hconflict]
      refine iff_of_false (by simp) fun h => ?_
      rw [hany.2 fun a ha => h.1 a ha _ List.mem_cons_self] at hconflict
      cases hconflict
    · have hagree := hany.1 (Bool.eq_false_of_not_eq_true hconflict)
      rw [if_neg hconflict, ih, List.pairwise_cons, List.forall_mem_append,
        List.forall_mem_singleton]
      simp only [List.forall_mem_cons]
      constructor
      · rintro ⟨⟨hearlier, hfirst⟩, hrest⟩
        exact ⟨fun a ha => ⟨hagree a ha, hearlier a ha⟩, hfirst, hrest⟩
      · rintro ⟨hearlier, hfirst, hrest⟩
        exact ⟨⟨fun a ha => (hearlier a ha).2, hfirst⟩, hrest⟩

/-- Updates can be carried out if something is assigned and no values of a property differ. -/
theorem PropertyUpdates.fault?_eq_none {u : PropertyUpdates} : u.fault? = none ↔ ¬ u.Invalid := by
  have hside (l : List (String × Value)) : firstConflict? [] l = none ↔ ¬ Conflict l := by
    rw [firstConflict?_eq_none, not_conflict_iff]
    simp
  have hsides : (∃ side, Conflict (u.assignments side)) ↔ Conflict u.token ∨ Conflict u.type :=
    ⟨fun ⟨side, h⟩ => by cases side <;> simp_all [assignments],
      fun h => h.elim (⟨.token, ·⟩) (⟨.type, ·⟩)⟩
  have hempty : (∀ side, u.assignments side = []) ↔ u.isEmpty = true := by
    rw [isEmpty, Bool.and_eq_true, List.isEmpty_iff, List.isEmpty_iff]
    exact ⟨fun h => ⟨h .token, h .type⟩, fun h side => by cases side <;> simp [assignments, h]⟩
  rw [Invalid, hsides, hempty, not_or, not_or, ← hside, ← hside, fault?]
  cases u.isEmpty <;> simp

/-! ## The assignments that count -/

theorem mem_firstAssignments {seen : List String} {assignments : List (String × Value)}
    {key : String} {v : Value} (h : (key, v) ∈ firstAssignments seen assignments) :
    key ∉ seen ∧ assignments.lookup key = some v := by
  induction assignments generalizing seen with
  | nil => cases h
  | cons a rest ih =>
    obtain ⟨k, w⟩ := a
    rw [firstAssignments] at h
    by_cases hseen : seen.contains k = true
    · rw [if_pos hseen] at h
      obtain ⟨hnot, hvalue⟩ := ih h
      have hne : key ≠ k := by
        rintro rfl
        exact hnot (List.contains_iff_mem.1 hseen)
      refine ⟨hnot, ?_⟩
      rw [List.lookup_cons, beq_eq_false_iff_ne.2 hne]
      exact hvalue
    · rw [if_neg hseen] at h
      rcases List.mem_cons.1 h with heq | h
      · cases heq
        exact ⟨fun hmem => hseen (List.contains_iff_mem.2 hmem), List.lookup_cons_self⟩
      · obtain ⟨hnot, hvalue⟩ := ih h
        obtain ⟨hne, hnot⟩ := not_or.1 (List.mem_cons.not.1 hnot)
        refine ⟨hnot, ?_⟩
        rw [List.lookup_cons, beq_eq_false_iff_ne.2 hne]
        exact hvalue

theorem map_fst_firstAssignments (seen : List String) (assignments : List (String × Value)) :
    (firstAssignments seen assignments).map Prod.fst =
      ((assignments.map Prod.fst).filter (!seen.contains ·)).eraseDups := by
  induction assignments generalizing seen with
  | nil => rfl
  | cons a rest ih =>
    obtain ⟨key, v⟩ := a
    rw [firstAssignments, List.map_cons]
    by_cases hseen : seen.contains key = true
    · rw [if_pos hseen, List.filter_cons_of_neg (by simpa using hseen), ih]
    · rw [if_neg hseen, List.filter_cons_of_pos (by simpa using hseen), List.map_cons, ih,
        List.eraseDups_cons, List.filter_filter]
      congr 2
      refine List.filter_congr fun k _ => ?_
      rw [List.contains_cons, Bool.not_or]

theorem eq_null_of_isNull {v : Value} (h : v.isNull = true) : v = .null := by
  cases v <;> first | rfl | cases h

namespace PropertyUpdates

variable {u : PropertyUpdates}

/-- The assignments that count, with their sides. -/
def counting (u : PropertyUpdates) : List (Side × String × Value) :=
  (firstAssignments [] u.token).map (.token, ·) ++ (firstAssignments [] u.type).map (.type, ·)

theorem effective_eq (anchor : Reference) :
    u.effective anchor = u.counting.map fun a => (anchor.sideAlias a.1, a.2) := by
  rw [effective, counting, List.map_append, List.map_map, List.map_map]
  rfl

theorem targets_eq : u.targets = u.counting.map fun a => (a.1, a.2.1) := by
  have hkeys (side : Side) :
      u.keys side = (firstAssignments [] (u.assignments side)).map Prod.fst := by
    rw [map_fst_firstAssignments, keys]
    simp
  rw [targets, hkeys, hkeys, counting, List.map_append, List.map_map, List.map_map, List.map_map,
    List.map_map]
  rfl

theorem value?_of_mem {a : Side × String × Value} (h : a ∈ u.counting) :
    u.value? (a.1, a.2.1) = some a.2.2 := by
  rcases List.mem_append.1 h with h | h
  all_goals
    obtain ⟨⟨key, v⟩, hmem, rfl⟩ := List.mem_map.1 h
    exact (mem_firstAssignments hmem).2

theorem nodup_targets (u : PropertyUpdates) : u.targets.Nodup := by
  have hkeys (side : Side) : ((u.keys side).map (Prod.mk side)).Nodup :=
    (nodup_eraseDups _).map fun _ _ h => (Prod.mk.inj h).2
  refine (hkeys .token).append (hkeys .type) fun target htoken htype => ?_
  obtain ⟨key, -, rfl⟩ := List.mem_map.1 htoken
  obtain ⟨key', -, heq⟩ := List.mem_map.1 htype
  cases heq

theorem mem_targets {side : Side} {key : String} :
    (side, key) ∈ u.targets ↔ ∃ v, (key, v) ∈ u.assignments side := by
  have hkeys : key ∈ u.keys side ↔ ∃ v, (key, v) ∈ u.assignments side := by
    simp [keys, List.mem_eraseDups]
  rw [← hkeys]
  cases side <;> simp [targets]

theorem isRemoved_of_mem {a : Side × String × Value} (h : a ∈ u.counting) :
    u.isRemoved (a.1, a.2.1) = a.2.2.isNull := by
  rw [isRemoved, value?_of_mem h, Option.any_some]

/-- Each property whose first value is not null is set to it. -/
theorem forall₂_setItems (u : PropertyUpdates) (anchor : Reference) :
    List.Forall₂ (u.Sets anchor) (u.targets.filter (!u.isRemoved ·)) (u.setItems anchor) := by
  rw [targets_eq, setItems_eq, effective_eq, List.filterMap_map]
  refine forall₂_filter_filterMap fun a ha => ?_
  rw [isRemoved_of_mem ha]
  cases hnull : a.2.2.isNull with
  | true => simp [hnull]
  | false =>
    refine ⟨fun _ => ⟨.property (anchor.sideAlias a.1) a.2.1 (.literal a.2.2), ?_, ?_⟩, by simp⟩
    · simp [hnull]
    · exact ⟨a.2.2, value?_of_mem ha, hnull, rfl⟩

/-- Each property whose first value is null is removed. -/
theorem forall₂_removeItems (u : PropertyUpdates) (anchor : Reference) :
    List.Forall₂ (u.Removes anchor) (u.targets.filter u.isRemoved) (u.removeItems anchor) := by
  rw [targets_eq, removeItems, effective_eq, List.filterMap_map]
  refine forall₂_filter_filterMap fun a ha => ?_
  rw [isRemoved_of_mem ha]
  cases hnull : a.2.2.isNull with
  | false => simp [hnull]
  | true =>
    refine ⟨fun _ => ⟨.property (anchor.sideAlias a.1) a.2.1, ?_, ?_⟩, by simp⟩
    · simp [hnull]
    · refine ⟨?_, rfl⟩
      rw [value?_of_mem ha, eq_null_of_isNull hnull]

end PropertyUpdates

/-! ## Clauses -/

theorem Plan.updateClauses {p : Plan} {set : List SetItem} {remove : List RemoveItem}
    (hending : p.ending = .settingProperties set remove) (hne : set ≠ [] ∨ remove ≠ []) :
    UpdateClauses set remove p.endingClauses := by
  rw [endingClauses, hending]
  rcases set with - | ⟨item, set⟩ <;> rcases remove with - | ⟨item', remove⟩
  · exact absurd rfl (hne.resolve_left (absurd rfl))
  · exact .removing (List.cons_ne_nil _ _)
  · exact .setting (List.cons_ne_nil _ _)
  · exact .both (List.cons_ne_nil _ _) (List.cons_ne_nil _ _)

/-- An annotation and its type node have different aliases. -/
theorem Reference.sideAlias_ne (r : Reference) : r.sideAlias .token ≠ r.sideAlias .type := by
  intro h
  have hhead := congrArg (fun a : String => a.toList.head?) h
  change (Node.token r).aliasName.toList.head? = (Node.type r).aliasName.toList.head? at hhead
  rw [Node.head_aliasName, Node.head_aliasName, Option.some.injEq] at hhead
  exact absurd hhead (show 'n' ≠ 't' by decide)

namespace Corpus

variable {l : Listing} {c : Corpus} {q : Query} {u : PropertyUpdates}

/-- Property updates need no nodes that are matched optionally. -/
theorem optional_setProperties {p : Plan} (hp : c.plan l q = .ok p)
    (hi : q.intent = .setProperties u) : p.optional = [] := by
  refine List.eq_nil_iff_forall_not_mem.2 fun n hn => ?_
  obtain ⟨m, -, path, hpath, -⟩ := shows_iff.1 ((mem_optional hp).1 hn).1
  rw [Query.outputPaths, hi] at hpath
  cases hpath

/-- The nodes whose properties are written are among those that the first clause matches. -/
theorem matched_setProperties {p : Plan} (hp : c.plan l q = .ok p)
    (hi : q.intent = .setProperties u) {side : Side} (hside : u.assignments side ≠ []) :
    (Node.ofSide (c.anchor q.tier) side).nodePattern ∈
      (p.required.patterns p.hierarchy p.required).flatMap PathPattern.introduced := by
  refine Group.nodePattern_mem_introduced _ _ ((mem_required hp).2 ?_)
  cases side with
  | token => exact .anchor
  | type =>
    refine .type ?_
    rw [hi]
    exact hside

theorem updates_compile {s : CompiledStatement} (hs : c.compileIn l q = .ok s)
    (hi : q.intent = .setProperties u) :
    ∃ patterns filters set remove ending,
      s.Updates (c.anchor q.tier) u patterns filters set remove ending := by
  obtain ⟨p, hp, -, -, hinlined⟩ := inlined_compile hs
  obtain ⟨-, -, hfault, -⟩ := plan_eq_ok hp
  rw [hi] at hfault
  have hending : p.ending = .settingProperties (u.setItems (c.anchor q.tier))
      (u.removeItems (c.anchor q.tier)) := ending_plan hp hi rfl
  have hoptional : p.optionalClauses = [] := by
    rw [Plan.optionalClauses, optional_setProperties hp hi]
    rfl
  refine ⟨p.required.patterns p.hierarchy p.required, p.filterClauses,
    u.setItems (c.anchor q.tier), u.removeItems (c.anchor q.tier), p.endingClauses, ?_⟩
  constructor
  case clauses_eq =>
    rw [hinlined, Plan.statement, p.clauses_eq, Plan.carryingClauses, hoptional]
    simp
  case filters_eq => exact fun k hk => ⟨_, Plan.mem_filterClauses hk⟩
  case ending_eq => exact Plan.updateClauses hending (PropertyUpdates.items_ne_nil hfault _)
  case mem_targets_iff => exact fun side key => PropertyUpdates.mem_targets
  case targets_nodup => exact u.nodup_targets
  case set_eq => exact u.forall₂_setItems _
  case remove_eq => exact u.forall₂_removeItems _
  case matched => exact fun side hside => matched_setProperties hp hi hside
  case sides_ne => exact Reference.sideAlias_ne _

/-- The check of a filter finds fault with a tier, a path or the filter itself. -/
theorem condition_error {tier : String} {f : Filter} {e : QueryError}
    (h : c.condition tier f = .error e) (fault : MutationFault) : e ≠ .invalidMutation fault := by
  have hmapped {ε α : Type} {g : ε → QueryError} {x : Except ε α} (he : x.mapError g = .error e)
      (hg : ∀ e', g e' ≠ .invalidMutation fault) : e ≠ .invalidMutation fault := by
    obtain ⟨e', -, rfl⟩ := mapError_eq_error.1 he
    exact hg e'
  have hresolve {path : Path} (he : c.resolve tier path = .error e) :
      e ≠ .invalidMutation fault := by
    unfold resolve Path.resolve at he
    split at he
    · cases he
      simp
    · split at he
      · cases he
        simp
      · exact hmapped he (by simp)
  simp only [condition_eq, bind_eq_error] at h
  rcases h with he | ⟨-, -, he | ⟨resolved, -, he⟩⟩
  · unfold Filter.validate at he
    split at he
    · cases he
      simp
    · cases he
  · exact hresolve he
  · split at he
    · simp only [bind_eq_error, pure_eq_error] at he
      rcases he with he | ⟨other, -, he | ⟨left, -, he | ⟨right, -, hfalse⟩⟩⟩
      · exact hresolve he
      · exact hmapped he (by simp)
      · exact hmapped he (by simp)
      · exact hfalse.elim
    · split at he
      · exact hmapped he (by simp)
      · simp only [bind_eq_error, pure_eq_error] at he
        rcases he with he | ⟨left, -, hfalse⟩
        · exact hmapped he (by simp)
        · exact hfalse.elim

/-- Invalid updates are found first, and no other error is taken for theirs. -/
theorem compile_invalidMutation_iff (hi : q.intent = .setProperties u) :
    (∃ fault, c.compileIn l q = .error (.invalidMutation fault)) ↔ u.Invalid := by
  have hfault : q.intent.mutationFault? = u.fault? := by
    rw [hi]
    rfl
  rw [← not_iff_not, ← PropertyUpdates.fault?_eq_none]
  simp only [compile_eq_error, plan_eq_error, hfault]
  cases h : u.fault? with
  | some fault =>
    refine iff_of_false (not_not_intro ?_) nofun
    exact ⟨fault, .inl ⟨fault, rfl, rfl⟩⟩
  | none =>
    refine iff_of_true ?_ rfl
    rintro ⟨fault, ⟨_, hsome, -⟩ | ⟨-, htier | ⟨t, -, hfilters | ⟨ks, -, hdemand⟩⟩⟩⟩
    · cases hsome
    · unfold Hierarchy.tier at htier
      split at htier <;> cases htier
    · obtain ⟨_, f, _, -, -, he⟩ := mapM_eq_error.1 hfilters
      exact condition_error he fault rfl
    · rw [hi] at hdemand
      cases hdemand

/-- Property updates fail as invalid if and only if nothing is assigned or values of one property
differ, whatever else is wrong with the query. Valid ones compile if the tier exists and the filters
compile. The statement then writes each assigned property once. -/
theorem compile_setProperties (hi : q.intent = .setProperties u) :
    ((∃ fault, c.compileIn l q = .error (.invalidMutation fault)) ↔ u.Invalid) ∧
      ((∃ s, c.compileIn l q = .ok s) ↔ ¬ u.Invalid ∧ c.hierarchy.hasTier q.tier = true ∧
        ∃ conditions, c.conditions q.tier q.effectiveFilters = .ok conditions) ∧
      ∀ s, c.compileIn l q = .ok s → ∃ patterns filters set remove ending,
        s.Updates (c.anchor q.tier) u patterns filters set remove ending := by
  refine ⟨compile_invalidMutation_iff hi, ?_, fun s hs => updates_compile hs hi⟩
  have hfault : q.intent.mutationFault? = none ↔ ¬ u.Invalid := by
    rw [hi]
    exact PropertyUpdates.fault?_eq_none
  rw [exists_compile_iff_plan, ← hfault]
  constructor
  · rintro ⟨p, hp⟩
    obtain ⟨conditions, -, hnone, htier, hconditions, -⟩ := plan_eq_ok hp
    exact ⟨hnone, htier, conditions, hconditions⟩
  · rintro ⟨hnone, htier, conditions, hconditions⟩
    exact ⟨_, plan_of_parts hnone htier hconditions (d := _) (by rw [hi]; rfl)⟩

/-- Two properties of phones and one of their types; one of them is assigned twice. -/
def phoneUpdates : PropertyUpdates :=
  ⟨[("tone", .int 1), ("note", .null), ("tone", .int 1)], [("checked", .bool true)]⟩

/-- A property that is assigned twice. NaN differs from itself. -/
def phoneConflict : PropertyUpdates :=
  ⟨[("pitch", .float .nan), ("pitch", .float .nan)], []⟩

/-- Of the updates two are set and one is removed; the conflict does not compile. -/
theorem compile_setProperties_small :
    (∃ s patterns filters set remove ending,
      small.compile (.ofSyllable (.setProperties phoneUpdates)) = .ok s ∧
        s.Updates (small.anchor "phone") phoneUpdates patterns filters set remove ending ∧
        set.length = 2 ∧ remove.length = 1) ∧
      ∃ fault, small.compile (.ofSyllable (.setProperties phoneConflict)) =
        .error (.invalidMutation fault) := by
  constructor
  · have hok : (small.compile
        (.ofSyllable (.setProperties phoneUpdates))).toOption.isSome = true := by decide
    obtain ⟨s, hs⟩ := exists_eq_ok hok
    obtain ⟨-, -, hupdates⟩ := compile_setProperties (l := .arrival) (c := small)
      (q := .ofSyllable (.setProperties phoneUpdates)) (u := phoneUpdates) rfl
    obtain ⟨patterns, filters, set, remove, ending, h⟩ := hupdates s hs
    have hset : set.length = 2 := h.set_eq.length_eq.symm.trans (by decide)
    have hremove : remove.length = 1 := h.remove_eq.length_eq.symm.trans (by decide)
    exact ⟨s, patterns, filters, set, remove, ending, hs, h, hset, hremove⟩
  · have hconflict : Conflict phoneConflict.token :=
      ⟨"pitch", .float .nan, .float .nan, List.Sublist.refl _, rfl⟩
    exact (compile_setProperties (l := .arrival) (c := small)
      (q := .ofSyllable (.setProperties phoneConflict)) (u := phoneConflict) rfl).1.2
      (.inr ⟨.token, hconflict⟩)

end Corpus

end AnnotationQuery
