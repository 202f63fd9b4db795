import AnnotationQuery.Proofs.Counter
import AnnotationQuery.Proofs.Scope

/-!
# The aliases that clauses use

Every expression of a compiled statement was made for some nodes and uses their aliases only. The
nodes of conditions are required, those of the output are bound one way or the other, and a mutation
changes the anchor or its required type node.

Results:
* `Resolved.aliases_term`, `Resolved.aliases_outputTerm`: a term uses the alias of its node.
* `Corpus.aliases_condition`: a condition uses the aliases of its nodes.
* `Output.aliases_items`, `Output.aliases_orderBy`: so do the returned items and the sort keys,
  apart from the anchor, which is always at hand.
* `Output.column_mem`: a column that rows are sorted by is a result column.
* `Corpus.ending_spec`: the last clauses use only aliases of bound nodes.
-/

namespace AnnotationQuery

/-! ## Expressions -/

/-- The expression is scoped wherever the aliases that it mentions are in scope. -/
def Expr.Closed (e : Expr) : Prop :=
  e.Scoped e.aliases

namespace Expr

theorem Closed.scoped {e : Expr} (h : e.Closed) {scope : List String}
    (hsub : ∀ a ∈ e.aliases, a ∈ scope) : e.Scoped scope :=
  scoped_mono hsub h

theorem aliases_comparison (left : Expr) (operator : Operator) (right : Expr) :
    (comparison left operator right).aliases = left.aliases ++ right.aliases := by
  cases operator <;> rfl

theorem closed_comparison {left right : Expr} (operator : Operator) (hl : left.Closed)
    (hr : right.Closed) : (comparison left operator right).Closed := by
  have h : (left.compare operator right).Closed :=
    ⟨hl.scoped fun a ha => List.mem_append_left _ ha,
      hr.scoped fun a ha => List.mem_append_right _ ha⟩
  cases operator <;> exact h

theorem closed_call {function : String} {e : Expr} (h : e.Closed) :
    (call function [e]).Closed :=
  ⟨h.scoped fun a ha => by simpa [aliases, aliasesAll] using ha, trivial⟩

theorem aliases_call (function : String) (e : Expr) :
    (call function [e]).aliases = e.aliases := by
  simp [aliases, aliasesAll]

end Expr

namespace Term

theorem aliases_collected (levels : Nat) (r : Reference) (tier : String) (leaf : CollectedLeaf) :
    (collected levels r tier leaf).expr.aliases = [r.aliasName] := by
  cases leaf with
  | duration => rfl
  | property p =>
    simp only [collected]
    split <;> rfl

/-- The values of a list comprehension use what its pattern introduces. -/
theorem closed_collected (levels : Nat) (r : Reference) (tier : String) (leaf : CollectedLeaf) :
    (collected levels r tier leaf).expr.Closed := by
  rw [Expr.Closed, aliases_collected]
  cases leaf with
  | duration =>
    simp [collected, Expr.Scoped, containedPattern, PathPattern.Scoped, PathPattern.nodes,
      PathPattern.introducedAliases, PathPattern.introduced, NodePattern.bound]
  | property p =>
    simp only [collected]
    split <;>
      simp [Expr.Scoped, containedPattern, PathPattern.Scoped, PathPattern.nodes,
        PathPattern.andThen, PathPattern.introducedAliases, PathPattern.introduced,
        NodePattern.bound]

end Term

namespace Resolved

variable {resolved : Resolved} {term : Term}

theorem aliases_term (h : resolved.term = .ok term) :
    term.expr.aliases = [term.node.aliasName] ∧ term.expr.Closed := by
  cases resolved with
  | attached r name p =>
    cases p <;> rw [← Except.ok.inj h] <;> exact ⟨rfl, List.mem_singleton_self _⟩
  | subset r | collected r _ _ => cases h
  | node r | property r p | duration r | entity _ r _ =>
    rw [← Except.ok.inj h]
    exact ⟨rfl, List.mem_singleton_self _⟩

theorem aliases_outputTerm {h : Hierarchy} (ht : resolved.outputTerm h = .ok term) :
    term.expr.aliases = [term.node.aliasName] ∧ term.expr.Closed := by
  rcases outputTerm_eq_ok ht with ht | ⟨r, tier, leaf, rfl, rfl⟩
  · exact aliases_term ht
  · rw [Term.node_collected, Term.aliases_collected]
    exact ⟨rfl, Term.closed_collected _ r tier leaf⟩

end Resolved

namespace Corpus

variable {l : Listing} {c : Corpus} {tier : String}

/-- The term of a filter uses the alias of its node. -/
theorem aliases_filterTerm {path : Path} {term : Term} (h : c.filterTerm tier path = .ok term) :
    term.expr.aliases = [term.node.aliasName] ∧ term.expr.Closed := by
  obtain ⟨resolved, -, ht⟩ := filterTerm_eq_ok.1 h
  exact Resolved.aliases_term ht

/-- The term of an output uses the alias of its node. -/
theorem aliases_outputTerm {path : Path} {term : Term} (h : c.outputTerm tier path = .ok term) :
    term.expr.aliases = [term.node.aliasName] ∧ term.expr.Closed := by
  obtain ⟨resolved, -, ht⟩ := outputTerm_eq_ok.1 h
  exact Resolved.aliases_outputTerm ht

/-! ## Conditions -/

theorem aliases_ofTerms {left right : Term} {operator : Operator}
    (hl : left.expr.aliases = [left.node.aliasName] ∧ left.expr.Closed)
    (hr : right.expr.aliases = [right.node.aliasName] ∧ right.expr.Closed) :
    (∀ a ∈ (Condition.ofTerms left operator right).expr.aliases,
      ∃ n ∈ [left.node, right.node], n.aliasName = a) ∧
      (Condition.ofTerms left operator right).expr.Closed := by
  unfold Condition.ofTerms
  split
  · simp only
    split
    · refine ⟨?_, Expr.closed_comparison _ hr.2 hl.2⟩
      rw [Expr.aliases_comparison, hl.1, hr.1]
      simp
    · refine ⟨?_, Expr.closed_comparison _ hl.2 hr.2⟩
      rw [Expr.aliases_comparison, hl.1, hr.1]
      simp
  · refine ⟨?_, Expr.closed_comparison _ hl.2 hr.2⟩
    rw [Expr.aliases_comparison, hl.1, hr.1]
    simp

theorem aliases_ofValue {term : Term} (operator : Operator) (value : Value)
    (h : term.expr.aliases = [term.node.aliasName] ∧ term.expr.Closed) :
    (Condition.ofValue term operator value).expr.aliases = [term.node.aliasName] ∧
      (Condition.ofValue term operator value).expr.Closed := by
  rcases Condition.ofValue_cases term operator value with ⟨negated, hk⟩ | hk <;> rw [hk]
  · exact h
  · rw [Expr.aliases_comparison]
    exact ⟨by rw [h.1]; rfl, Expr.closed_comparison _ h.2 trivial⟩

/-- A condition uses the aliases of its nodes. -/
theorem aliases_condition {f : Filter} {k : Condition} (h : c.condition tier f = .ok k) :
    (∀ a ∈ k.expr.aliases, ∃ n ∈ k.nodes, n.aliasName = a) ∧ k.expr.Closed := by
  cases condition_eq_ok h with
  | terms _ hl hr =>
    rw [nodes_ofTerms]
    exact aliases_ofTerms (aliases_filterTerm hl) (aliases_filterTerm hr)
  | @value value left _ hl =>
    obtain ⟨haliases, hclosed⟩ := aliases_ofValue f.operator value (aliases_filterTerm hl)
    rw [nodes_ofValue]
    exact ⟨fun a ha => ⟨left.node, List.mem_singleton_self _,
      (List.mem_singleton.1 (haliases ▸ ha)).symm⟩, hclosed⟩
  | @subset r name side e _ _ _ he =>
    have haliases : e.aliases = [(Node.ofSide r side).aliasName] := by
      rcases he with rfl | rfl <;> rfl
    refine ⟨fun a ha => ⟨_, List.mem_singleton_self _,
      (List.mem_singleton.1 (haliases ▸ ha)).symm⟩, ?_⟩
    rcases he with rfl | rfl <;> exact List.mem_singleton_self _

end Corpus

/-! ## Output -/

namespace Projection

variable {l : Listing} {c : Corpus} {tier : String} {p : Projection}

/-- A returned item uses the aliases of its nodes or that of the anchor. -/
theorem aliases_item {item : List Node × ReturnItem} (h : c.ItemOf tier item) :
    (∀ a ∈ item.2.expr.aliases,
      (∃ n ∈ item.1, n.aliasName = a) ∨ a = (c.anchor tier).aliasName) ∧ item.2.expr.Closed := by
  have hterm : ∀ (e : Expr) (term : Term), e.aliases = [term.node.aliasName] → ∀ a ∈ e.aliases,
      (∃ n ∈ [term.node], n.aliasName = a) ∨ a = (c.anchor tier).aliasName := by
    intro e term he a ha
    exact .inl ⟨term.node, List.mem_singleton_self _, (List.mem_singleton.1 (he ▸ ha)).symm⟩
  have hanchor : (Expr.node (c.anchor tier).aliasName).Closed := List.mem_singleton_self _
  cases h with
  | anchor => exact ⟨fun a ha => .inr (List.mem_singleton.1 ha), hanchor⟩
  | callAnchor => exact ⟨fun a ha => .inr (List.mem_singleton.1 ha), Expr.closed_call hanchor⟩
  | value ht =>
    obtain ⟨haliases, hclosed⟩ := Corpus.aliases_outputTerm ht
    exact ⟨hterm _ _ haliases, hclosed⟩
  | call ht =>
    obtain ⟨haliases, hclosed⟩ := Corpus.aliases_outputTerm ht
    exact ⟨hterm _ _ (by rw [Expr.aliases_call, haliases]), Expr.closed_call hclosed⟩

/-- A sort key uses the aliases of its nodes. -/
theorem aliases_orderItem {columns : List String} {key : OrderKey} {item : List Node × OrderItem}
    (h : p.orderItem c tier columns key = .ok item) :
    (∀ a ∈ item.2.expr.aliases, ∃ n ∈ item.1, n.aliasName = a) ∧ item.2.expr.Closed := by
  rcases orderItem_eq_ok h with ⟨name, -, rfl⟩ | ⟨-, term, ht, rfl⟩
  · exact ⟨fun a ha => absurd ha List.not_mem_nil, trivial⟩
  · obtain ⟨haliases, hclosed⟩ := Corpus.aliases_outputTerm ht
    exact ⟨fun a ha => ⟨term.node, List.mem_singleton_self _,
      (List.mem_singleton.1 (haliases ▸ ha)).symm⟩, hclosed⟩

/-- A sort key that refers to a result column refers to one of them. -/
theorem orderColumn?_mem {columns : List String} {key : OrderKey} {name : String}
    (hcolumns : ∀ column ∈ p.columns, column.name ∈ columns)
    (h : p.orderColumn? columns key = some name) : name ∈ columns := by
  simp only [orderColumn?, Option.or_eq_some_iff, Option.map_eq_some_iff] at h
  rcases h with h | ⟨-, column, hfind, rfl⟩
  · split at h
    · split at h
      · rename_i hmem
        rwa [← Option.some.inj h]
      · cases h
    · cases h
  · exact hcolumns column (List.mem_of_find?_eq_some hfind)

theorem column_mem_items {items : List (List Node × ReturnItem)} (h : p.items c tier = .ok items)
    {column : Column} (hc : column ∈ p.columns) :
    column.name ∈ items.map fun item => item.2.columnName := by
  obtain ⟨columns, aggregates, hcolumns, -, hitems⟩ := items_eq_ok h
  obtain ⟨item, hitem, heq⟩ := exists_mem_of_mapM hcolumns hc
  obtain ⟨term, -, rfl⟩ := Corpus.columnItem_eq_ok heq
  rcases hitems with ⟨hnil, -⟩ | rfl
  · rw [List.append_eq_nil_iff.1 hnil |>.1] at hitem
    cases hitem
  · exact List.mem_map.2 ⟨_, List.mem_append_left _ hitem, rfl⟩

end Projection

namespace Output

variable {l : Listing} {c : Corpus} {tier : String} {p : Projection} {output : Output}

theorem aliases_items (h : ofProjection c tier p = .ok output) {i : ReturnItem}
    (hi : i ∈ output.items) :
    (∀ a ∈ i.expr.aliases,
      (∃ n ∈ output.nodes, n.aliasName = a) ∨ a = (c.anchor tier).aliasName) ∧ i.expr.Closed := by
  obtain ⟨items, keys, hitems, -, hnodes, heq, -⟩ := ofProjection_eq_ok h
  rw [heq] at hi
  obtain ⟨item, hitem, rfl⟩ := List.mem_map.1 hi
  obtain ⟨haliases, hclosed⟩ := Projection.aliases_item (Projection.itemOf_items hitems hitem)
  refine ⟨fun a ha => (haliases a ha).imp_left ?_, hclosed⟩
  rintro ⟨n, hn, hname⟩
  rw [hnodes]
  exact ⟨n, List.mem_append_left _ (List.mem_flatMap.2 ⟨item, hitem, hn⟩), hname⟩

theorem aliases_orderBy (h : ofProjection c tier p = .ok output) {o : OrderItem}
    (ho : o ∈ output.orderBy) :
    (∀ a ∈ o.expr.aliases, ∃ n ∈ output.nodes, n.aliasName = a) ∧ o.expr.Closed := by
  obtain ⟨items, keys, -, hkeys, hnodes, -, heq⟩ := ofProjection_eq_ok h
  rw [heq] at ho
  obtain ⟨item, hitem, rfl⟩ := List.mem_map.1 ho
  obtain ⟨key, -, hkey⟩ := (mem_mapM hkeys).1 hitem
  obtain ⟨haliases, hclosed⟩ := Projection.aliases_orderItem hkey
  refine ⟨fun a ha => ?_, hclosed⟩
  obtain ⟨n, hn, hname⟩ := haliases a ha
  rw [hnodes]
  exact ⟨n, List.mem_append_right _ (List.mem_flatMap.2 ⟨item, hitem, hn⟩), hname⟩

/-- A column that the rows are sorted by is a result column. -/
theorem column_mem (h : ofProjection c tier p = .ok output) {o : OrderItem}
    (ho : o ∈ output.orderBy) {name : String} (hname : o.expr = .column name) :
    name ∈ output.items.map (·.columnName) := by
  obtain ⟨items, keys, hitems, hkeys, -, heq, horder⟩ := ofProjection_eq_ok h
  rw [horder] at ho
  obtain ⟨item, hitem, rfl⟩ := List.mem_map.1 ho
  obtain ⟨key, -, hkey⟩ := (mem_mapM hkeys).1 hitem
  rw [map_columnName heq]
  rcases Projection.orderItem_eq_ok hkey with ⟨name', hcolumn, rfl⟩ | ⟨-, term, ht, rfl⟩
  · obtain rfl := Expr.column.inj hname
    exact Projection.orderColumn?_mem (fun column => Projection.column_mem_items hitems) hcolumn
  · have haliases := (Corpus.aliases_outputTerm ht).1
    rw [show term.expr = .column name from hname] at haliases
    cases haliases

end Output

/-! ## The last clauses -/

/-- The clause is scoped wherever the aliases that it mentions are in scope. -/
def Clause.Closed (k : Clause) : Prop :=
  ∀ scope : List String, (∀ a ∈ k.aliases, a ∈ scope) → k.Scoped scope

namespace Clause

theorem closed_returning {distinct : Bool} {items : List ReturnItem} {orderBy : List OrderItem}
    {limit : Option Nat} (hi : ∀ i ∈ items, i.expr.Closed) (ho : ∀ o ∈ orderBy, o.expr.Closed) :
    (returning distinct items orderBy limit).Closed := by
  intro scope h
  simp only [aliases, List.mem_append, List.mem_flatMap] at h
  exact ⟨fun i hmem => (hi i hmem).scoped fun a ha => h a (.inl ⟨i, hmem, ha⟩),
    fun o hmem => (ho o hmem).scoped fun a ha => h a (.inr ⟨o, hmem, ha⟩)⟩

theorem closed_setting {items : List SetItem}
    (h : ∀ i ∈ items, ∀ a key value, i = .property a key value → value.Closed) :
    (setting items).Closed := by
  intro scope hsub i hi
  have hi' : ∀ a ∈ i.aliases, a ∈ scope := fun a ha => hsub a (List.mem_flatMap.2 ⟨i, hi, ha⟩)
  cases i with
  | property a key value =>
    exact ⟨hi' a List.mem_cons_self, (h _ hi a key value rfl).scoped fun b hb =>
      hi' b (List.mem_cons_of_mem _ hb)⟩
  | label a l => exact hi' a List.mem_cons_self

theorem closed_removing (items : List RemoveItem) : (removing items).Closed :=
  fun _ hsub i hi => hsub i.aliasName (List.mem_map_of_mem hi)

theorem closed_deleting (detach : Bool) (aliases : List String) :
    (deleting detach aliases).Closed :=
  fun _ hsub => hsub

theorem closed_carrying (aliases : List String) : (carrying aliases).Closed :=
  fun _ hsub => hsub

end Clause

namespace Plan

variable {p : Plan} {available : List String} {clauses : List Clause} {a : String}

/-- When something at hand is mentioned, exactly what is mentioned is carried. -/
theorem carried_eq_filter (ha : a ∈ available) (hm : a ∈ clauses.flatMap Clause.aliases) :
    p.carried available clauses =
      available.filter ((clauses.flatMap Clause.aliases).contains ·) := by
  have hmem : a ∈ available.filter ((clauses.flatMap Clause.aliases).contains ·) :=
    List.mem_filter.2 ⟨ha, List.contains_iff_mem.2 hm⟩
  simp only [carried, carryForward]
  split
  · rename_i hnil
    rw [hnil] at hmem
    cases hmem
  · rfl

theorem mem_carried (ha : a ∈ available) (hm : a ∈ clauses.flatMap Clause.aliases) :
    a ∈ p.carried available clauses := by
  rw [carried_eq_filter ha hm]
  exact List.mem_filter.2 ⟨ha, List.contains_iff_mem.2 hm⟩

theorem mem_of_mem_carried (h : a ∈ p.carried available clauses) :
    a ∈ available ∨ a = p.anchor.aliasName := by
  simp only [carried, carryForward] at h
  split at h
  · exact .inr (List.mem_singleton.1 h)
  · exact .inl (List.mem_filter.1 h).1

/-- Between setting and removing properties the aliases that are still needed are carried on. -/
theorem endingClauses_properties {set : List SetItem} {remove : List RemoveItem}
    (h : p.ending = .settingProperties set remove) :
    p.endingClauses = [.setting set] ∨ p.endingClauses = [.removing remove] ∨
      p.endingClauses =
        [.setting set, .carrying (p.carried p.aliases [.removing remove]), .removing remove] := by
  unfold endingClauses
  rw [h]
  cases remove with
  | nil => exact .inl rfl
  | cons item remove =>
    cases set with
    | nil => exact .inr (.inl rfl)
    | cons item' set => exact .inr (.inr rfl)

theorem endingClauses_cases (p : Plan) :
    (∃ k, p.endingClauses = [k]) ∨ ∃ set remove, p.endingClauses =
      [.setting set, .carrying (p.carried p.aliases [.removing remove]), .removing remove] := by
  cases h : p.ending with
  | settingProperties set remove =>
    rcases endingClauses_properties h with heq | heq | heq
    · exact .inl ⟨_, heq⟩
    · exact .inl ⟨_, heq⟩
    · exact .inr ⟨set, remove, heq⟩
  | returning _ _ _ _ | settingLabels _ | removingLabels _ | deleting _ | caching =>
    exact .inl ⟨_, by rw [endingClauses, h]⟩

end Plan

namespace Corpus

variable {l : Listing} {c : Corpus} {q : Query} {p : Plan}

theorem mem_aliases_of_bound {n : Node} (h : n ∈ p.required ++ p.optional) :
    n.aliasName ∈ p.aliases := by
  rcases List.mem_append.1 h with h | h
  · exact List.mem_append_left _ (Group.mem_aliases.2 ⟨n, h, rfl⟩)
  · exact List.mem_append_right _ (Group.mem_aliases.2 ⟨n, h, rfl⟩)

theorem anchor_mem_aliases (h : c.plan l q = .ok p) :
    (c.anchor q.tier).aliasName ∈ p.required.aliases :=
  Group.mem_aliases.2 ⟨_, (mem_required h).2 .anchor, rfl⟩

/-- A mutation changes the anchor, or the type node of the anchor when that is required. -/
theorem target_mem_aliases (h : c.plan l q = .ok p) {side : Side}
    (hs : side = .type → q.intent.changesType) :
    (c.anchor q.tier).sideAlias side ∈ p.aliases := by
  refine List.mem_append_left _ ?_
  cases side with
  | token => exact anchor_mem_aliases h
  | type => exact Group.mem_aliases.2 ⟨_, (mem_required h).2 (.type (hs rfl)), rfl⟩

theorem output_mem_aliases (h : c.plan l q = .ok p) {pr : Projection}
    (hi : q.intent = .project pr) {output : Output}
    (ho : Output.ofProjection c q.tier pr = .ok output)
    (hcolumns : p.ending.columns = output.items.map (·.columnName)) {n : Node}
    (hn : n ∈ output.nodes) : n.aliasName ∈ p.aliases := by
  obtain ⟨path, hpath, hrefers⟩ := (Output.mem_nodes ho).1 hn
  have hshow : c.Shows q p.ending.columns n := by
    refine .output ?_ hrefers
    rw [hcolumns, Query.outputPaths, hi]
    exact hpath
  refine mem_aliases_of_bound (List.mem_append.2 ?_)
  by_cases hreq : c.Requires q n
  · exact .inl ((mem_required h).2 hreq)
  · exact .inr ((mem_optional h).2 ⟨hshow, hreq⟩)

end Corpus

/-- The first assignment to each property goes to a side with assignments. -/
theorem PropertyUpdates.mem_effective {u : PropertyUpdates} {anchor : Reference}
    {a : String × String × Value} (h : a ∈ u.effective anchor) :
    ∃ side, a.1 = anchor.sideAlias side ∧ (side = .type → u.type ≠ []) := by
  rcases List.mem_append.1 h with h | h
  · obtain ⟨x, -, rfl⟩ := List.mem_map.1 h
    exact ⟨.token, rfl, by simp⟩
  · obtain ⟨x, hx, rfl⟩ := List.mem_map.1 h
    refine ⟨.type, rfl, fun _ hnil => ?_⟩
    rw [hnil] at hx
    cases hx

theorem PropertyUpdates.mem_setItems {u : PropertyUpdates} {anchor : Reference} {i : SetItem}
    (h : i ∈ u.setItems anchor) :
    ∃ e ∈ u.effective anchor, ∃ key value, i = .property e.1 key (.literal value) := by
  rw [setItems_eq] at h
  obtain ⟨⟨a, key, value⟩, he, hsome⟩ := List.mem_filterMap.1 h
  simp only [Option.ite_none_left_eq_some, Option.some.injEq] at hsome
  exact ⟨_, he, key, value, hsome.2.symm⟩

theorem PropertyUpdates.mem_removeItems {u : PropertyUpdates} {anchor : Reference}
    {i : RemoveItem} (h : i ∈ u.removeItems anchor) :
    ∃ e ∈ u.effective anchor, ∃ key, i = .property e.1 key := by
  obtain ⟨⟨a, key, value⟩, he, hsome⟩ := List.mem_filterMap.1 h
  simp only [Option.ite_none_right_eq_some, Option.some.injEq] at hsome
  exact ⟨_, he, key, hsome.2.symm⟩

theorem LabelUpdates.mem_items {u : LabelUpdates} {anchor : Reference} {a : String × String}
    (h : a ∈ u.items anchor) :
    ∃ side, a.1 = anchor.sideAlias side ∧ (side = .type → u.type ≠ []) := by
  rcases List.mem_append.1 (List.mem_eraseDups.1 h) with h | h
  · obtain ⟨x, -, rfl⟩ := List.mem_map.1 h
    exact ⟨.token, rfl, by simp⟩
  · obtain ⟨x, hx, rfl⟩ := List.mem_map.1 h
    refine ⟨.type, rfl, fun _ hnil => ?_⟩
    rw [hnil] at hx
    cases hx

namespace Corpus

variable {l : Listing} {c : Corpus} {q : Query} {p : Plan}

theorem carried_subset_aliases (h : c.plan l q = .ok p) {clauses : List Clause} {a : String}
    (ha : a ∈ p.carried p.aliases clauses) : a ∈ p.aliases := by
  rcases Plan.mem_of_mem_carried ha with ha | rfl
  · exact ha
  · rw [anchor_plan h]
    exact List.mem_append_left _ (anchor_mem_aliases h)

theorem ending_properties (h : c.plan l q = .ok p) {u : PropertyUpdates}
    (hi : q.intent = .setProperties u) {k : Clause} (hk : k ∈ p.endingClauses) :
    k.Closed ∧ ∀ a ∈ k.aliases, a ∈ p.aliases := by
  have htarget : ∀ e ∈ u.effective (c.anchor q.tier), e.1 ∈ p.aliases := by
    intro e he
    obtain ⟨side, hside, htype⟩ := PropertyUpdates.mem_effective he
    rw [hside]
    exact target_mem_aliases h (by rw [hi]; exact htype)
  have hset : (Clause.setting (u.setItems (c.anchor q.tier))).Closed ∧
      ∀ a ∈ (Clause.setting (u.setItems (c.anchor q.tier))).aliases, a ∈ p.aliases := by
    constructor
    · refine Clause.closed_setting fun i hi' a key value heq => ?_
      obtain ⟨e, -, key', value', rfl⟩ := PropertyUpdates.mem_setItems hi'
      cases heq
      trivial
    · intro a ha
      obtain ⟨i, hi', ha⟩ := List.mem_flatMap.1 ha
      obtain ⟨e, he, key, value, rfl⟩ := PropertyUpdates.mem_setItems hi'
      obtain rfl := List.mem_singleton.1 ha
      exact htarget e he
  have hremove : ∀ a ∈ (Clause.removing (u.removeItems (c.anchor q.tier))).aliases,
      a ∈ p.aliases := by
    intro a ha
    obtain ⟨i, hi', rfl⟩ := List.mem_map.1 ha
    obtain ⟨e, he, key, rfl⟩ := PropertyUpdates.mem_removeItems hi'
    exact htarget e he
  rcases Plan.endingClauses_properties (ending_plan h hi rfl) with heq | heq | heq
  · rw [heq] at hk
    obtain rfl := List.mem_singleton.1 hk
    exact hset
  · rw [heq] at hk
    obtain rfl := List.mem_singleton.1 hk
    exact ⟨Clause.closed_removing _, hremove⟩
  · rw [heq] at hk
    simp only [List.mem_cons, List.not_mem_nil, or_false] at hk
    rcases hk with rfl | rfl | rfl
    · exact hset
    · exact ⟨Clause.closed_carrying _, fun a ha => carried_subset_aliases h ha⟩
    · exact ⟨Clause.closed_removing _, hremove⟩

theorem ending_project (h : c.plan l q = .ok p) {pr : Projection} (hi : q.intent = .project pr)
    {k : Clause} (hk : k ∈ p.endingClauses) : k.Closed ∧ ∀ a ∈ k.aliases, a ∈ p.aliases := by
  obtain ⟨output, ho, hending⟩ := ending_plan_project h hi
  have hnodes : ∀ n ∈ output.nodes, n.aliasName ∈ p.aliases := fun n hn =>
    output_mem_aliases h hi ho (by rw [hending]; rfl) hn
  rw [Plan.endingClauses, hending] at hk
  obtain rfl := List.mem_singleton.1 hk
  constructor
  · exact Clause.closed_returning (fun i hi => (Output.aliases_items ho hi).2)
      fun o ho' => (Output.aliases_orderBy ho ho').2
  · intro a ha
    rcases List.mem_append.1 ha with ha | ha
    · obtain ⟨i, hi, ha⟩ := List.mem_flatMap.1 ha
      rcases (Output.aliases_items ho hi).1 a ha with ⟨n, hn, rfl⟩ | rfl
      · exact hnodes n hn
      · exact List.mem_append_left _ (anchor_mem_aliases h)
    · obtain ⟨o, ho', ha⟩ := List.mem_flatMap.1 ha
      obtain ⟨n, hn, rfl⟩ := (Output.aliases_orderBy ho ho').1 a ha
      exact hnodes n hn

theorem ending_labels (h : c.plan l q = .ok p) {u : LabelUpdates}
    (hi : q.intent = .setLabels u ∨ q.intent = .removeLabels u) {k : Clause}
    (hk : k ∈ p.endingClauses) : k.Closed ∧ ∀ a ∈ k.aliases, a ∈ p.aliases := by
  have htarget : ∀ e ∈ u.items (c.anchor q.tier), e.1 ∈ p.aliases := by
    intro e he
    obtain ⟨side, hside, htype⟩ := LabelUpdates.mem_items he
    rw [hside]
    exact target_mem_aliases h (by rcases hi with hi | hi <;> rw [hi] <;> exact htype)
  rcases hi with hi | hi
  · rw [Plan.endingClauses, ending_plan h hi rfl] at hk
    obtain rfl := List.mem_singleton.1 hk
    constructor
    · refine Clause.closed_setting fun i hi' a key value heq => ?_
      obtain ⟨e, -, rfl⟩ := List.mem_map.1 hi'
      cases heq
    · intro a ha
      obtain ⟨i, hi', ha⟩ := List.mem_flatMap.1 ha
      obtain ⟨e, he, rfl⟩ := List.mem_map.1 hi'
      obtain rfl := List.mem_singleton.1 ha
      exact htarget e he
  · rw [Plan.endingClauses, ending_plan h hi rfl] at hk
    obtain rfl := List.mem_singleton.1 hk
    refine ⟨Clause.closed_removing _, fun a ha => ?_⟩
    obtain ⟨i, hi', rfl⟩ := List.mem_map.1 ha
    obtain ⟨e, he, rfl⟩ := List.mem_map.1 hi'
    exact htarget e he

/-- The last clauses use only aliases of bound nodes. -/
theorem ending_spec (h : c.plan l q = .ok p) {k : Clause} (hk : k ∈ p.endingClauses) :
    k.Closed ∧ ∀ a ∈ k.aliases, a ∈ p.aliases := by
  cases hi : q.intent with
  | project pr => exact ending_project h hi hk
  | setProperties u => exact ending_properties h hi hk
  | setLabels u => exact ending_labels h (.inl hi) hk
  | removeLabels u => exact ending_labels h (.inr hi) hk
  | delete =>
    rw [Plan.endingClauses, ending_plan h hi rfl] at hk
    obtain rfl := List.mem_singleton.1 hk
    refine ⟨Clause.closed_deleting _ _, fun a ha => ?_⟩
    obtain rfl := List.mem_singleton.1 ha
    exact List.mem_append_left _ (anchor_mem_aliases h)
  | cache =>
    rw [Plan.endingClauses, ending_plan h hi rfl] at hk
    obtain rfl := List.mem_singleton.1 hk
    exact ⟨Clause.closed_carrying _, fun a ha => ha⟩

end Corpus

end AnnotationQuery
