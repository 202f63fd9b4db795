import AnnotationQuery.Proofs.Compilation

/-!
# Sets listed in another order

Sets of nodes list their nodes in no order of their own, and sorting leaves nodes with the same
alias as they are listed. What does not depend on it is everything but an order: of the patterns of
a `MATCH`, of the `OPTIONAL MATCH` clauses, and of the aliases that a `WITH` carries on. When
different nodes have different aliases there is nothing left that depends on it.

Results:
* `Group.patterns_perm`, `Group.aliases_perm`: the patterns and aliases of a group in another order.
* `Corpus.endingClauses_eq`: what is done with rows that are not cached.
* `Corpus.compile_reorders`: the statement of a query, up to orders.
-/

namespace AnnotationQuery

/-! ## Groups -/

namespace Group

variable {h : Hierarchy} {available available' : List Node} {group group' : Group}

theorem leads_congr (htokens : ∀ r, Node.token r ∈ group ↔ Node.token r ∈ group') :
    group.leads = group'.leads := by
  funext n
  cases n with
  | type r => simp only [leads, Node.tokenOfType?, List.contains_eq_mem, htokens]
  | token r | entity kind r | attached r name => rfl

theorem companion?_congr (htypes : ∀ r, Node.type r ∈ group ↔ Node.type r ∈ group') :
    group.companion? = group'.companion? := by
  funext n
  refine Option.ext fun m => ?_
  rw [companion?_eq_some, companion?_eq_some]
  simp only [htypes]

theorem boundBy_congr (htypes : ∀ r, Node.type r ∈ group ↔ Node.type r ∈ group') :
    group.boundBy = group'.boundBy := by
  funext n
  rw [boundBy, boundBy, companion?_congr htypes]

end Group

/-- A pattern depends on the annotations at hand only. -/
theorem Node.pattern_congr {h : Hierarchy} {available available' : List Node}
    (htokens : ∀ r, Node.token r ∈ available ↔ Node.token r ∈ available') (n : Node) :
    n.pattern h available = n.pattern h available' := by
  cases n with
  | token r => simp only [pattern, patternOver, Reference.approach?, Reference.nearest, htokens]
  | type r | entity kind r | attached r name => rfl

namespace Group

variable {h : Hierarchy} {available available' : List Node} {group group' : Group}

theorem pattern_congr (htokens : ∀ r, Node.token r ∈ available ↔ Node.token r ∈ available')
    (htypes : ∀ r, Node.type r ∈ group ↔ Node.type r ∈ group') :
    group.pattern h available = group'.pattern h available' := by
  funext n
  rw [pattern, pattern, companion?_congr htypes, Node.pattern_congr htokens]

/-- A group in another order has the same patterns in another order. -/
theorem patterns_perm (hperm : group.Perm group')
    (htokens : ∀ r, Node.token r ∈ available ↔ Node.token r ∈ available') :
    (group.patterns h available).Perm (group'.patterns h available') := by
  rw [patterns, patterns, leads_congr fun _ => hperm.mem_iff,
    pattern_congr htokens fun _ => hperm.mem_iff]
  exact (hperm.filter _).map _

theorem aliases_perm (hperm : group.Perm group') : group.aliases.Perm group'.aliases := by
  rw [aliases, aliases, bindingSequence, bindingSequence, leads_congr fun _ => hperm.mem_iff,
    boundBy_congr fun _ => hperm.mem_iff]
  exact ((hperm.filter _).flatMap_right _).map _

/-- Of what a group binds, an annotation and its type node stand together. -/
theorem filter_bindingSequence (hn : group.Nodup) {r : Reference} (hr : Node.token r ∈ group)
    {p : Node → Bool} (hp : ∀ n ∈ group, p n = true → n = .token r ∨ n = .type r) :
    group.bindingSequence.filter p = (group.boundBy (.token r)).filter p := by
  have hleading : Node.token r ∈ group.filter group.leads :=
    List.mem_filter.2 ⟨hr, leads_token r⟩
  rw [bindingSequence, List.filter_flatMap]
  refine flatMap_eq_of_nodup (hn.filter _) hleading fun n hn hne => ?_
  obtain ⟨hn, hleads⟩ := List.mem_filter.1 hn
  refine List.filter_eq_nil_iff.2 fun m hm hpm => ?_
  have hmem : m ∈ group := mem_bindingSequence.1
    (List.mem_flatMap.2 ⟨n, List.mem_filter.2 ⟨hn, hleads⟩, hm⟩)
  rcases mem_boundBy.1 hm with rfl | ⟨q, rfl, rfl, -⟩
  · rcases hp m hmem hpm with rfl | rfl
    · exact hne rfl
    · exact not_mem_of_leads_type hleads hr
  · rcases hp _ hmem hpm with heq | heq
    · cases heq
    · exact hne (congrArg Node.token (Node.type.inj heq))

end Group

/-! ## Aliases of the anchor -/

namespace Reference

variable {h : Hierarchy} {tier : String} {r : Reference}

/-- Every alias of an annotation starts with the same letter. -/
theorem head_aliasName (r : Reference) : r.aliasName.toList.head? = some 'n' := by
  induction r with
  | root corpus tier offset => simp [aliasName, String.toList_append]
  | within inner tier offset ih =>
    rw [aliasName, String.append_assoc, String.toList_append, List.head?_append, ih, Option.some_or]

theorem length_segment (tier : String) (offset : Offset) :
    tier.length ≤ (segment tier offset).length ∧
      ((segment tier offset).length = tier.length → offset.position = 0) := by
  have hblank : "_".length = 1 := rfl
  unfold segment
  split_ifs <;> simp only [String.length_append, hblank] <;> omega

/-- Other references have longer aliases than the anchor. -/
theorem Climbs.length_aliasName (hr : r.Climbs h tier) :
    (anchor tier h.corpus).aliasName.length ≤ r.aliasName.length ∧
      (r.aliasName.length = (anchor tier h.corpus).aliasName.length →
        r = anchor tier h.corpus) := by
  have hanchor : (anchor tier h.corpus).aliasName.length = "node_".length + tier.length :=
    String.length_append _ _
  have hblank : "_".length = 1 := rfl
  rw [hanchor]
  induction hr with
  | root offset =>
    obtain ⟨hle, heq⟩ := length_segment tier offset
    rw [aliasName, String.length_append]
    refine ⟨Nat.add_le_add_left hle _, fun h => ?_⟩
    rw [Offset.eq_zero (heq (Nat.add_left_cancel h))]
    rfl
  | within offset _ _ ih =>
    rw [aliasName, String.length_append, String.length_append]
    obtain ⟨hle, -⟩ := ih
    exact ⟨by omega, fun h => by omega⟩

end Reference

namespace Node

/-- Only the aliases of type nodes start with a `t`. -/
theorem head_aliasName (n : Node) : n.aliasName.toList.head? =
    some (match n with
      | type _ => 't'
      | _ => 'n') := by
  cases n with
  | token r => exact r.head_aliasName
  | type r => simp [aliasName, Reference.typeAlias, String.toList_append]
  | entity kind r | attached r name =>
    rw [aliasName, String.append_assoc, String.toList_append, List.head?_append, r.head_aliasName,
      Option.some_or]

end Node

namespace Corpus

variable {l l' : Listing} {c : Corpus} {q q' : Query} {p p' : Plan}

/-- No other node has the alias of the anchor or of its type node. -/
theorem eq_ofSide {tier : String} {n : Node} (hn : n.reference.Climbs c.hierarchy tier)
    {side : Side} (h : n.aliasName = (c.anchor tier).sideAlias side) :
    n = .ofSide (c.anchor tier) side := by
  have hheads : n.aliasName.toList.head? =
      (Node.ofSide (c.anchor tier) side).aliasName.toList.head? := h ▸ by cases side <;> rfl
  rw [n.head_aliasName, Node.head_aliasName] at hheads
  obtain ⟨hle, heq⟩ := hn.length_aliasName
  have hlonger : ∀ name, n.reference.aliasName ++ "_" ++ name ≠ (c.anchor tier).aliasName := by
    intro name hname
    have hlength := congrArg String.length hname
    have hblank : "_".length = 1 := rfl
    rw [String.length_append, String.length_append] at hlength
    exact absurd hle (by rw [anchor] at hlength; omega)
  cases side with
  | token =>
    cases n with
    | token r => exact congrArg Node.token (heq (congrArg String.length h))
    | type r => cases hheads
    | entity kind r | attached r name => exact absurd h (hlonger _)
  | type =>
    cases n with
    | type r =>
      exact congrArg Node.type (heq (congrArg String.length ((String.append_right_inj _).1 h)))
    | token r | entity kind r | attached r name => cases hheads

/-- What a plan carries on when clauses mention the anchor and its type node only. -/
theorem filter_aliases_sides (hp : c.plan l q = .ok p) {mentioned : List String}
    (hm : ∀ a ∈ mentioned, ∃ side, a = (c.anchor q.tier).sideAlias side) :
    p.required.aliases.filter (mentioned.contains ·) =
      ((p.required.boundBy (.token (c.anchor q.tier))).map Node.aliasName).filter
        (mentioned.contains ·) := by
  have hn := (List.nodup_append'.1 (nodup_bound hp)).1
  have hanchor : Node.token (c.anchor q.tier) ∈ p.required := (mem_required hp).2 .anchor
  rw [Group.aliases, List.filter_map, List.filter_map,
    Group.filter_bindingSequence hn hanchor fun n hmem hn => ?_]
  obtain ⟨side, hside⟩ := hm _ (List.contains_iff_mem.1 hn)
  rw [eq_ofSide ((mem_required hp).1 hmem).climbs hside]
  cases side with
  | token => exact .inl rfl
  | type => exact .inr rfl

/-- A mutation matches no node optionally. -/
theorem optional_of_isMutation (hp : c.plan l q = .ok p) (hi : q.intent.isMutation = true) :
    p.optional = [] := by
  refine List.eq_nil_iff_forall_not_mem.2 fun n hn => ?_
  obtain ⟨-, -, path, hpath, -⟩ := shows_iff.1 ((mem_optional hp).1 hn).1
  have hnone : q.outputPaths p.ending.columns = [] := by
    unfold Query.outputPaths
    cases hq : q.intent with
    | project pr =>
      rw [hq] at hi
      cases hi
    | setProperties _ | setLabels _ | removeLabels _ | delete | cache => rfl
  rw [hnone] at hpath
  cases hpath

theorem boundBy_anchor_eq
    (htype : Node.type (c.anchor q.tier) ∈ p'.required ↔ Node.type (c.anchor q.tier) ∈ p.required) :
    p'.required.boundBy (.token (c.anchor q.tier)) =
      p.required.boundBy (.token (c.anchor q.tier)) := by
  have hcompanion : p'.required.companion? (.token (c.anchor q.tier)) =
      p.required.companion? (.token (c.anchor q.tier)) := by
    simp only [Group.companion?, Node.typeNode?, Option.filter, List.contains_eq_mem, htype]
  rw [Group.boundBy, Group.boundBy, hcompanion]

/-- What is done with the rows depends on the nodes of a plan only through its anchor and the type
node of that, unless the rows are cached. -/
theorem endingClauses_eq (hp : c.plan l q = .ok p) (hp' : c.plan l' q' = .ok p')
    (htier : q'.tier = q.tier) (hintent : q'.intent = q.intent) (hending : p'.ending = p.ending)
    (htype : Node.type (c.anchor q.tier) ∈ p'.required ↔ Node.type (c.anchor q.tier) ∈ p.required)
    (hi : q.intent ≠ .cache) : p'.endingClauses = p.endingClauses := by
  unfold Plan.endingClauses
  rw [hending]
  cases hq : q.intent with
  | project pr =>
    obtain ⟨output, -, hproject⟩ := ending_plan_project hp hq
    rw [hproject]
  | setProperties u =>
    have hmutation : q.intent.isMutation = true := by rw [hq]; rfl
    have hsides : ∀ a ∈ [Clause.removing (u.removeItems (c.anchor q.tier))].flatMap Clause.aliases,
        ∃ side, a = (c.anchor q.tier).sideAlias side := by
      intro a ha
      rw [List.flatMap_singleton] at ha
      obtain ⟨i, hmem, rfl⟩ := List.mem_map.1 ha
      obtain ⟨e, he, key, rfl⟩ := PropertyUpdates.mem_removeItems hmem
      obtain ⟨side, hside, -⟩ := PropertyUpdates.mem_effective he
      exact ⟨side, hside⟩
    have haliases : ∀ {l : Listing} {q : Query} {p : Plan}, c.plan l q = .ok p →
        q.intent.isMutation = true → p.aliases = p.required.aliases := by
      intro l q p hp hi
      rw [Plan.aliases, optional_of_isMutation hp hi]
      exact List.append_nil _
    have hcarried : p'.carried p'.aliases [.removing (u.removeItems (c.anchor q.tier))] =
        p.carried p.aliases [.removing (u.removeItems (c.anchor q.tier))] := by
      rw [Plan.carried, Plan.carried, carryForward, carryForward, haliases hp hmutation,
        haliases hp' (hintent ▸ hmutation), filter_aliases_sides hp hsides,
        filter_aliases_sides hp' (htier ▸ hsides), htier, boundBy_anchor_eq htype, anchor_plan hp,
        anchor_plan hp', htier]
    rw [ending_plan hp hq rfl]
    generalize u.setItems (c.anchor q.tier) = set
    generalize u.removeItems (c.anchor q.tier) = remove at hcarried
    cases set <;> cases remove <;> simp only [hcarried]
  | cache => exact absurd hq hi
  | setLabels _ | removeLabels _ | delete => rw [ending_plan hp hq rfl]

end Corpus

/-! ## Statements -/

/-- The clause is the same, or it carries on the same aliases in another order. -/
inductive Clause.Reorders : Clause → Clause → Prop
  | refl (k : Clause) : Reorders k k
  | carrying {aliases aliases' : List String} : aliases.Perm aliases' →
    Reorders (.carrying aliases) (.carrying aliases')

/-- The statements differ in the order of the patterns of the `MATCH`, of the `OPTIONAL MATCH`
clauses and of carried aliases only. -/
def Statement.Reorders (s s' : Statement) : Prop :=
  ∃ required required' filters carried carried' optional optional' ending ending',
    s.Stages required filters carried optional ending ∧
    s'.Stages required' filters carried' optional' ending' ∧
    required.Perm required' ∧ List.Forall₂ Clause.Reorders carried carried' ∧
    optional.Perm optional' ∧ List.Forall₂ Clause.Reorders ending ending'

theorem Clause.Reorders.mem_aliases {ks ks' : List Clause} (h : List.Forall₂ Reorders ks ks')
    (a : String) : a ∈ ks.flatMap Clause.aliases ↔ a ∈ ks'.flatMap Clause.aliases := by
  induction h with
  | nil => exact Iff.rfl
  | cons hk _ ih =>
    rw [List.flatMap_cons, List.flatMap_cons, List.mem_append, List.mem_append, ih]
    cases hk with
    | refl k => exact Iff.rfl
    | carrying hperm => exact or_congr_left hperm.mem_iff

/-- Which aliases are carried on depends on which are at hand and which are mentioned. -/
theorem carryForward_perm {anchor : Reference} {available available' : List String}
    {clauses clauses' : List Clause} (havailable : available.Perm available')
    (hmentioned : ∀ a, a ∈ clauses.flatMap Clause.aliases ↔ a ∈ clauses'.flatMap Clause.aliases) :
    (carryForward anchor available clauses).Perm (carryForward anchor available' clauses') := by
  have hfilter : (available.filter ((clauses.flatMap Clause.aliases).contains ·)).Perm
      (available'.filter ((clauses'.flatMap Clause.aliases).contains ·)) := by
    have hsame : (clauses.flatMap Clause.aliases).contains =
        (clauses'.flatMap Clause.aliases).contains := by
      funext a
      simp only [List.contains_eq_mem, hmentioned]
    rw [hsame]
    exact havailable.filter _
  unfold carryForward
  simp only
  split
  · rename_i hnil
    rw [hnil, List.nil_perm] at hfilter
    rw [hfilter]
  · rename_i hne
    split
    · rename_i hnil
      rw [hnil, List.perm_nil] at hfilter
      exact absurd hfilter hne
    · exact hfilter

namespace Corpus

variable {l l' : Listing} {c : Corpus} {q : Query} {p p' : Plan}

theorem carryingClauses_reorders (hreorders : p.Reorders p')
    (hoptional : p.optionalClauses.Perm p'.optionalClauses)
    (hending : List.Forall₂ Clause.Reorders p.endingClauses p'.endingClauses) :
    List.Forall₂ Clause.Reorders p.carryingClauses p'.carryingClauses := by
  have hempty : p'.optionalClauses.isEmpty = p.optionalClauses.isEmpty := by
    rw [Bool.eq_iff_iff, List.isEmpty_iff, List.isEmpty_iff]
    exact ⟨fun h => List.perm_nil.1 (h ▸ hoptional), fun h => List.perm_nil.1 (h ▸ hoptional.symm)⟩
  unfold Plan.carryingClauses
  rw [hempty]
  split
  · exact .nil
  · refine .cons (.carrying ?_) .nil
    rw [Plan.carried, Plan.carried, hreorders.anchor_eq]
    refine carryForward_perm (Group.aliases_perm hreorders.required) fun a => ?_
    rw [List.flatMap_append, List.flatMap_append, List.mem_append, List.mem_append,
      (hoptional.flatMap_right _).mem_iff, Clause.Reorders.mem_aliases hending]

/-- Lifting changes nothing about orders, and orders nothing about the lifted values. -/
theorem lifted_reorders {ks ks' : List Clause} (h : List.Forall₂ Clause.Reorders ks ks') (n : Nat) :
    List.Forall₂ Clause.Reorders (c.lifted n ks).1 (c.lifted n ks').1 ∧
      (c.lifted n ks').2 = (c.lifted n ks).2 := by
  unfold lifted
  split
  · induction h generalizing n with
    | nil => exact ⟨.nil, rfl⟩
    | @cons k k' ks ks' hk _ ih =>
      cases hk with
      | refl =>
        obtain ⟨hrest, hvalues⟩ := ih (n + (k.lift n).2.length)
        exact ⟨.cons (.refl _) hrest, congrArg ((k.lift n).2 ++ ·) hvalues⟩
      | carrying hperm => exact ⟨.cons (.carrying hperm) (ih n).1, (ih n).2⟩
  · exact ⟨h, rfl⟩

theorem endingClauses_reorders (hp : c.plan l q = .ok p) (hp' : c.plan l' q = .ok p')
    (hreorders : p.Reorders p') :
    List.Forall₂ Clause.Reorders p.endingClauses p'.endingClauses := by
  by_cases hi : q.intent = .cache
  · have hlast : ∀ {l : Listing} {p : Plan}, c.plan l q = .ok p →
        p.endingClauses = [.carrying p.aliases] := fun hp => by
      rw [Plan.endingClauses, ending_plan hp hi rfl]
    rw [hlast hp, hlast hp']
    have haliases := (Group.aliases_perm hreorders.required).append
      (Group.aliases_perm hreorders.optional)
    exact .cons (.carrying haliases) .nil
  · rw [endingClauses_eq hp hp' rfl rfl hreorders.ending_eq hreorders.required.symm.mem_iff hi]
    exact List.forall₂_same.2 fun k _ => .refl k

/-- However sets of nodes are listed, a query compiles to the same statement up to orders. -/
theorem compile_reorders {s : CompiledStatement} (h : c.compileIn l q = .ok s) (l' : Listing) :
    ∃ s', c.compileIn l' q = .ok s' ∧ s'.columns = s.columns ∧ s'.mode = s.mode ∧
      s'.parameters = s.parameters ∧ s.statement.Reorders s'.statement := by
  rw [compileIn_eq] at h
  obtain ⟨p, hp, rfl⟩ := map_eq_ok h
  obtain ⟨p', hp', hreorders⟩ := plan_reorders hp l'
  have hfilters : p'.filterClauses = p.filterClauses := by
    rw [Plan.filterClauses, Plan.filterClauses, hreorders.conditions_eq]
  have hrequired : (p.required.patterns c.hierarchy p.required).Perm
      (p'.required.patterns c.hierarchy p'.required) :=
    Group.patterns_perm hreorders.required fun _ => hreorders.required.mem_iff
  have hoptional : (p.optional.patterns c.hierarchy (p.required ++ p.optional)).Perm
      (p'.optional.patterns c.hierarchy (p'.required ++ p'.optional)) :=
    Group.patterns_perm hreorders.optional fun _ =>
      (hreorders.required.append hreorders.optional).mem_iff
  have hoptionals : p.optionalClauses.Perm p'.optionalClauses := by
    rw [Plan.optionalClauses, Plan.optionalClauses, hierarchy_plan hp, hierarchy_plan hp']
    exact hoptional.map _
  have hending := endingClauses_reorders hp hp' hreorders
  obtain ⟨hlifted, hvalues⟩ := lifted_reorders hending (c.lifted 0 p.filterClauses).2.length
  have hstages' := stages_lifted hp'
  rw [hfilters] at hstages'
  have hcompiled : c.compileIn l' q = .ok ⟨⟨(c.lifted 0 p'.clauses).1⟩,
      .ofValues (c.lifted 0 p'.clauses).2, p'.ending.columns, p'.ending.mode⟩ := by
    rw [compileIn_eq, hp']
    rfl
  refine ⟨_, hcompiled, congrArg Ending.columns hreorders.ending_eq,
    congrArg Ending.mode hreorders.ending_eq, ?_, _, _, _, _, _, _, _, _, _, stages_lifted hp,
    hstages', hrequired, carryingClauses_reorders hreorders hoptionals hending, hoptional, hlifted⟩
  simp only [lifted_clauses, hfilters, hvalues]

end Corpus

/-- A tier `word_x` with a sub-annotation `y`, and a tier `word` with a sub-annotation `x_y`. -/
def Corpus.clashing : Corpus :=
  ⟨⟨"small", [{ Tier.bare "word_x" with subannotations := [⟨"y", []⟩] },
    { Tier.bare "word" with subannotations := [⟨"x_y", []⟩] }, .bare "phone"], [], []⟩, .default⟩

/-- A query that deletes the phones with both sub-annotations above them. Both of these have the
alias `node_phone_word_x_y`. -/
def Query.clashing : Query :=
  ⟨"phone", none, [⟨⟨["phone", "word", "x_y"]⟩, .notEqual, .literal .null⟩,
    ⟨⟨["phone", "word_x", "y"]⟩, .notEqual, .literal .null⟩], .delete⟩

-- The two patterns come in the order of the listing, so the statement is not the same one.
example : (Corpus.clashing.compileIn .arrival .clashing).toOption.map CompiledStatement.text ≠
    (Corpus.clashing.compileIn .reversed .clashing).toOption.map CompiledStatement.text := by
  decide +kernel

end AnnotationQuery
