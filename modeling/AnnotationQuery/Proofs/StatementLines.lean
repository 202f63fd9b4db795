import AnnotationQuery.Proofs.DeclaredNames
import AnnotationQuery.Proofs.SingleLine

/-!
# The lines of a statement

Where no declared name and no name of the intent has a line feed, nothing in a statement has one:
every name that a clause writes is known to the hierarchy or comes from the intent. So the lines
that its text is put together from are the lines of its text.

Results:
* `Corpus.singleLine_filterTerm`, `Corpus.singleLine_outputTerm`: terms have no line feed.
* `Corpus.singleLine_condition`: conditions have none.
* `Output.singleLine_items`, `Output.singleLine_orderBy`: the returned items and the sort keys.
* `Corpus.singleLine_ending`: the last clauses, by intent.
* `Corpus.singleLine_compile`: the lines of a compiled statement have none.
-/

namespace AnnotationQuery

open Text (SingleLine)

/-! ## Terms -/

namespace Term

variable {r : Reference} {tier : String}

theorem singleLine_containedPattern (levels : Nat) (hr : SingleLine r.aliasName)
    (hcorpus : SingleLine r.corpus) (htier : SingleLine tier)
    (halias : SingleLine (r.aliasName ++ "_" ++ tier)) :
    Piece.SingleLine (containedPattern levels r tier).pieces := by
  refine PathPattern.singleLine (NodePattern.singleLine_bound hr) fun s hs => ?_
  rw [List.mem_singleton.1 hs]
  refine PathStep.singleLine Via.containing.singleLine_relation (NodePattern.singleLine halias ?_)
  exact List.forall_mem_cons.2 ⟨htier, List.forall_mem_singleton.2 hcorpus⟩

/-- A list of values is written with the names of the tier and of the leaf. -/
theorem singleLine_collected (levels : Nat) (hr : ∀ name ∈ r.tiers, SingleLine name)
    (hcorpus : SingleLine r.corpus) {leaf : CollectedLeaf}
    (hnames : ∀ name ∈ (Resolved.collected r tier leaf).names, SingleLine name) :
    Piece.SingleLine (collected levels r tier leaf).expr.pieces := by
  have htier : SingleLine tier := hnames tier (by cases leaf <;> exact List.mem_cons_self)
  have hstart : SingleLine r.aliasName := Node.singleLine_aliasName (n := .token r) hr
  have halias : SingleLine (r.aliasName ++ "_" ++ tier) := by
    simp only [Text.singleLine_append_iff]
    exact ⟨⟨hstart, by decide⟩, htier⟩
  have hpattern := singleLine_containedPattern levels hstart hcorpus htier halias
  cases leaf with
  | duration => exact Expr.singleLine_collect hpattern (Expr.singleLine_duration halias)
  | property p =>
    have hname : SingleLine p.name := hnames p.name (by simp [Resolved.names])
    simp only [collected]
    split
    · exact Expr.singleLine_collect hpattern (Expr.singleLine_property halias hname)
    · have htypeAlias : SingleLine ("type_" ++ (r.aliasName ++ "_" ++ tier)) :=
        (Text.singleLine_append_iff _ _).2 ⟨by decide, halias⟩
      have hlabel : SingleLine (tier ++ "_type") :=
        (Text.singleLine_append_iff _ _).2 ⟨htier, by decide⟩
      have hkey := Expr.singleLine_property htypeAlias hname
      refine Expr.singleLine_collect (hpattern.andThen ?_) hkey
      refine PathStep.singleLine Via.type.singleLine_relation (NodePattern.singleLine htypeAlias ?_)
      exact List.forall_mem_cons.2 ⟨hlabel, List.forall_mem_singleton.2 hcorpus⟩

end Term

theorem Resolved.singleLine_term {resolved : Resolved} {term : Term}
    (ht : resolved.term = .ok term) (hnode : ∀ name ∈ term.node.names, SingleLine name)
    (hnames : ∀ name ∈ resolved.names, SingleLine name) : Piece.SingleLine term.expr.pieces := by
  have halias := Node.singleLine_aliasName hnode
  cases resolved with
  | node r =>
    obtain rfl := Except.ok.inj ht
    exact Expr.singleLine_node halias
  | duration r =>
    obtain rfl := Except.ok.inj ht
    exact Expr.singleLine_duration halias
  | property r p | entity kind r p =>
    obtain rfl := Except.ok.inj ht
    exact Expr.singleLine_property halias (hnames _ List.mem_cons_self)
  | attached r name p =>
    cases p with
    | none =>
      obtain rfl := Except.ok.inj ht
      exact Expr.singleLine_node halias
    | some p =>
      obtain rfl := Except.ok.inj ht
      exact Expr.singleLine_property halias (hnames p.name (by simp [names]))
  | subset r | collected r _ _ => cases ht

namespace Corpus

variable {l : Listing} {c : Corpus} {q : Query} {p : Plan} {tier : String}

section Known

variable (hc : ∀ name ∈ c.hierarchy.knownNames, SingleLine name)

include hc

theorem singleLine_corpus : SingleLine c.hierarchy.corpus :=
  hc _ (List.mem_append_right _ List.mem_cons_self)

theorem singleLine_filterTerm (ht : c.hierarchy.hasTier tier = true) {path : Path} {term : Term}
    (h : c.filterTerm tier path = .ok term) : Piece.SingleLine term.expr.pieces := by
  obtain ⟨resolved, hr, hterm⟩ := filterTerm_eq_ok.1 h
  have hnode := names_resolved ht hr (Resolved.node?_of_term hterm)
  exact Resolved.singleLine_term hterm (fun name hname => hc name (hnode hname))
    fun name hname => hc name (Path.names_resolve hr hname)

theorem singleLine_outputTerm (ht : c.hierarchy.hasTier tier = true) {path : Path} {term : Term}
    (h : c.outputTerm tier path = .ok term) : Piece.SingleLine term.expr.pieces := by
  obtain ⟨resolved, hr, hterm⟩ := outputTerm_eq_ok.1 h
  have hnames : ∀ name ∈ resolved.names, SingleLine name := fun name hname =>
    hc name (Path.names_resolve hr hname)
  have hnode := names_resolved ht hr (Resolved.node?_of_outputTerm hterm)
  rcases Resolved.outputTerm_eq_ok hterm with hterm' | ⟨r, lower, leaf, rfl, rfl⟩
  · exact Resolved.singleLine_term hterm' (fun name hname => hc name (hnode hname)) hnames
  · rw [Term.node_collected] at hnode
    have hcorpus : r.corpus = c.hierarchy.corpus := (Path.climbs_resolve hr).corpus
    exact Term.singleLine_collected _ (fun name hname => hc name (hnode hname))
      (hcorpus ▸ singleLine_corpus hc) hnames

theorem singleLine_condition (ht : c.hierarchy.hasTier tier = true) {f : Filter} {k : Condition}
    (h : c.condition tier f = .ok k) : Piece.SingleLine k.expr.pieces := by
  have hnames : ∀ n ∈ k.nodes, ∀ name ∈ n.names, SingleLine name := fun n hn name hname =>
    hc name (((mem_condition_nodes h).1 hn).names ht hname)
  cases condition_eq_ok h with
  | @terms other left right _ hl hr =>
    have hleft := singleLine_filterTerm hc ht hl
    have hright := singleLine_filterTerm hc ht hr
    unfold Condition.ofTerms
    split
    · simp only
      split
      · exact Expr.singleLine_comparison hright _ hleft
      · exact Expr.singleLine_comparison hleft _ hright
    · exact Expr.singleLine_comparison hleft _ hright
  | @value value left _ hl =>
    have hleft := singleLine_filterTerm hc ht hl
    rcases Condition.ofValue_cases left f.operator value with ⟨negated, heq⟩ | heq
    · rw [heq]
      exact Expr.singleLine_isNull hleft negated
    · rw [heq]
      exact Expr.singleLine_comparison hleft _ (Expr.singleLine_literal _)
  | @subset r name side e _ _ hside he =>
    have halias := Node.singleLine_aliasName (hnames _ (List.mem_singleton_self _))
    have hlabel := Expr.singleLine_hasLabel halias
      (hc name (Hierarchy.mem_knownNames_of_subsetSide? hside))
    rcases he with rfl | rfl
    · exact hlabel
    · exact Expr.singleLine_negation hlabel

theorem singleLine_bound (h : c.plan l q = .ok p) {n : Node} (hn : n ∈ p.required ++ p.optional) :
    ∀ name ∈ n.names, SingleLine name := by
  have ht := hasTier_plan h
  intro name hname
  rcases (mem_bound h).1 hn with hn | hn
  · exact hc name (hn.names ht hname)
  · exact hc name (hn.names ht hname)

theorem singleLine_aliases (h : c.plan l q = .ok p) : ∀ a ∈ p.aliases, SingleLine a := by
  intro a ha
  rw [Plan.aliases, List.mem_append, Group.mem_aliases, Group.mem_aliases] at ha
  rcases ha with ⟨n, hn, rfl⟩ | ⟨n, hn, rfl⟩
  · exact Node.singleLine_aliasName (singleLine_bound hc h (List.mem_append_left _ hn))
  · exact Node.singleLine_aliasName (singleLine_bound hc h (List.mem_append_right _ hn))

/-- The patterns that bind nodes of a plan. -/
theorem singleLine_patterns (h : c.plan l q = .ok p) {available group : List Node}
    (hclosed : Node.Closed available) (havailable : available ⊆ p.required ++ p.optional)
    (hgroup : group ⊆ available) {pattern : PathPattern}
    (hp : pattern ∈ Group.patterns c.hierarchy available group) :
    Piece.SingleLine pattern.pieces := by
  obtain ⟨n, hn, rfl⟩ := List.mem_map.1 hp
  have hn := hgroup (List.mem_of_mem_filter hn)
  have hbound := havailable hn
  have hclimbs : n.reference.Climbs c.hierarchy q.tier :=
    ((mem_bound h).1 hbound).elim Requires.climbs Shows.climbs
  refine Group.singleLine_pattern (singleLine_bound hc h hbound) ?_ fun start hs => ?_
  · rw [hclimbs.corpus]
    exact singleLine_corpus hc
  · have hstart := singleLine_bound hc h (havailable (Node.start_mem hclosed hn hs))
    exact Node.singleLine_aliasName hstart

end Known

/-! ## Output -/

/-- No name that the hierarchy or the intent brings has a line feed. -/
def SingleLineNames (c : Corpus) (q : Query) : Prop :=
  ∀ name ∈ c.hierarchy.names ++ q.intent.names, SingleLine name

theorem SingleLineNames.known (h : c.SingleLineNames q) :
    ∀ name ∈ c.hierarchy.knownNames, SingleLine name := by
  have himplicit : ∀ name ∈ Implicit.names, SingleLine name := by decide
  intro name hname
  rcases List.mem_append.1 hname with hname | hname
  · exact himplicit name hname
  · exact h name (List.mem_append_left _ hname)

end Corpus

/-- The text and the name of a returned item have no line feed. -/
def ReturnItem.SingleLine (i : ReturnItem) : Prop :=
  Piece.SingleLine i.expr.pieces ∧ ∀ name ∈ i.name, Text.SingleLine name

namespace ReturnItem.SingleLine

variable {i : ReturnItem}

theorem pieces (h : i.SingleLine) : Piece.SingleLine i.pieces := by
  obtain ⟨e, name⟩ := i
  cases name with
  | none => exact h.1
  | some name =>
    have hname : Text.SingleLine name := h.2 name rfl
    have has : Text.SingleLine " AS " := by decide
    have hexpr : Piece.SingleLine e.pieces := h.1
    simpa [ReturnItem.pieces, Piece.text, hexpr, has] using Text.singleLine_quoted hname

theorem columnName (h : i.SingleLine) : Text.SingleLine i.columnName := by
  obtain ⟨e, name⟩ := i
  cases name with
  | none =>
    show Text.SingleLine e.text
    rw [e.text_eq]
    exact Piece.SingleLine.written h.1
  | some name => exact h.2 name rfl

end ReturnItem.SingleLine

namespace Output

variable {l : Listing} {c : Corpus} {tier : String} {p : Projection} {output : Output}

section Known

variable (hc : ∀ name ∈ c.hierarchy.knownNames, SingleLine name)
  (ht : c.hierarchy.hasTier tier = true)

include hc ht

theorem singleLine_items (hp : ∀ name ∈ (Intent.project p).names, SingleLine name)
    (h : ofProjection c tier p = .ok output) : ∀ i ∈ output.items, i.SingleLine := by
  have hanchor : SingleLine (c.anchor tier).aliasName := by
    refine Node.singleLine_aliasName (n := .token (c.anchor tier)) fun name hname => ?_
    rw [List.mem_singleton.1 hname]
    exact hc _ (Hierarchy.mem_knownNames_of_hasTier ht)
  obtain ⟨items, keys, hitems, -, -, heq, -⟩ := ofProjection_eq_ok h
  obtain ⟨columns, aggregates, hcolumns, haggregates, hcases⟩ := Projection.items_eq_ok hitems
  intro i hi
  rw [heq] at hi
  obtain ⟨item, hitem, rfl⟩ := List.mem_map.1 hi
  rcases hcases with ⟨-, rfl⟩ | rfl
  · rw [List.mem_singleton.1 hitem]
    exact ⟨Expr.singleLine_node hanchor, fun _ hname => by cases hname⟩
  · rcases List.mem_append.1 hitem with hitem | hitem
    · obtain ⟨column, hcolumn, hok⟩ := (mem_mapM hcolumns).1 hitem
      obtain ⟨term, hterm, rfl⟩ := Corpus.columnItem_eq_ok hok
      refine ⟨Corpus.singleLine_outputTerm hc ht hterm, fun name hname => ?_⟩
      obtain rfl : column.name = name := Option.some.inj hname
      exact hp _ (List.mem_append_left _ (List.mem_map_of_mem hcolumn))
    · obtain ⟨aggregate, haggregate, hok⟩ := (mem_mapM haggregates).1 hitem
      have hfunction : SingleLine aggregate.function.statementName := by
        cases aggregate.function <;> decide
      have hname : SingleLine aggregate.name :=
        hp _ (List.mem_append_right _ (List.mem_map_of_mem haggregate))
      rcases Corpus.aggregateItem_eq_ok hok with ⟨path, term, -, hterm, rfl⟩ | ⟨-, rfl⟩
      · refine ⟨Expr.singleLine_call hfunction (Corpus.singleLine_outputTerm hc ht hterm), ?_⟩
        rintro name ⟨⟩
        exact hname
      · refine ⟨Expr.singleLine_call hfunction (Expr.singleLine_node hanchor), ?_⟩
        rintro name ⟨⟩
        exact hname

theorem singleLine_orderBy (hp : ∀ name ∈ (Intent.project p).names, SingleLine name)
    (h : ofProjection c tier p = .ok output) :
    ∀ o ∈ output.orderBy, Piece.SingleLine o.expr.pieces := by
  have hitems := singleLine_items hc ht hp h
  intro o ho
  obtain ⟨items, keys, -, hkeys, -, -, heq⟩ := ofProjection_eq_ok h
  have hmem := ho
  rw [heq] at hmem
  obtain ⟨item, hitem, rfl⟩ := List.mem_map.1 hmem
  obtain ⟨key, -, hkey⟩ := (mem_mapM hkeys).1 hitem
  rcases Projection.orderItem_eq_ok hkey with ⟨name, -, rfl⟩ | ⟨-, term, hterm, rfl⟩
  · obtain ⟨i, hi, hname⟩ := List.mem_map.1 (column_mem h ho rfl)
    exact Expr.singleLine_column (hname ▸ (hitems i hi).columnName)
  · exact Corpus.singleLine_outputTerm hc ht hterm

end Known

end Output

/-! ## Mutations -/

theorem firstAssignments_subset (seen : List String) (assignments : List (String × Value)) :
    firstAssignments seen assignments ⊆ assignments := by
  induction assignments generalizing seen with
  | nil => exact List.nil_subset _
  | cons a rest ih =>
    obtain ⟨key, value⟩ := a
    unfold firstAssignments
    split
    · exact List.subset_cons_of_subset _ (ih seen)
    · exact List.cons_subset_cons _ (ih _)

/-- The assignments that count are among those of the intent. -/
theorem PropertyUpdates.key_mem {u : PropertyUpdates} {anchor : Reference}
    {a : String × String × Value} (h : a ∈ u.effective anchor) :
    (∃ side, a.1 = anchor.sideAlias side) ∧ a.2.1 ∈ (Intent.setProperties u).names := by
  rcases List.mem_append.1 h with h | h
  · obtain ⟨x, hx, rfl⟩ := List.mem_map.1 h
    have hmem := List.mem_append_left u.type (firstAssignments_subset _ _ hx)
    exact ⟨⟨.token, rfl⟩, List.mem_map_of_mem hmem⟩
  · obtain ⟨x, hx, rfl⟩ := List.mem_map.1 h
    have hmem := List.mem_append_right u.token (firstAssignments_subset _ _ hx)
    exact ⟨⟨.type, rfl⟩, List.mem_map_of_mem hmem⟩

theorem SetItem.singleLine_property {a key : String} (ha : SingleLine a) (hk : SingleLine key)
    (value : Value) : Piece.SingleLine (SetItem.property a key (.literal value)).pieces := by
  have hpoint : SingleLine "." := by decide
  have hequals : SingleLine " = " := by decide
  have hvalue := Expr.singleLine_literal value
  simpa [SetItem.pieces, Piece.text, hpoint, hequals, hvalue, ha] using Text.singleLine_quoted hk

namespace PropertyUpdates

variable {u : PropertyUpdates} {anchor : Reference}
  (h : ∀ a ∈ u.effective anchor, SingleLine a.1 ∧ SingleLine a.2.1)

include h

theorem singleLine_setItems : ∀ item ∈ u.setItems anchor, Piece.SingleLine item.pieces := by
  intro item hitem
  rw [setItems_eq] at hitem
  obtain ⟨⟨a, key, value⟩, he, hsome⟩ := List.mem_filterMap.1 hitem
  simp only [Option.ite_none_left_eq_some, Option.some.injEq] at hsome
  rw [← hsome.2]
  exact SetItem.singleLine_property (h _ he).1 (h _ he).2 value

theorem singleLine_removeItems :
    ∀ item ∈ u.removeItems anchor, Piece.SingleLine item.pieces := by
  intro item hitem
  obtain ⟨⟨a, key, value⟩, he, hsome⟩ := List.mem_filterMap.1 hitem
  simp only [Option.ite_none_right_eq_some, Option.some.injEq] at hsome
  rw [← hsome.2]
  exact Expr.singleLine_property (h _ he).1 (h _ he).2

end PropertyUpdates

/-- The labels that are set or removed are those of the intent. -/
theorem LabelUpdates.label_mem {u : LabelUpdates} {anchor : Reference} {a : String × String}
    (h : a ∈ u.items anchor) :
    (∃ side, a.1 = anchor.sideAlias side) ∧ a.2 ∈ u.token ++ u.type := by
  rcases List.mem_append.1 (List.mem_eraseDups.1 h) with h | h
  · obtain ⟨x, hx, rfl⟩ := List.mem_map.1 h
    exact ⟨⟨.token, rfl⟩, List.mem_append_left _ hx⟩
  · obtain ⟨x, hx, rfl⟩ := List.mem_map.1 h
    exact ⟨⟨.type, rfl⟩, List.mem_append_right _ hx⟩

/-! ## Clauses -/

namespace Clause

/-- The words that clauses start with. -/
def keywords : List String :=
  ["MATCH", "OPTIONAL MATCH", "WHERE", "WITH", "RETURN", "SET", "REMOVE", "DETACH DELETE", "DELETE"]

theorem keyword_mem_keywords (k : Clause) : k.keyword ∈ keywords := by
  cases k with
  | deleting detach _ => cases detach <;> simp [keyword, keywords]
  | _ => simp [keyword, keywords]

theorem singleLine_firstLine {k : Clause} (h : ∀ part ∈ k.parts, Piece.SingleLine part) :
    Piece.SingleLine k.firstLine := by
  have hcomma : SingleLine ", " := by decide
  have hand : SingleLine " AND " := by decide
  cases k with
  | filtering _ => exact Piece.singleLine_separated hand h
  | returning distinct items orderBy limit =>
    have hdistinct : SingleLine (if distinct then "DISTINCT " else "") := by
      cases distinct <;> decide
    refine (Piece.singleLine_cons _ _).2 ⟨hdistinct, ?_⟩
    exact Piece.singleLine_separated hcomma fun part hpart => h part (List.mem_append_left _ hpart)
  | matching _ | optionalMatching _ | carrying _ | setting _ | removing _ | deleting _ _ =>
    exact Piece.singleLine_separated hcomma h

theorem singleLine_furtherLines {k : Clause} (h : ∀ part ∈ k.parts, Piece.SingleLine part) :
    ∀ line ∈ k.furtherLines, Piece.SingleLine line := by
  cases k with
  | returning distinct items orderBy limit =>
    have horder : Piece.SingleLine
        (.symbols "ORDER BY " :: Piece.separated ", " (orderBy.map OrderItem.pieces)) :=
      (Piece.singleLine_cons _ _).2 ⟨by decide, Piece.singleLine_separated (by decide)
        fun part hpart => h part (List.mem_append_right _ hpart)⟩
    intro line hline
    rcases List.mem_append.1 hline with hline | hline
    · split at hline
      · cases hline
      · exact List.mem_singleton.1 hline ▸ horder
    · obtain ⟨n, -, rfl⟩ := Option.map_eq_some_iff.1 (Option.mem_toList.1 hline)
      have hnumber : SingleLine (toString n) := Text.singleLine_toString n
      have hlimit : SingleLine "LIMIT " := by decide
      exact (Piece.singleLine_cons _ _).2 ⟨hlimit, List.forall_mem_singleton.2 hnumber⟩
  | matching _ | optionalMatching _ | filtering _ | carrying _ | setting _ | removing _
  | deleting _ _ => exact fun _ hline => by cases hline

/-- Keywords and separators have no line feed. -/
theorem singleLine_of_parts {k : Clause} (h : ∀ part ∈ k.parts, Piece.SingleLine part) :
    Piece.SingleLine k.pieces := by
  have hkeywords : ∀ word ∈ keywords, SingleLine (word ++ " ") := by decide
  intro piece hpiece
  rcases mem_pieces.1 hpiece with rfl | hpiece | ⟨line, hline, hpiece⟩
  · exact hkeywords _ k.keyword_mem_keywords
  · exact singleLine_firstLine h piece hpiece
  · exact singleLine_furtherLines h line hline piece hpiece

theorem singleLine_aliases {aliases : List String} (h : ∀ a ∈ aliases, SingleLine a) :
    ∀ part ∈ aliases.map fun a => [Piece.aliasName a], Piece.SingleLine part := by
  intro part hpart
  obtain ⟨a, ha, rfl⟩ := List.mem_map.1 hpart
  exact List.forall_mem_singleton.2 (h a ha)

end Clause

/-- Parameters have no line feed. -/
theorem Piece.AddsParameters.singleLine {pieces pieces' : List Piece}
    (h : Piece.AddsParameters pieces pieces') (hs : Piece.SingleLine pieces) :
    Piece.SingleLine pieces' := by
  intro piece hpiece
  rcases h piece hpiece with hpiece | ⟨n, rfl⟩
  · exact hs piece hpiece
  · have hdollar : Text.SingleLine "$" := by decide
    have hp : Text.SingleLine "p" := by decide
    have hname : Text.SingleLine (Parameters.nameOf n) :=
      (Text.singleLine_append_iff _ _).2 ⟨hp, Text.singleLine_toString n⟩
    exact (Text.singleLine_append_iff _ _).2 ⟨hdollar, hname⟩

namespace Corpus

variable {l : Listing} {c : Corpus} {q : Query} {p : Plan}

theorem singleLine_sideAlias (hc : ∀ name ∈ c.hierarchy.knownNames, SingleLine name)
    (ht : c.hierarchy.hasTier q.tier = true) (side : Side) :
    SingleLine ((c.anchor q.tier).sideAlias side) := by
  have hclimbs : (c.anchor q.tier).Climbs c.hierarchy q.tier := .root .zero
  have htiers : ∀ name ∈ (c.anchor q.tier).tiers, SingleLine name := fun name hname =>
    hc name (hclimbs.tiers ht hname)
  cases side with
  | token => exact Node.singleLine_aliasName (n := .token (c.anchor q.tier)) htiers
  | type => exact Node.singleLine_aliasName (n := .type (c.anchor q.tier)) htiers

theorem singleLine_properties (hc : c.SingleLineNames q) (h : c.plan l q = .ok p)
    {u : PropertyUpdates} (hi : q.intent = .setProperties u) :
    ∀ k ∈ p.endingClauses, ∀ part ∈ k.parts, Piece.SingleLine part := by
  have htarget : ∀ e ∈ u.effective (c.anchor q.tier), SingleLine e.1 ∧ SingleLine e.2.1 := by
    intro e he
    obtain ⟨⟨side, hside⟩, hkey⟩ := PropertyUpdates.key_mem he
    refine ⟨hside ▸ singleLine_sideAlias hc.known (hasTier_plan h) side, ?_⟩
    exact hc _ (List.mem_append_right _ (hi ▸ hkey))
  have hset : ∀ part ∈ (Clause.setting (u.setItems (c.anchor q.tier))).parts,
      Piece.SingleLine part :=
    List.forall_mem_map.2 (PropertyUpdates.singleLine_setItems htarget)
  have hremove : ∀ part ∈ (Clause.removing (u.removeItems (c.anchor q.tier))).parts,
      Piece.SingleLine part :=
    List.forall_mem_map.2 (PropertyUpdates.singleLine_removeItems htarget)
  have hcarried : ∀ part ∈ (Clause.carrying (p.carried p.aliases
      [.removing (u.removeItems (c.anchor q.tier))])).parts, Piece.SingleLine part :=
    Clause.singleLine_aliases fun a ha =>
      singleLine_aliases hc.known h a (carried_subset_aliases h ha)
  intro k hk
  rcases Plan.endingClauses_properties (ending_plan h hi rfl) with heq | heq | heq <;>
    simp only [heq, List.mem_cons, List.not_mem_nil, or_false] at hk
  · exact hk ▸ hset
  · exact hk ▸ hremove
  · rcases hk with rfl | rfl | rfl
    · exact hset
    · exact hcarried
    · exact hremove

theorem singleLine_project (hc : c.SingleLineNames q) (h : c.plan l q = .ok p) {pr : Projection}
    (hi : q.intent = .project pr) :
    ∀ k ∈ p.endingClauses, ∀ part ∈ k.parts, Piece.SingleLine part := by
  have hnames : ∀ name ∈ (Intent.project pr).names, SingleLine name := fun name hname =>
    hc name (List.mem_append_right _ (hi ▸ hname))
  obtain ⟨output, ho, hending⟩ := ending_plan_project h hi
  intro k hk part hpart
  rw [Plan.endingClauses, hending] at hk
  rw [List.mem_singleton.1 hk] at hpart
  rcases List.mem_append.1 hpart with hpart | hpart
  · obtain ⟨i, hi, rfl⟩ := List.mem_map.1 hpart
    exact (Output.singleLine_items hc.known (hasTier_plan h) hnames ho i hi).pieces
  · obtain ⟨o, ho', rfl⟩ := List.mem_map.1 hpart
    have hexpr := Output.singleLine_orderBy hc.known (hasTier_plan h) hnames ho o ho'
    have hdirection : SingleLine (if o.descending then " DESC" else "") := by
      split <;> decide
    exact (Piece.singleLine_append _ _).2 ⟨hexpr, List.forall_mem_singleton.2 hdirection⟩

theorem singleLine_labels (hc : c.SingleLineNames q) (h : c.plan l q = .ok p) {u : LabelUpdates}
    (hi : q.intent = .setLabels u ∨ q.intent = .removeLabels u) :
    ∀ k ∈ p.endingClauses, ∀ part ∈ k.parts, Piece.SingleLine part := by
  have hitems : ∀ e ∈ u.items (c.anchor q.tier), SingleLine e.1 ∧ SingleLine e.2 := by
    intro e he
    obtain ⟨⟨side, hside⟩, hlabel⟩ := LabelUpdates.label_mem he
    refine ⟨hside ▸ singleLine_sideAlias hc.known (hasTier_plan h) side, ?_⟩
    refine hc _ (List.mem_append_right _ ?_)
    rcases hi with hi | hi <;> exact hi ▸ hlabel
  intro k hk part hpart
  rcases hi with hi | hi
  · rw [Plan.endingClauses, ending_plan h hi rfl] at hk
    rw [List.mem_singleton.1 hk] at hpart
    obtain ⟨i, hi, rfl⟩ := List.mem_map.1 hpart
    obtain ⟨e, he, rfl⟩ := List.mem_map.1 hi
    exact Expr.singleLine_hasLabel (hitems e he).1 (hitems e he).2
  · rw [Plan.endingClauses, ending_plan h hi rfl] at hk
    rw [List.mem_singleton.1 hk] at hpart
    obtain ⟨i, hi, rfl⟩ := List.mem_map.1 hpart
    obtain ⟨e, he, rfl⟩ := List.mem_map.1 hi
    exact Expr.singleLine_hasLabel (hitems e he).1 (hitems e he).2

/-- What is done with the rows has no line feed. -/
theorem singleLine_ending (hc : c.SingleLineNames q) (h : c.plan l q = .ok p) :
    ∀ k ∈ p.endingClauses, ∀ part ∈ k.parts, Piece.SingleLine part := by
  cases hi : q.intent with
  | project pr => exact singleLine_project hc h hi
  | setProperties u => exact singleLine_properties hc h hi
  | setLabels u => exact singleLine_labels hc h (.inl hi)
  | removeLabels u => exact singleLine_labels hc h (.inr hi)
  | delete =>
    intro k hk
    rw [Plan.endingClauses, ending_plan h hi rfl] at hk
    rw [List.mem_singleton.1 hk]
    refine Clause.singleLine_aliases fun a ha => ?_
    rw [List.mem_singleton.1 ha]
    exact singleLine_sideAlias hc.known (hasTier_plan h) .token
  | cache =>
    intro k hk
    rw [Plan.endingClauses, ending_plan h hi rfl] at hk
    rw [List.mem_singleton.1 hk]
    exact Clause.singleLine_aliases (singleLine_aliases hc.known h)

/-- The clauses of a plan have no line feed. -/
theorem singleLine_plan (hc : c.SingleLineNames q) (h : c.plan l q = .ok p) :
    ∀ k ∈ p.clauses, ∀ part ∈ k.parts, Piece.SingleLine part := by
  have hknown := hc.known
  intro k hk
  rw [p.clauses_eq] at hk
  simp only [List.mem_cons, List.mem_append] at hk
  rcases hk with rfl | ((hk | hk) | hk) | hk
  · intro part hpart
    obtain ⟨pattern, hpattern, rfl⟩ := List.mem_map.1 hpart
    rw [hierarchy_plan h] at hpattern
    exact singleLine_patterns hknown h (closed_required h) (List.subset_append_left _ _)
      (List.Subset.refl _) hpattern
  · rw [Plan.mem_filterClauses hk]
    intro part hpart
    obtain ⟨e, he, rfl⟩ := List.mem_map.1 hpart
    obtain ⟨conditions, hconditions, heq⟩ := conditions_plan h
    rw [heq] at he
    obtain ⟨condition, hcondition, rfl⟩ := List.mem_map.1 he
    obtain ⟨f, -, hf⟩ := (mem_mapM hconditions).1 hcondition
    exact singleLine_condition hknown (hasTier_plan h) hf
  · unfold Plan.carryingClauses at hk
    split at hk
    · cases hk
    · rw [List.mem_singleton.1 hk]
      refine Clause.singleLine_aliases fun a ha => singleLine_aliases hknown h a ?_
      rcases Plan.mem_of_mem_carried ha with ha | rfl
      · exact List.mem_append_left _ ha
      · rw [anchor_plan h]
        exact List.mem_append_left _ (anchor_mem_aliases h)
  · obtain ⟨pattern, hpattern, rfl⟩ := List.mem_map.1 hk
    rw [hierarchy_plan h] at hpattern
    refine List.forall_mem_singleton.2 ?_
    exact singleLine_patterns hknown h (closed_bound h) (List.Subset.refl _)
      (List.subset_append_right _ _) hpattern
  · exact singleLine_ending hc h k hk

/-- The lines of a compiled statement have no line feed. -/
theorem singleLine_compile (hc : c.SingleLineNames q) {s : CompiledStatement}
    (h : c.compileIn l q = .ok s) :
    ∀ line ∈ s.statement.lines, SingleLine (Piece.written line) := by
  obtain ⟨p, hp, -, -, hclauses, -⟩ := compile_eq_ok h
  intro line hline
  refine Piece.SingleLine.written ?_
  obtain ⟨k', hk', hline⟩ := List.mem_flatMap.1 hline
  -- the clause with its literals in place has the same names, so it is enough to look at that
  obtain ⟨k, hk, hlift⟩ := exists_left_of_forall₂ (hclauses ▸ forall₂_lifted 0 p.clauses) hk'
  have hplan := Clause.singleLine_of_parts (singleLine_plan hc hp k hk)
  have hpieces : Piece.SingleLine k'.pieces :=
    Piece.AddsParameters.singleLine hlift.addsParameters hplan
  exact fun piece hpiece => hpieces piece (List.mem_flatten.2 ⟨line, hline, hpiece⟩)

end Corpus

end AnnotationQuery
