import AnnotationQuery.Compiled.Fingerprint
import AnnotationQuery.Proofs.Conditions

/-!
# Mirrored comparisons

A comparison of two attributes can be stated from either side. The operand whose text comes first is
written first, so both ways give the same condition; only two operands with the same text keep the
order in which they are stated, and then only the operator tells the two ways apart.

Results:
* `Corpus.condition_paths_eq_ok`: the condition of a filter that compares two attributes.
* `Condition.ofTerms_mirrored`, `Condition.ofTerms_of_text_eq`: the two ways to state it.
* `Corpus.exists_text_assembled`: the place of one condition in the text of a statement.
* `Corpus.compile_mirrored`: a query with one comparison stated from the other side.
-/

namespace AnnotationQuery

/-! ## Conditions -/

namespace Condition

variable {left right : Term} {o o' : Operator}

theorem comparison_of_flipped? (ho : o.flipped? = some o') (left right : Expr) :
    Expr.comparison left o right = .compare left o right := by
  cases o with
  | notIn => cases ho
  | _ => rfl

/-- The two ways in which a comparison can be written. -/
theorem expr_ofTerms (ho : o.flipped? = some o') :
    (ofTerms left o right).expr =
      if right.expr.text < left.expr.text then .compare right.expr o' left.expr
      else .compare left.expr o right.expr := by
  have ho' : o'.flipped? = some o := Operator.flipped?_flipped? ho
  simp only [ofTerms, ho]
  split
  · exact comparison_of_flipped? ho' _ _
  · exact comparison_of_flipped? ho _ _

/-- Operands with different texts are written in one order only. -/
theorem ofTerms_mirrored (ho : o.flipped? = some o') (hne : left.expr.text ≠ right.expr.text) :
    (ofTerms left o right).expr = (ofTerms right o' left).expr := by
  rw [expr_ofTerms ho, expr_ofTerms (Operator.flipped?_flipped? ho)]
  by_cases hlt : left.expr.text < right.expr.text
  · rw [if_pos hlt, if_neg (String.lt_asymm hlt)]
  · have hgt : right.expr.text < left.expr.text := by
      by_contra hnot
      exact hne (String.le_antisymm hnot hlt)
    rw [if_pos hgt, if_neg hlt]

/-- Operands with the same text are written in the order in which they are stated. -/
theorem ofTerms_of_text_eq (ho : o.flipped? = some o') (heq : left.expr.text = right.expr.text) :
    (ofTerms left o right).expr = .compare left.expr o right.expr := by
  rw [expr_ofTerms ho, heq, if_neg (String.lt_irrefl _)]

end Condition

namespace Corpus

variable {c : Corpus} {tier : String} {a b : Path} {o o' : Operator}

/-- The condition of a filter that compares two attributes. -/
theorem condition_paths_eq_ok (ho : o.flipped? = some o') {k : Condition} :
    c.condition tier ⟨a, o, .path b⟩ = .ok k ↔
      ∃ left right, c.filterTerm tier a = .ok left ∧ c.filterTerm tier b = .ok right ∧
        k = .ofTerms left o right := by
  constructor
  · intro h
    cases condition_eq_ok h with
    | terms hop hl hr =>
      obtain rfl := Operand.path.inj hop
      exact ⟨_, _, hl, hr, rfl⟩
    | value hop _ => cases hop
    | subset _ hop _ _ => cases hop
  · rintro ⟨left, right, hl, hr, rfl⟩
    obtain ⟨resolved, hra, hta⟩ := filterTerm_eq_ok.1 hl
    obtain ⟨resolved', hrb, htb⟩ := filterTerm_eq_ok.1 hr
    have hvalid : (⟨a, o, .path b⟩ : Filter).validate = .ok () := by
      cases o with
      | isIn | notIn | regex => cases ho
      | _ => rfl
    rw [condition_eq]
    simp only [hvalid, hra, hrb, bind, Except.bind, hta, htb, Except.mapError]
    rfl

theorem plain_filterTerm {path : Path} {term : Term} (h : c.filterTerm tier path = .ok term) :
    term.expr.Plain := by
  obtain ⟨resolved, -, ht⟩ := filterTerm_eq_ok.1 h
  exact Resolved.plain_term ht

/-- The conditions of a filter among others. -/
theorem conditions_around {fs fs' : List Filter} {f : Filter} {ks : List Condition} :
    c.conditions tier (fs ++ f :: fs') = .ok ks ↔
      ∃ before k after, c.conditions tier fs = .ok before ∧ c.condition tier f = .ok k ∧
        c.conditions tier fs' = .ok after ∧ ks = before ++ k :: after := by
  simp only [conditions, List.mapM_append, List.mapM_cons, bind_eq_ok, pure_eq_ok]
  constructor
  · rintro ⟨before, hbefore, _, ⟨k, hk, after, hafter, rfl⟩, rfl⟩
    exact ⟨before, k, after, hbefore, hk, hafter, rfl⟩
  · rintro ⟨before, k, after, hbefore, hk, hafter, rfl⟩
    exact ⟨before, hbefore, _, ⟨k, hk, after, hafter, rfl⟩, rfl⟩

/-- A condition without literals takes no part in lifting the others. -/
theorem liftedConditions_around (c : Corpus) (before after : List Expr) :
    ∃ es es' vs, es.length = before.length ∧
      ∀ e : Expr, e.Plain → c.liftedConditions (before ++ e :: after) = (es ++ e :: es', vs) := by
  let rest := (c.lifting Expr.lifting).list.lift (c.liftedConditions before).2.length after
  refine ⟨(c.liftedConditions before).1, rest.1, (c.liftedConditions before).2 ++ rest.2,
    length_liftedConditions before, fun e he => ?_⟩
  have hlift : ∀ n, (c.lifting Expr.lifting).lift n e = (e, []) := by
    intro n
    unfold lifting
    split
    · exact he n
    · rfl
  rw [liftedConditions_append]
  simp only [Lifting.list, liftEach, hlift]
  rfl

end Corpus

/-! ## Texts -/

/-- One of several joined texts is preceded and followed by the others. -/
theorem Text.exists_joined_around (separator : String) (before after : List String) :
    ∃ u v, ∀ t, joined separator (before ++ t :: after) = u ++ t ++ v := by
  induction before with
  | nil =>
    cases after with
    | nil => exact ⟨"", "", fun t => by simp [joined]⟩
    | cons a after =>
      exact ⟨"", separator ++ joined separator (a :: after), fun t => by
        simp [joined_cons_cons, String.append_assoc]⟩
  | cons b before ih =>
    obtain ⟨u, v, h⟩ := ih
    refine ⟨b ++ separator ++ u, v, fun t => ?_⟩
    have hcons : joined separator (b :: (before ++ t :: after)) =
        b ++ separator ++ joined separator (before ++ t :: after) := by
      cases before <;> rfl
    rw [List.cons_append, hcons, h]
    simp only [String.append_assoc]

namespace Corpus

variable {l : Listing} {c : Corpus} {q : Query}

/-- The text of a statement around one of its conditions. -/
theorem exists_text_assembled (c : Corpus) (p : Plan) (es es' : List Expr) (vs : List Value) :
    ∃ u v, ∀ e, (c.assembled p (es ++ e :: es', vs)).text = u ++ e.text ++ v := by
  obtain ⟨u, v, hconditions⟩ :=
    Text.exists_joined_around " AND " (es.map Expr.text) (es'.map Expr.text)
  obtain ⟨u', v', hclauses⟩ := Text.exists_joined_around "\n"
    [(Clause.matching (p.required.patterns p.hierarchy p.required)).text]
    ((p.carryingClauses ++ p.optionalClauses ++ (c.lifted vs.length p.endingClauses).1).map
      Clause.text)
  refine ⟨u' ++ ("WHERE " ++ u), v ++ v', fun e => ?_⟩
  have hwhere : Clause.whereAll (es ++ e :: es') = [.filtering (es ++ e :: es')] := by
    cases es <;> rfl
  have htext : (Clause.filtering (es ++ e :: es')).text = "WHERE " ++ (u ++ e.text ++ v) := by
    rw [Clause.text, Clause.keyword, Clause.body, List.map_append, List.map_cons, hconditions]
    rfl
  have hassembled : (c.assembled p (es ++ e :: es', vs)).text = u' ++
      (Clause.filtering (es ++ e :: es')).text ++ v' := by
    rw [← hclauses, CompiledStatement.text, Statement.text, assembled, hwhere]
    simp only [List.map_cons, List.map_append, List.append_assoc, List.cons_append,
      List.nil_append]
  rw [hassembled, htext]
  simp only [String.append_assoc]

end Corpus

/-! ## Queries -/

namespace Corpus

variable {l l' : Listing} {c : Corpus} {q : Query} {before after : List Filter} {a b : Path}
  {o o' : Operator}

/-- The filters of a query around one of them. -/
theorem effectiveFilters_around {f : Filter} (hq : q.filters = before ++ f :: after) :
    q.effectiveFilters =
      before ++ f :: (after ++ (q.discourse.map (q.entityFilter .discourse)).toList) := by
  rw [Query.effectiveFilters, hq, List.append_assoc, List.cons_append]

theorem exists_compile_mirrored (hq : q.filters = before ++ ⟨a, o, .path b⟩ :: after)
    (ho : o.flipped? = some o') :
    (∃ s, c.compileIn l q = .ok s) ↔
      ∃ s, c.compileIn l' (q.withFilters (before ++ ⟨b, o', .path a⟩ :: after)) = .ok s := by
  refine exists_compile_iff ?_
  rw [effectiveFilters_around hq, effectiveFilters_around (q := q.withFilters _) rfl]
  simp only [conditions_around, condition_paths_eq_ok ho,
    condition_paths_eq_ok (Operator.flipped?_flipped? ho)]
  constructor
  · rintro ⟨_, ks, _, ks', hks, ⟨left, right, hl, hr, rfl⟩, hks', rfl⟩
    exact ⟨_, ks, _, ks', hks, ⟨right, left, hr, hl, rfl⟩, hks', rfl⟩
  · rintro ⟨_, ks, _, ks', hks, ⟨right, left, hr, hl, rfl⟩, hks', rfl⟩
    exact ⟨_, ks, _, ks', hks, ⟨left, right, hl, hr, rfl⟩, hks', rfl⟩

/-- Two queries that state one comparison from different sides are compiled to the same plan with
the same conditions around the comparison. -/
theorem exists_assembled_mirrored {s s' : CompiledStatement}
    (hq : q.filters = before ++ ⟨a, o, .path b⟩ :: after) (ho : o.flipped? = some o')
    (hs : c.compileIn l q = .ok s)
    (hs' : c.compileIn l (q.withFilters (before ++ ⟨b, o', .path a⟩ :: after)) = .ok s')
    (hdistinct : c.DistinctAliases q s.columns) :
    ∃ p left right es es' vs, c.filterTerm q.tier a = .ok left ∧ c.filterTerm q.tier b = .ok right ∧
      es.length = before.length ∧
      s = c.assembled p (es ++ (Condition.ofTerms left o right).expr :: es', vs) ∧
      s' = c.assembled p (es ++ (Condition.ofTerms right o' left).expr :: es', vs) := by
  have ho' : o'.flipped? = some o := Operator.flipped?_flipped? ho
  obtain ⟨ks, hks⟩ := exists_conditions hs
  obtain ⟨kb, k, ka, hkb, hk, hka, rfl⟩ := conditions_around.1 (effectiveFilters_around hq ▸ hks)
  obtain ⟨left, right, hl, hr, rfl⟩ := (condition_paths_eq_ok ho).1 hk
  have hk' : c.condition q.tier ⟨b, o', .path a⟩ = .ok (.ofTerms right o' left) :=
    (condition_paths_eq_ok ho').2 ⟨right, left, hr, hl, rfl⟩
  have hks' : c.conditions q.tier
      (q.withFilters (before ++ ⟨b, o', .path a⟩ :: after)).effectiveFilters =
      .ok (kb ++ .ofTerms right o' left :: ka) := by
    rw [effectiveFilters_around (q := q.withFilters _) rfl]
    exact conditions_around.2 ⟨kb, _, ka, hkb, hk', hka, rfl⟩
  have hnodes : ∀ n, n ∈ (kb ++ .ofTerms left o right :: ka).flatMap (·.nodes) ↔
      n ∈ (kb ++ .ofTerms right o' left :: ka).flatMap (·.nodes) := by
    intro n
    simp only [List.flatMap_append, List.flatMap_cons, nodes_ofTerms, List.mem_append,
      List.mem_pair, or_comm (a := n = left.node)]
  obtain ⟨p, -, rfl, rfl⟩ := compile_withFilters hs hs' hdistinct hks hks' hnodes
  obtain ⟨es, es', vs, hlength, hlifted⟩ :=
    c.liftedConditions_around (kb.map (·.expr)) (ka.map (·.expr))
  have hplain := Condition.plain_ofTerms (plain_filterTerm hl) (plain_filterTerm hr) o
  have hplain' := Condition.plain_ofTerms (plain_filterTerm hr) (plain_filterTerm hl) o'
  refine ⟨p, left, right, es, es', vs, hl, hr, ?_, ?_, ?_⟩
  · rw [hlength, List.length_map, (mapM_eq_ok.1 hkb).length_eq]
  · rw [List.map_append, List.map_cons, hlifted _ hplain]
  · rw [List.map_append, List.map_cons, hlifted _ hplain']

/-- A symmetric comparison has one text, whichever side it is stated from. -/
theorem text_mirrored {left right : Term} (ho : o.flipped? = some o') (hcase : o = .equal ∨
    o = .notEqual ∨ left.expr.text ≠ right.expr.text) :
    (Condition.ofTerms right o' left).expr.text = (Condition.ofTerms left o right).expr.text := by
  by_cases heq : left.expr.text = right.expr.text
  · obtain rfl : o' = o := by
      rcases hcase with rfl | rfl | hne
      · exact (Option.some.inj ho).symm
      · exact (Option.some.inj ho).symm
      · exact absurd heq hne
    rw [Condition.ofTerms_of_text_eq ho heq, Condition.ofTerms_of_text_eq ho heq.symm, Expr.text,
      Expr.text, heq]
  · rw [Condition.ofTerms_mirrored ho heq]

/-- A query with one comparison stated from the other side compiles if and only if it does so in the
first place. If different nodes have different aliases, the parameters, columns and mode are the
same. The statement is the same if the operands have different texts, and its text is the same if
the operator is symmetric; otherwise the texts differ in the operator only. -/
theorem compile_mirrored (l l' : Listing) (hq : q.filters = before ++ ⟨a, o, .path b⟩ :: after)
    (ho : o.flipped? = some o') :
    ((∃ s, c.compileIn l q = .ok s) ↔
      ∃ s, c.compileIn l' (q.withFilters (before ++ ⟨b, o', .path a⟩ :: after)) = .ok s) ∧
    ∀ s s', c.compileIn l q = .ok s →
      c.compileIn l' (q.withFilters (before ++ ⟨b, o', .path a⟩ :: after)) = .ok s' →
      c.DistinctAliases q s.columns →
      ∃ left right, c.filterTerm q.tier a = .ok left ∧ c.filterTerm q.tier b = .ok right ∧
        s'.parameters = s.parameters ∧ s'.columns = s.columns ∧ s'.mode = s.mode ∧
        (left.expr.text ≠ right.expr.text → s' = s) ∧
        (o = .equal ∨ o = .notEqual ∨ left.expr.text ≠ right.expr.text →
          s'.text = s.text ∧ s'.fingerprint = s.fingerprint) ∧
        (left.expr.text = right.expr.text →
          (∃ es es', es.length = before.length ∧
            s.statement.conditions = es ++ .compare left.expr o right.expr :: es' ∧
            s'.statement = s.statement.withConditions
              (es ++ .compare right.expr o' left.expr :: es')) ∧
          ∃ u v, s.text = u ++ o.statementText ++ v ∧ s'.text = u ++ o'.statementText ++ v) := by
  refine ⟨exists_compile_mirrored hq ho, fun s s' hs hs' hdistinct => ?_⟩
  have ho' : o'.flipped? = some o := Operator.flipped?_flipped? ho
  obtain ⟨p, left, right, es, es', vs, hl, hr, hlength, rfl, rfl⟩ :=
    exists_assembled_mirrored hq ho (compile_eq_of_distinct hs hdistinct l') hs' hdistinct
  obtain ⟨u, v, htext⟩ := c.exists_text_assembled p es es' vs
  refine ⟨left, right, hl, hr, rfl, rfl, rfl, fun hne => ?_, fun hcase => ?_, fun heq => ?_⟩
  · rw [Condition.ofTerms_mirrored ho hne]
  · have htexts : (c.assembled p (es ++ (Condition.ofTerms right o' left).expr :: es', vs)).text =
        (c.assembled p (es ++ (Condition.ofTerms left o right).expr :: es', vs)).text := by
      rw [htext, htext, text_mirrored ho hcase]
    refine ⟨htexts, ?_⟩
    rw [CompiledStatement.fingerprint, CompiledStatement.signature, htexts]
    rfl
  · have hother := withConditions_assembled (c := c) p
      (es ++ (Condition.ofTerms left o right).expr :: es', vs)
      (es ++ (Condition.ofTerms right o' left).expr :: es', vs) (by simp) rfl
    have hexpr := Condition.ofTerms_of_text_eq ho heq
    have hexpr' := Condition.ofTerms_of_text_eq ho' heq.symm
    rw [hexpr, hexpr'] at hother ⊢
    refine ⟨⟨es, es', hlength, conditions_assembled p _, hother.symm⟩,
      u ++ left.expr.text ++ " ", " " ++ right.expr.text ++ v, ?_, ?_⟩
    · rw [htext, Expr.text]
      simp only [String.append_assoc]
    · rw [htext, Expr.text, heq]
      simp only [String.append_assoc]

end Corpus

/-- A query for the phones of the syllable `a` that do not begin with it, to be deleted. -/
def Query.ofComparison : Query :=
  ⟨"phone", none, [⟨⟨["phone", "syllable", "label"]⟩, .equal, .literal (.string "a")⟩,
    ⟨⟨["phone", "begin"]⟩, .greater, .path ⟨["phone", "syllable", "begin"]⟩⟩], .delete⟩

theorem Corpus.compile_mirrored_small :
    ∃ s s', small.compileIn .arrival .ofComparison = .ok s ∧
      small.compileIn .reversed (Query.ofComparison.withFilters
        ([⟨⟨["phone", "syllable", "label"]⟩, .equal, .literal (.string "a")⟩] ++
          ⟨⟨["phone", "syllable", "begin"]⟩, .less, .path ⟨["phone", "begin"]⟩⟩ :: [])) = .ok s' ∧
      small.DistinctAliases .ofComparison s.columns ∧ s' = s := by
  have hok : (small.compileIn .arrival .ofComparison).toOption.isSome = true := by decide
  obtain ⟨s, hs⟩ := exists_eq_ok hok
  have haliases : (small.plan .arrival .ofComparison).toOption.map (fun p =>
      (p.required ++ p.optional).map Node.aliasName) = some ["node_phone", "node_phone_syllable",
        "type_node_phone_syllable"] := by decide
  have hdistinct := distinctAliases_of_plan hs haliases (by decide)
  have hfilters : Query.ofComparison.filters =
      [⟨⟨["phone", "syllable", "label"]⟩, .equal, .literal (.string "a")⟩] ++
        ⟨⟨["phone", "begin"]⟩, .greater, .path ⟨["phone", "syllable", "begin"]⟩⟩ :: [] := rfl
  have hflipped : Operator.greater.flipped? = some .less := rfl
  obtain ⟨hiff, hsame⟩ := compile_mirrored .arrival .reversed (c := small) hfilters hflipped
  obtain ⟨s', hs'⟩ := hiff.1 ⟨s, hs⟩
  obtain ⟨left, right, hl, hr, -, -, -, hdifferent, -⟩ := hsame s s' hs hs' hdistinct
  have hleft : (small.filterTerm "phone" ⟨["phone", "begin"]⟩).toOption.map (·.expr.text) =
      some "node_phone.begin" := by decide
  have hright : (small.filterTerm "phone" ⟨["phone", "syllable", "begin"]⟩).toOption.map
      (·.expr.text) = some "node_phone_syllable.begin" := by decide
  rw [show Query.ofComparison.tier = "phone" from rfl] at hl hr
  rw [hl] at hleft
  rw [hr] at hright
  refine ⟨s, s', hs, hs', hdistinct, hdifferent fun heq => ?_⟩
  have htext := (Option.some.inj hleft).symm.trans (heq.trans (Option.some.inj hright))
  exact absurd htext (by decide)

end AnnotationQuery
