import AnnotationQuery.Proofs.AddedCondition
import AnnotationQuery.Proofs.Mirror
import AnnotationQuery.Proofs.Outputs
import AnnotationQuery.Proofs.PartitionFilter
import AnnotationQuery.Proofs.WellScoped

/-!
# The statement of a partition

A partition is compiled to the statement of the base query with one more condition. The speaker or
discourse that the condition is on joins the nodes of the `MATCH`, unless it is among them, and
leaves the nodes that are matched optionally. Two partitions differ in one literal. Sets of nodes
may be listed differently each time; only nodes with the same alias may then come in another order.

Results:
* `PartitionedQuery.plan_partition`: the plans of the base query and of its partitions.
* `PartitionedQuery.narrowed_partition`: the statement of a partition next to the base query's.
* `PartitionedQuery.compile_partition_parameter`, `PartitionedQuery.compile_partition_inPlace`: what
  depends on the value of a partition.
* `PartitionedQuery.compile_partition`: these together, with the errors of a partition.
-/

namespace AnnotationQuery

/-! ## Conditions and plans -/

namespace Corpus

variable {l : Listing} {c : Corpus}

theorem conditions_append {tier : String} {fs fs' : List Filter} {ks : List Condition} :
    c.conditions tier (fs ++ fs') = .ok ks ↔ ∃ before after, c.conditions tier fs = .ok before ∧
      c.conditions tier fs' = .ok after ∧ ks = before ++ after := by
  simp only [conditions, List.mapM_append, bind_eq_ok, pure_eq_ok]
  constructor
  · rintro ⟨before, hbefore, after, hafter, rfl⟩
    exact ⟨before, after, hbefore, hafter, rfl⟩
  · rintro ⟨before, after, hbefore, hafter, rfl⟩
    exact ⟨before, hbefore, after, hafter, rfl⟩

/-- Conditions on the same nodes make the same plan but for the conditions. -/
theorem planOf_congr {q : Query} {ks ks' : List Condition} {d : Demand}
    (h : ks'.flatMap (·.nodes) = ks.flatMap (·.nodes)) :
    c.planOf l q ks' d = { c.planOf l q ks d with conditions := ks'.map (·.expr) } := by
  simp only [planOf, h]

theorem statement_assembled_congr {b : Plan} {lifted lifted' : List Expr × List Value}
    (hes : lifted'.1 = lifted.1) (hvs : lifted'.2.length = lifted.2.length) :
    (c.assembled b lifted').statement = (c.assembled b lifted).statement := by
  simp only [assembled, hes, hvs]

end Corpus

/-! ## The plan of a partition -/

namespace PartitionedQuery

variable {l l' : Listing} {c : Corpus} {p : PartitionedQuery} {v : String}

/-- The speaker or discourse that a partition is about. -/
def entity (p : PartitionedQuery) (c : Corpus) : Node :=
  c.anchorEntity p.base.tier p.key

/-- The condition on the value of a partition. -/
def valueCondition (p : PartitionedQuery) (c : Corpus) (operand : Expr) : Condition :=
  ⟨[p.entity c], c.nameCondition p.base.tier p.key operand⟩

theorem conditions_planOf {q : Query} {before after : List Condition} {operand : Expr}
    {d : Demand} : (c.planOf l q (before ++ p.valueCondition c operand :: after) d).conditions =
      before.map (·.expr) ++ c.nameCondition p.base.tier p.key operand :: after.map (·.expr) :=
  List.map_append

/-- The plan of the base query and those of its partitions, which have one more condition. -/
theorem plan_partition {b : Plan} (hb : c.plan l p.base = .ok b) :
    ∃ before after d, before.length = p.base.filters.length ∧
      (∀ e ∈ before.map (·.expr), e.parameterNames = []) ∧
      (∀ e ∈ after.map (·.expr), e.parameterNames = []) ∧
      b = c.planOf l p.base (before ++ after) d ∧
      ∀ l' v, b.Adds (p.entity c)
          (c.planOf l' p.base (before ++ p.valueCondition c (.literal (.string v)) :: after) d) ∧
        c.plan l' (p.partition v) = .ok (c.planOf l' p.base
          (before ++ p.valueCondition c (.literal (.string v)) :: after) d) := by
  obtain ⟨ks, d, hfault, ht, hks, hd, rfl⟩ := Corpus.plan_eq_ok hb
  obtain ⟨before, after, hbefore, hafter, rfl⟩ := Corpus.conditions_append.1 hks
  have hfree : ∀ {fs : List Filter} {ks : List Condition}, c.conditions p.base.tier fs = .ok ks →
      ∀ e ∈ ks.map (·.expr), e.parameterNames = [] := by
    intro fs ks hks e he
    obtain ⟨k, hk, rfl⟩ := List.mem_map.1 he
    obtain ⟨f, -, hf⟩ := (mem_mapM hks).1 hk
    exact Corpus.parameterNames_condition hf
  refine ⟨before, after, d, (mapM_eq_ok.1 hbefore).length_eq.symm, hfree hbefore, hfree hafter, rfl,
    fun l' v => ⟨Corpus.adds_planOf l l' c p.base rfl d, ?_⟩⟩
  · have hk := Corpus.condition_entityFilter p.key ht v
    have hconditions : c.conditions (p.partition v).tier (p.partition v).effectiveFilters =
        .ok (before ++ p.valueCondition c (.literal (.string v)) :: after) := by
      rw [effectiveFilters_partition]
      exact Corpus.conditions_around.2 ⟨before, _, after, hbefore, hk, hafter, rfl⟩
    exact Corpus.plan_of_parts (q := p.partition v) hfault ht hconditions hd

end PartitionedQuery

/-! ## The statement of a partition -/

namespace Corpus

/-- How a statement refers to a value, and the parameters that this takes. -/
inductive Writes (c : Corpus) (v : Value) : Expr → Parameters → Prop
  | inPlace : c.config.parameterize = false → Writes c v (.literal v) []
  | asParameter {name : String} :
    c.config.parameterize = true → Writes c v (.parameter name) [(name, v)]

section nameCondition

variable {c : Corpus} {tier : String} {kind : EntityKind}

theorem lift_nameCondition_parameter (h : c.config.parameterize = true) (v : Value) (n : Nat) :
    (c.lifting Expr.lifting).lift n (c.nameCondition tier kind (.literal v)) =
      (c.nameCondition tier kind (.parameter (Parameters.nameOf n)), [v]) := by
  rw [lifting, if_pos h]
  rfl

theorem lift_nameCondition_inPlace (h : c.config.parameterize = false) (v : Value) (n : Nat) :
    (c.lifting Expr.lifting).lift n (c.nameCondition tier kind (.literal v)) =
      (c.nameCondition tier kind (.literal v), []) := by
  rw [lifting, if_neg (by simp [h])]
  rfl

theorem exists_writes (c : Corpus) (tier : String) (kind : EntityKind) (v : Value) (n : Nat) :
    ∃ operand ws, (c.lifting Expr.lifting).lift n (c.nameCondition tier kind (.literal v)) =
        (c.nameCondition tier kind operand, ws) ∧
      c.Writes v operand ((ws.zipIdx n).map Parameters.entry) ∧
      (c.config.parameterize = false → ws = []) := by
  cases h : c.config.parameterize with
  | true => exact ⟨_, _, lift_nameCondition_parameter h v n, .asParameter h, nofun⟩
  | false => exact ⟨_, _, lift_nameCondition_inPlace h v n, .inPlace h, fun _ => rfl⟩

end nameCondition

end Corpus

/-- What a compiled statement is made of. -/
structure Pieces where
  required : List PathPattern
  conditions : List Expr
  carried : List Clause
  optional : List PathPattern
  ending : List Clause

/-- The statement consists of these pieces. -/
def Statement.Consists (s : Statement) (x : Pieces) : Prop :=
  s.Stages x.required (Clause.whereAll x.conditions) x.carried x.optional x.ending

namespace PartitionedQuery

/-- The pieces of a partition next to those of the base query, whose parameters are renamed. -/
structure Narrowed (p : PartitionedQuery) (c : Corpus) (columns : List String)
    (ρ : Equiv.Perm String) (operand : Expr) (x x' : Pieces) : Prop where
  /-- The `MATCH` binds what the base query requires, and the speaker or discourse. -/
  required : PathPattern.BindEach x.required (c.Requires p.base) ∧
    PathPattern.BindEach x'.required fun n => c.Requires p.base n ∨ n = p.entity c
  required_same : c.Requires p.base (p.entity c) → x'.required.Perm x.required
  required_added : ¬c.Requires p.base (p.entity c) →
    x'.required.Perm ((p.entity c).pattern c.hierarchy [] :: x.required)
  /-- The `OPTIONAL MATCH` clauses bind what only the output needs, but not the speaker or
  discourse. -/
  optional : PathPattern.BindEach x.optional
      (fun n => c.Shows p.base columns n ∧ ¬c.Requires p.base n) ∧
    PathPattern.BindEach x'.optional fun n =>
      (c.Shows p.base columns n ∧ ¬c.Requires p.base n) ∧ n ≠ p.entity c
  optional_removed : c.Shows p.base columns (p.entity c) ∧ ¬c.Requires p.base (p.entity c) →
    x.optional.Perm ((p.entity c).pattern c.hierarchy [] :: x'.optional)
  optional_same : ¬(c.Shows p.base columns (p.entity c) ∧ ¬c.Requires p.base (p.entity c)) →
    x'.optional.Perm x.optional
  /-- The new condition comes after those of the filters, in front of the one of the discourse. -/
  conditions : ∃ before after, before.length = p.base.filters.length ∧
    x.conditions = before ++ after ∧
    x'.conditions = before.map (Expr.rename ρ) ++
      c.nameCondition p.base.tier p.key operand :: after.map (Expr.rename ρ)
  /-- The `WITH` carries on the required aliases that are mentioned behind it. -/
  carried : x'.carried = if x'.optional.isEmpty then [] else
    [.carrying ((x'.required.flatMap PathPattern.introducedAliases).filter
      ((x'.optional.map (fun pattern => Clause.optionalMatching [pattern]) ++ x'.ending).flatMap
        Clause.aliases).contains)]
  ending_eq : p.base.intent ≠ .cache →
    x'.ending = x.ending.map (Clause.substitute fun name => .parameter (ρ name))
  /-- Cached rows have the speaker or discourse as well. -/
  ending_cache : p.base.intent = .cache → ∃ aliases aliases', x.ending = [.carrying aliases] ∧
    x'.ending = [.carrying aliases'] ∧
    (c.Requires p.base (p.entity c) → aliases'.Perm aliases) ∧
    (¬c.Requires p.base (p.entity c) → aliases'.Perm ((p.entity c).aliasName :: aliases))

/-- A partition has the patterns and cached aliases that it shares with the base query in the same
order. -/
structure InOrder (p : PartitionedQuery) (x x' : Pieces) : Prop where
  required : x.required.Sublist x'.required
  optional : x'.optional.Sublist x.optional
  cached : p.base.intent = .cache → ∀ aliases aliases', x.ending = [.carrying aliases] →
    x'.ending = [.carrying aliases'] → aliases.Sublist aliases'

variable {l l' : Listing} {c : Corpus} {p : PartitionedQuery} {v : String}

/-- The pieces of a plan with lifted conditions. -/
def pieces (c : Corpus) (b : Plan) (lifted : List Expr × List Value) : Pieces :=
  ⟨b.required.patterns b.hierarchy b.required, lifted.1, b.carryingClauses,
    b.optional.patterns b.hierarchy (b.required ++ b.optional),
    (c.lifted lifted.2.length b.endingClauses).1⟩

theorem consists_assembled (c : Corpus) (b : Plan) (lifted : List Expr × List Value) :
    (c.assembled b lifted).statement.Consists (pieces c b lifted) :=
  Corpus.stages_assembled b lifted

section Plans

variable {b b' : Plan} {lifted lifted' : List Expr × List Value}

theorem bindEach_required (hb : c.plan l p.base = .ok b) (h : b.Adds (p.entity c) b') :
    PathPattern.BindEach (b.required.patterns b.hierarchy b.required) (c.Requires p.base) ∧
      PathPattern.BindEach (b'.required.patterns b'.hierarchy b'.required)
        fun n => c.Requires p.base n ∨ n = p.entity c := by
  obtain ⟨hnodup, -⟩ := List.nodup_append'.1 h.nodup
  obtain ⟨hnodup', -⟩ := List.nodup_append'.1 h.nodup_added
  refine ⟨Group.bindEach_patterns hnodup fun n => Corpus.mem_required hb,
    Group.bindEach_patterns hnodup' fun n => ?_⟩
  rw [h.mem_required, Corpus.mem_required hb]

theorem bindEach_optional (hb : c.plan l p.base = .ok b) (h : b.Adds (p.entity c) b') :
    PathPattern.BindEach (b.optional.patterns b.hierarchy (b.required ++ b.optional))
        (fun n => c.Shows p.base b.ending.columns n ∧ ¬c.Requires p.base n) ∧
      PathPattern.BindEach (b'.optional.patterns b'.hierarchy (b'.required ++ b'.optional))
        fun n => (c.Shows p.base b.ending.columns n ∧ ¬c.Requires p.base n) ∧ n ≠ p.entity c := by
  obtain ⟨-, hnodup, -⟩ := List.nodup_append'.1 h.nodup
  obtain ⟨-, hnodup', -⟩ := List.nodup_append'.1 h.nodup_added
  refine ⟨Group.bindEach_patterns hnodup fun n => Corpus.mem_optional hb,
    Group.bindEach_patterns hnodup' fun n => ?_⟩
  rw [h.mem_optional, Corpus.mem_optional hb]

theorem carried_pieces {q : Query} (hb : c.plan l q = .ok b) :
    (pieces c b lifted).carried = if (pieces c b lifted).optional.isEmpty then [] else
      [.carrying (((pieces c b lifted).required.flatMap PathPattern.introducedAliases).filter
        (((pieces c b lifted).optional.map (fun pattern => Clause.optionalMatching [pattern]) ++
          (pieces c b lifted).ending).flatMap Clause.aliases).contains)] := by
  have hending : (c.lifted lifted.2.length b.endingClauses).1.flatMap Clause.aliases =
      b.endingClauses.flatMap Clause.aliases :=
    Clause.Lifts.flatMap_eq (Corpus.forall₂_lifted lifted.2.length b.endingClauses)
      Clause.Lifts.aliases
  show b.carryingClauses = _
  simp only [pieces]
  rw [Corpus.carryingClauses_eq hb, Group.introducedAliases_patterns, Plan.optionalClauses,
    List.isEmpty_map, List.flatMap_append, List.flatMap_append, hending]
  rfl

theorem lifted_carrying (c : Corpus) (n : Nat) (aliases : List String) :
    c.lifted n [.carrying aliases] = ([.carrying aliases], []) :=
  Corpus.lifted_of_plain (List.forall_mem_singleton.2 fun _ => rfl)

/-- The last clauses of a partition, behind as many more values as its condition has. -/
theorem ending_pieces (hb : c.plan l p.base = .ok b) (hb' : c.plan l' (p.partition v) = .ok b')
    (h : b.Adds (p.entity c) b') (n k d : Nat) :
    let ρ := Parameters.makingRoom n (d + (c.lifted (n + d) b.endingClauses).2.length) k
    (c.lifted (n + k + d) b'.endingClauses).2 = (c.lifted (n + d) b.endingClauses).2 ∧
      (p.base.intent ≠ .cache → (c.lifted (n + k + d) b'.endingClauses).1 =
        (c.lifted (n + d) b.endingClauses).1.map
          (Clause.substitute fun name => .parameter (ρ name))) ∧
      (p.base.intent = .cache → ∃ aliases aliases',
        (c.lifted (n + d) b.endingClauses).1 = [.carrying aliases] ∧
        (c.lifted (n + k + d) b'.endingClauses).1 = [.carrying aliases'] ∧
        (p.entity c ∈ b.required → aliases'.Perm aliases) ∧
        (p.entity c ∉ b.required → aliases'.Perm ((p.entity c).aliasName :: aliases))) := by
  intro ρ
  by_cases hi : p.base.intent = .cache
  · obtain ⟨heq, heq', haliases⟩ := Corpus.endingClauses_cache hb h hi
    rw [heq, heq', lifted_carrying, lifted_carrying]
    exact ⟨rfl, fun hnot => absurd hi hnot, fun _ => ⟨_, _, rfl, rfl, haliases⟩⟩
  · have hmoved := Corpus.lifted_endingClauses_behind hb (n := n) (d := d) (b := k) (Nat.le_refl _)
    rw [Corpus.endingClauses_added hb hb' rfl rfl h hi, hmoved]
    exact ⟨rfl, fun _ => rfl, fun hc => absurd hc hi⟩

/-- When the plans have their nodes in the same order, so do the pieces. -/
theorem inOrder_pieces (hb : c.plan l p.base = .ok b) (h : b.Narrows (p.entity c) b') :
    p.InOrder (pieces c b lifted) (pieces c b' lifted') where
  required := by
    by_cases hmem : p.entity c ∈ b.required
    · simp only [pieces, h.required_patterns.1 hmem, List.Sublist.refl]
    · exact (h.required_patterns.2 hmem).sublist
  optional := by
    by_cases hmem : p.entity c ∈ b.optional
    · exact (h.optional_patterns.1 hmem).sublist
    · simp only [pieces, h.optional_patterns.2 hmem, List.Sublist.refl]
  cached hi aliases aliases' haliases haliases' := by
    obtain ⟨heq, heq', -⟩ := Corpus.endingClauses_cache hb h.toAdds hi
    simp only [pieces, heq, heq', lifted_carrying, List.cons.injEq, Clause.carrying.injEq,
      and_true] at haliases haliases'
    subst haliases haliases'
    exact h.aliases_sublist (Corpus.optional_of_isMutation hb (by rw [hi]; rfl))

end Plans

section Statements

variable {b b' : Plan} {es es' : List Expr} {vs vs' ws : List Value} {operand : Expr}

/-- The room that the values of a partition take among those of the base query: `count` values come
behind the conditions. -/
noncomputable def room (vs ws vs' : List Value) (count : Nat) : Equiv.Perm String :=
  Parameters.makingRoom vs.length (vs'.length + count) ws.length

theorem narrowed_pieces (hb : c.plan l p.base = .ok b) (hb' : c.plan l' (p.partition v) = .ok b')
    (h : b.Adds (p.entity c) b') (hes : es.length = p.base.filters.length) :
    let ρ := room vs ws vs' (c.lifted (vs ++ vs').length b.endingClauses).2.length
    p.Narrowed c b.ending.columns ρ operand (pieces c b (es ++ es', vs ++ vs'))
      (pieces c b' (es.map (Expr.rename ρ) ++
        c.nameCondition p.base.tier p.key operand :: es'.map (Expr.rename ρ),
          vs ++ ws ++ vs')) := by
  intro ρ
  have hcount : (vs ++ vs').length = vs.length + vs'.length := List.length_append
  have hcount' : (vs ++ ws ++ vs').length = vs.length + ws.length + vs'.length := by
    rw [List.length_append, List.length_append]
  obtain ⟨-, hending, hcache⟩ := ending_pieces hb hb' h vs.length ws.length vs'.length
  have hrequired := h.required_patterns_perm
  have hoptional := h.optional_patterns_perm
  rw [Corpus.mem_required hb] at hrequired
  rw [Corpus.mem_optional hb] at hoptional
  rw [← hcount, ← hcount'] at hending
  rw [← hcount, ← hcount', Corpus.mem_required hb] at hcache
  exact {
    required := bindEach_required hb h
    required_same := hrequired.1
    required_added := hrequired.2
    optional := bindEach_optional hb h
    optional_removed := hoptional.1
    optional_same := hoptional.2
    conditions := ⟨es, es', hes, rfl, rfl⟩
    carried := carried_pieces hb'
    ending_eq := hending
    ending_cache := hcache }

theorem parameters_partition (hb : c.plan l p.base = .ok b)
    (hb' : c.plan l' (p.partition v) = .ok b') (h : b.Adds (p.entity c) b') (es₁ es₂ : List Expr) :
    let ρ := room vs ws vs' (c.lifted (vs ++ vs').length b.endingClauses).2.length
    ((ws.zipIdx vs.length).map Parameters.entry ++
        (c.assembled b (es₁, vs ++ vs')).parameters.map (Prod.map ρ id)).Perm
      (c.assembled b' (es₂, vs ++ ws ++ vs')).parameters := by
  intro ρ
  have hcount : (vs ++ vs').length = vs.length + vs'.length := List.length_append
  have hcount' : (vs ++ ws ++ vs').length = vs.length + ws.length + vs'.length := by
    rw [List.length_append, List.length_append]
  obtain ⟨hvalues, -⟩ := ending_pieces hb hb' h vs.length ws.length vs'.length
  rw [← hcount, ← hcount'] at hvalues
  have hparameters := Parameters.ofValues_around vs ws
    (vs' ++ (c.lifted (vs ++ vs').length b.endingClauses).2)
  rw [List.length_append, ← List.append_assoc, ← List.append_assoc] at hparameters
  show (_ ++ (Parameters.ofValues ((vs ++ vs') ++ _)).map _).Perm (Parameters.ofValues
    ((vs ++ ws ++ vs') ++ (c.lifted (vs ++ ws ++ vs').length b'.endingClauses).2))
  rw [hvalues]
  exact hparameters

end Statements

/-- A partition is the base query with one more condition, whatever its value is. -/
theorem narrowed_partition {s : CompiledStatement} (hs : c.compileIn l p.base = .ok s)
    (l' : Listing) (v : String) :
    ∃ s', c.compileIn l' (p.partition v) = .ok s' ∧ s'.columns = s.columns ∧ s'.mode = s.mode ∧
      ∃ ρ operand entries x x', (c.config.parameterize = false → ρ = 1) ∧
        c.Writes (.string v) operand entries ∧ s.statement.Consists x ∧ s'.statement.Consists x' ∧
        p.Narrowed c s.columns ρ operand x x' ∧
        (c.DistinctAliases (p.partition v) s.columns → p.InOrder x x') ∧
        (entries ++ s.parameters.map (Prod.map ρ id)).Perm s'.parameters := by
  obtain ⟨b, hb, -⟩ := Corpus.compile_eq_ok hs
  obtain ⟨before, after, d, hlength, hbefore, hafter, hplan, hpartition⟩ := plan_partition hb
  obtain ⟨hadds, hb'⟩ := hpartition l' v
  obtain ⟨es, es', vs, vs', hes, hlift, hinserted⟩ := c.liftedConditions_inserted hbefore hafter
  obtain ⟨operand, ws, hadded, hwrites, hnone⟩ :=
    c.exists_writes p.base.tier p.key (.string v) vs.length
  have hlift' := hinserted _ _ ws (c.lifted (vs ++ vs').length b.endingClauses).2.length hadded
  have hcompiled := Corpus.compile_of_plan hb
  have hcompiled' := Corpus.compile_of_plan hb'
  have hconditions : b.conditions = before.map (·.expr) ++ after.map (·.expr) := by
    rw [hplan]
    exact List.map_append
  rw [hconditions, hlift] at hcompiled
  rw [conditions_planOf, hlift'] at hcompiled'
  obtain rfl := Except.ok.inj (hs.symm.trans hcompiled)
  refine ⟨_, hcompiled', congrArg Ending.columns hadds.ending_eq,
    congrArg Ending.mode hadds.ending_eq, room vs ws vs' _, operand, _, _, _, fun hc => ?_,
    hwrites, consists_assembled c b _, consists_assembled c _ _,
    narrowed_pieces hb hb' hadds ?_, fun hdistinct => ?_, parameters_partition hb hb' hadds _ _⟩
  · rw [room, hnone hc]
    exact Parameters.makingRoom_zero
  · rw [hes, List.length_map, hlength]
  · exact inOrder_pieces hb (Corpus.narrows_of_distinct hb hb' hadds (hadds.ending_eq ▸ hdistinct))

/-- The partitions of a query are compiled to one plan, each with its own condition in between. -/
theorem compile_partitions {s : CompiledStatement} (hs : c.compileIn l p.base = .ok s) :
    ∃ (b : Plan) (es es' : List Expr) (vs vs' : List Value), b.ending.columns = s.columns ∧
      b.ending.mode = s.mode ∧ es.length = p.base.filters.length ∧
      ∀ v e ws, (c.lifting Expr.lifting).lift vs.length
          (c.nameCondition p.base.tier p.key (.literal (.string v))) = (e, ws) →
        c.compileIn l (p.partition v) = .ok (c.assembled b
          (es.map (Expr.rename (room vs ws vs' 0)) ++
            e :: es'.map (Expr.rename (room vs ws vs' 0)), vs ++ ws ++ vs')) := by
  obtain ⟨b, hb, -⟩ := Corpus.compile_eq_ok hs
  obtain ⟨before, after, d, hlength, hbefore, hafter, hplan, hpartition⟩ := plan_partition hb
  obtain ⟨es, es', vs, vs', hes, hlift, hinserted⟩ := c.liftedConditions_inserted hbefore hafter
  have hending : b.ending = d.ending := by rw [hplan]; rfl
  obtain rfl := Except.ok.inj (hs.symm.trans (Corpus.compile_of_plan hb))
  refine ⟨c.planOf l p.base (before ++ p.valueCondition c (.literal .null) :: after) d, es, es', vs,
    vs', congrArg Ending.columns hending.symm, congrArg Ending.mode hending.symm,
    by rw [hes, List.length_map, hlength], fun v e ws hadded => ?_⟩
  have hnodes : (before ++ p.valueCondition c (.literal (.string v)) :: after).flatMap (·.nodes) =
      (before ++ p.valueCondition c (.literal .null) :: after).flatMap (·.nodes) := by
    rw [List.flatMap_append, List.flatMap_append, List.flatMap_cons, List.flatMap_cons]
    rfl
  have hcompiled := Corpus.compile_of_plan (hpartition l v).2
  rw [conditions_planOf, hinserted _ e ws 0 hadded, Corpus.planOf_congr hnodes] at hcompiled
  exact hcompiled

variable {s : CompiledStatement}

/-- With parameters, only the value of one parameter depends on the value of a partition. -/
theorem compile_partition_parameter (hs : c.compileIn l p.base = .ok s)
    (hc : c.config.parameterize = true) :
    ∃ (t : Statement) (front : Parameters) (name : String) (back : Parameters),
      ∀ v l', l = l' ∨ c.DistinctAliases (p.partition v) s.columns →
        c.compileIn l' (p.partition v) =
          .ok ⟨t, front ++ (name, .string v) :: back, s.columns, s.mode⟩ := by
  obtain ⟨b, es, es', vs, vs', hcolumns, hmode, -, hcompile⟩ := compile_partitions hs
  let ρ := room vs [Value.null] vs' 0
  let es₀ := es.map (Expr.rename ρ) ++ c.nameCondition p.base.tier p.key
    (.parameter (Parameters.nameOf vs.length)) :: es'.map (Expr.rename ρ)
  let us := (c.lifted (vs ++ [Value.null] ++ vs').length b.endingClauses).2
  obtain ⟨front, name, back, hvalues⟩ := Parameters.exists_ofValues_around vs (vs' ++ us)
  refine ⟨(c.assembled b (es₀, vs ++ [Value.null] ++ vs')).statement, front, name, back,
    fun v l' hl => Corpus.compile_eq_of_listing (l := l) ?_ hl⟩
  have hlift : (c.lifting Expr.lifting).lift vs.length
      (c.nameCondition p.base.tier p.key (.literal (.string v))) = _ :=
    Corpus.lift_nameCondition_parameter hc (.string v) vs.length
  have hlength : (vs ++ [Value.string v] ++ vs').length = (vs ++ [Value.null] ++ vs').length := by
    simp
  have hstatement : (c.assembled b (es₀, vs ++ [Value.string v] ++ vs')).statement =
      (c.assembled b (es₀, vs ++ [Value.null] ++ vs')).statement :=
    Corpus.statement_assembled_congr rfl hlength
  have hparameters : (c.assembled b (es₀, vs ++ [Value.string v] ++ vs')).parameters =
      front ++ (name, .string v) :: back := by
    rw [← hvalues]
    show Parameters.ofValues (vs ++ [Value.string v] ++ vs' ++
      (c.lifted (vs ++ [Value.string v] ++ vs').length b.endingClauses).2) = _
    rw [hlength, List.append_assoc, List.append_assoc]
    rfl
  rw [hcompile v _ _ hlift, ← hstatement, ← hparameters, ← hcolumns, ← hmode]
  rfl

/-- Without parameters, only one literal depends on the value of a partition. -/
theorem compile_partition_inPlace (hs : c.compileIn l p.base = .ok s)
    (hc : c.config.parameterize = false) :
    ∃ (t : Statement) (before after : List Expr), before.length = p.base.filters.length ∧
      ∀ v l', l = l' ∨ c.DistinctAliases (p.partition v) s.columns →
        c.compileIn l' (p.partition v) = .ok ⟨t.withConditions
          (before ++ c.nameCondition p.base.tier p.key (.literal (.string v)) :: after),
          [], s.columns, s.mode⟩ := by
  obtain ⟨b, es, es', vs, vs', hcolumns, hmode, hlength, hcompile⟩ := compile_partitions hs
  let ρ := room vs [] vs' 0
  let es₀ := fun v : String => es.map (Expr.rename ρ) ++
    c.nameCondition p.base.tier p.key (.literal (.string v)) :: es'.map (Expr.rename ρ)
  refine ⟨(c.assembled b (es₀ "", vs ++ [] ++ vs')).statement, es.map (Expr.rename ρ),
    es'.map (Expr.rename ρ), by rw [List.length_map, hlength],
    fun v l' hl => Corpus.compile_eq_of_listing (l := l) ?_ hl⟩
  have hlift : (c.lifting Expr.lifting).lift vs.length
      (c.nameCondition p.base.tier p.key (.literal (.string v))) = _ :=
    Corpus.lift_nameCondition_inPlace hc (.string v) vs.length
  have hstatement := Corpus.withConditions_assembled (c := c) b (es₀ "", vs ++ [] ++ vs')
    (es₀ v, vs ++ [] ++ vs') (by simp [es₀]) rfl
  have hcompiled : c.compileIn l (p.partition v) =
      .ok (c.assembled b (es₀ v, vs ++ [] ++ vs')) := hcompile v _ _ hlift
  have hparameters : (c.assembled b (es₀ v, vs ++ [] ++ vs')).parameters = [] := by
    obtain ⟨b', -, -, -, -, hvalues⟩ := Corpus.compile_eq_ok hcompiled
    rw [hvalues, Corpus.lifted, hc]
    exact Parameters.ofValues_nil
  rw [hcompiled, hstatement, ← hparameters, ← hcolumns, ← hmode]
  rfl

end PartitionedQuery

/-- A query for the phones of the discourse `d` that shows their speakers, once for each speaker. -/
def PartitionedQuery.speakersOfDiscourse : PartitionedQuery :=
  ⟨⟨"phone", some "d", [⟨⟨["phone", "syllable", "label"]⟩, .equal, .literal (.string "a")⟩],
    .project ⟨[⟨⟨["phone", "speaker", "name"]⟩, "speaker"⟩], [], [], none, false⟩⟩, .speaker⟩

end AnnotationQuery
