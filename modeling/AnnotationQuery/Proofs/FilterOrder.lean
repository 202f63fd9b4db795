import AnnotationQuery.Proofs.Conditions
import AnnotationQuery.Proofs.Renumbering
import Mathlib.GroupTheory.Perm.ViaEmbedding

/-!
# The order of filters

The order of a query's filters decides on the order of its conditions and on the numbers of their
parameters, and on nothing else.

Results:
* `Parameters.renamed_nameOf`: a permutation of numbers renames parameters.
* `Corpus.rename_assembled`: renaming the parameters of the conditions.
* `Corpus.compile_permuteFilters`: a query with its filters in another order.
-/

namespace AnnotationQuery

/-! ## Renaming parameters -/

/-- The expression with its parameters renamed. -/
def Expr.rename (ρ : String → String) (e : Expr) : Expr :=
  e.substitute fun name => .parameter (ρ name)

/-- The statement with its parameters renamed. -/
def Statement.rename (ρ : String → String) (s : Statement) : Statement :=
  s.substitute fun name => .parameter (ρ name)

namespace Parameters

/-- The renaming of parameters that a permutation of their numbers stands for. -/
noncomputable def renamed (π : Equiv.Perm Nat) : Equiv.Perm String :=
  π.viaEmbedding ⟨nameOf, nameOf_injective⟩

theorem renamed_nameOf (π : Equiv.Perm Nat) (n : Nat) : renamed π (nameOf n) = nameOf (π n) :=
  π.viaEmbedding_apply ⟨nameOf, nameOf_injective⟩ n

theorem renamed_one : renamed 1 = 1 :=
  (Equiv.Perm.viaEmbeddingHom ⟨nameOf, nameOf_injective⟩).map_one

/-- The map of the same values under other numbers. -/
theorem ofValues_perm_of_zipIdx {vs vs' : List Value} {π : Equiv.Perm Nat}
    (h : (vs.zipIdx.map (Prod.map id π)).Perm vs'.zipIdx) :
    ((ofValues vs).map (Prod.map (renamed π) id)).Perm (ofValues vs') := by
  have hnames : (vs.zipIdx.map fun entry => (nameOf entry.2, entry.1)).map
      (Prod.map (renamed π) id) =
      (vs.zipIdx.map (Prod.map id π)).map fun entry => (nameOf entry.2, entry.1) := by
    rw [List.map_map, List.map_map]
    refine List.map_congr_left fun entry _ => ?_
    exact Prod.ext (renamed_nameOf π entry.2) rfl
  refine ((ofValues_perm vs).map _).trans ?_
  rw [hnames]
  exact (h.map _).trans (ofValues_perm vs').symm

end Parameters

namespace Corpus

variable {l : Listing} {c : Corpus} {q : Query} {p : Plan}

theorem lawful_endingClauses (hp : c.plan l q = .ok p) :
    (c.lifting Clause.lifting).list.Lawful p.endingClauses := by
  refine Lifting.lawful_list fun k hk => lawful_lifting (Clause.lawful ?_)
  refine parameterNames_plan hp k ?_
  rw [p.clauses_eq]
  exact List.mem_cons_of_mem _ (List.mem_append_right _ hk)

/-- Renaming parameters of the conditions changes nothing but the conditions. -/
theorem rename_assembled (hp : c.plan l q = .ok p) {ρ : String → String}
    {lifted : List Expr × List Value}
    (hρ : ∀ n, lifted.2.length ≤ n → ρ (Parameters.nameOf n) = Parameters.nameOf n) :
    (c.assembled p lifted).statement.rename ρ =
      (c.assembled p (lifted.1.map (Expr.rename ρ), lifted.2)).statement := by
  have hending : (c.lifted lifted.2.length p.endingClauses).1.map
      (Clause.substitute fun name => .parameter (ρ name)) =
      (c.lifted lifted.2.length p.endingClauses).1 := by
    have hrenames := (lawful_endingClauses hp).renames lifted.2.length lifted.2.length
      (fun name => .parameter (ρ name)) fun i _ => by rw [hρ _ (Nat.le_add_right _ i)]
    rw [← lifted_eq] at hrenames
    change List.map (Clause.lifting.substitute _) _ = _
    rw [← c.substitute_lifting]
    exact hrenames
  have hwhere : (Clause.whereAll lifted.1).map
      (Clause.substitute fun name => .parameter (ρ name)) =
      Clause.whereAll (lifted.1.map (Expr.rename ρ)) := by
    cases lifted.1 <;> rfl
  rw [Statement.rename, Statement.substitute,
    map_assembled p lifted (fun _ => rfl) (fun _ => rfl) fun _ => rfl, hending, hwhere]
  rfl

/-! ## Conditions in another order -/

theorem zipIdx_append_perm {vs vs' : List Value} {π : Equiv.Perm Nat}
    (h : (vs.zipIdx.map (Prod.map id π)).Perm vs'.zipIdx) (hfix : ∀ x, vs.length ≤ x → π x = x)
    (ws : List Value) :
    (((vs ++ ws).zipIdx).map (Prod.map id π)).Perm (vs' ++ ws).zipIdx := by
  have hlength : vs.length = vs'.length := by simpa using h.length_eq
  have hlast : (ws.zipIdx vs.length).map (Prod.map id π) = ws.zipIdx vs.length := by
    refine (List.map_congr_left fun entry hmem => ?_).trans (List.map_id _)
    exact Prod.ext rfl (hfix _ (List.le_snd_of_mem_zipIdx hmem))
  rw [List.zipIdx_append, List.zipIdx_append, List.map_append, Nat.zero_add, Nat.zero_add, hlast,
    hlength]
  exact h.append_right _

/-- The first conditions in another order, the others behind them as before: the parameters get
other numbers, and apart from that each condition is lifted to the same one. -/
theorem liftedConditions_permuted (c : Corpus) {n : Nat} {e : Fin n → Expr} {ds : List Expr}
    (he : ∀ i, (e i).parameterNames = []) (hds : ∀ d ∈ ds, d.parameterNames = [])
    (σ : Equiv.Perm (Fin n)) :
    ∃ π : Equiv.Perm Nat, (c.config.parameterize = false → π = 1) ∧
      (∀ x, (c.liftedConditions (List.ofFn e ++ ds)).2.length ≤ x → π x = x) ∧
      ((c.liftedConditions (List.ofFn e ++ ds)).2.zipIdx.map (Prod.map id π)).Perm
        (c.liftedConditions (List.ofFn (e ∘ σ) ++ ds)).2.zipIdx ∧
      ∃ (es : Fin n → Expr) (last : List Expr), last.length = ds.length ∧
        (c.liftedConditions (List.ofFn e ++ ds)).1 = List.ofFn es ++ last ∧
        (c.liftedConditions (List.ofFn (e ∘ σ) ++ ds)).1 =
          (List.ofFn (es ∘ σ) ++ last).map (Expr.rename (Parameters.renamed π)) := by
  have hlawful : ∀ i, (c.lifting Expr.lifting).Lawful (e i) := fun i =>
    lawful_lifting (Expr.lawful (he i))
  have hlast : (c.lifting Expr.lifting).list.Lawful ds :=
    Lifting.lawful_list fun d hd => lawful_lifting (Expr.lawful (hds d hd))
  obtain ⟨π, hfix, hvalues, es, hes, hrenames⟩ := Lifting.lift_permuted hlawful σ
  rw [← liftedConditions] at hfix hes hrenames
  rw [← liftedConditions, ← liftedConditions] at hvalues
  have hrename : (c.lifting Expr.lifting).substitute
      (fun name => .parameter (Parameters.renamed π name)) =
        Expr.rename (Parameters.renamed π) := by
    rw [substitute_lifting]
    rfl
  have hpermuted := hrenames (fun name => .parameter (Parameters.renamed π name)) fun x =>
    congrArg Expr.parameter (Parameters.renamed_nameOf π x)
  have hsame := hlast.renames (c.liftedConditions (List.ofFn e)).2.length
    (c.liftedConditions (List.ofFn e)).2.length
    (fun name => .parameter (Parameters.renamed π name)) fun i _ => by
      rw [Parameters.renamed_nameOf, hfix _ (Nat.le_add_right _ i)]
  rw [hrename] at hpermuted
  have hlength : (c.liftedConditions (List.ofFn e)).2.length =
      (c.liftedConditions (List.ofFn (e ∘ σ))).2.length := by
    simpa using hvalues.length_eq
  refine ⟨π, fun hc => ?_, fun x hx => hfix x ?_, ?_, es,
    ((c.lifting Expr.lifting).list.lift (c.liftedConditions (List.ofFn e)).2.length ds).1,
    length_liftEach _ _, ?_, ?_⟩
  · have hnone : (c.liftedConditions (List.ofFn e)).2 = [] := by
      rw [liftedConditions, lifting, hc]
      exact congrArg Prod.snd (liftEach_of_plain fun _ _ _ => rfl)
    refine Equiv.ext fun x => hfix x ?_
    rw [hnone]
    exact Nat.zero_le x
  · rw [liftedConditions_append, List.length_append] at hx
    exact Nat.le_of_add_right_le hx
  · rw [liftedConditions_append, liftedConditions_append, ← hlength]
    exact zipIdx_append_perm hvalues hfix _
  · rw [liftedConditions_append]
    exact congrArg (· ++ _) hes
  · rw [liftedConditions_append, ← hlength, List.map_append, List.map_ofFn]
    refine congrArg₂ (· ++ ·) hpermuted (hsame.symm.trans ?_)
    exact congrFun (congrArg List.map hrename) _

end Corpus

/-! ## Filters in another order -/

/-- The query with its filters in another order. -/
def Query.permuteFilters (q : Query) (σ : Equiv.Perm (Fin q.filters.length)) : Query :=
  q.withFilters (List.ofFn (q.filters.get ∘ σ))

theorem Query.effectiveFilters_permuteFilters (q : Query) (σ : Equiv.Perm (Fin q.filters.length)) :
    (q.permuteFilters σ).effectiveFilters.Perm q.effectiveFilters := by
  have hperm := Equiv.Perm.ofFn_comp_perm σ q.filters.get
  rw [List.ofFn_get] at hperm
  exact hperm.append_right _

namespace Corpus

variable {l l' : Listing} {c : Corpus} {q : Query}

/-- Whether a query compiles does not depend on the order of its filters. -/
theorem exists_compile_permuteFilters (σ : Equiv.Perm (Fin q.filters.length)) :
    (∃ s, c.compileIn l q = .ok s) ↔ ∃ s, c.compileIn l' (q.permuteFilters σ) = .ok s := by
  have hmem : ∀ f, f ∈ q.effectiveFilters ↔ f ∈ (q.permuteFilters σ).effectiveFilters := fun f =>
    (q.effectiveFilters_permuteFilters σ).mem_iff.symm
  refine exists_compile_iff ?_
  simp only [conditions, exists_mapM_eq_ok, hmem]
  rfl

/-- The conditions of filters that stand in front of others. -/
theorem conditions_ofFn {tier : String} {n : Nat} {f : Fin n → Filter} {k : Fin n → Condition}
    {fs : List Filter} {ks : List Condition} (hk : ∀ i, c.condition tier (f i) = .ok (k i))
    (hks : c.conditions tier fs = .ok ks) :
    c.conditions tier (List.ofFn f ++ fs) = .ok (List.ofFn k ++ ks) := by
  rw [conditions] at hks ⊢
  rw [List.mapM_append, mapM_ofFn hk, hks]
  rfl

/-- A query and the one with its filters in another order are compiled to the same plan, and those
of their conditions that belong to filters come in the order of the filters. -/
theorem exists_assembled_permuted {s s' : CompiledStatement}
    {σ : Equiv.Perm (Fin q.filters.length)} (hs : c.compileIn l q = .ok s)
    (hs' : c.compileIn l (q.permuteFilters σ) = .ok s')
    (hdistinct : c.DistinctAliases q s.columns) :
    ∃ (p : Plan) (e : Fin q.filters.length → Expr) (ds : List Expr), c.plan l q = .ok p ∧
      (∀ i, (e i).parameterNames = []) ∧ (∀ d ∈ ds, d.parameterNames = []) ∧
      ds.length = q.discourse.toList.length ∧
      s = c.assembled p (c.liftedConditions (List.ofFn e ++ ds)) ∧
      s' = c.assembled p (c.liftedConditions (List.ofFn (e ∘ σ) ++ ds)) := by
  obtain ⟨ks₀, hks₀⟩ := exists_conditions hs
  have hok : ∀ f ∈ q.effectiveFilters, ∃ k, c.condition q.tier f = .ok k :=
    exists_mapM_eq_ok.1 ⟨ks₀, hks₀⟩
  choose k hk using fun i => hok (q.filters.get i) (List.mem_append_left _ (q.filters.get_mem i))
  obtain ⟨ks, hks⟩ := exists_mapM_eq_ok.2 fun f hf => hok f (List.mem_append_right q.filters hf)
  have hconditions : c.conditions q.tier q.effectiveFilters = .ok (List.ofFn k ++ ks) := by
    have hfilters : q.effectiveFilters = List.ofFn q.filters.get ++
        (q.discourse.map (q.entityFilter .discourse)).toList := by
      rw [List.ofFn_get]
      rfl
    rw [hfilters]
    exact conditions_ofFn hk hks
  have hconditions' : c.conditions q.tier (q.permuteFilters σ).effectiveFilters =
      .ok (List.ofFn (k ∘ σ) ++ ks) :=
    conditions_ofFn (fun i => hk (σ i)) hks
  have hnodes : ∀ n, n ∈ (List.ofFn k ++ ks).flatMap (·.nodes) ↔
      n ∈ (List.ofFn (k ∘ σ) ++ ks).flatMap (·.nodes) := fun n =>
    (((Equiv.Perm.ofFn_comp_perm σ k).symm.append_right ks).flatMap_right _).mem_iff
  obtain ⟨p, hp, rfl, rfl⟩ := compile_withFilters hs hs' hdistinct hconditions hconditions' hnodes
  refine ⟨p, fun i => (k i).expr, ks.map (·.expr), hp, fun i => parameterNames_condition (hk i),
    fun d hd => ?_, ?_, ?_, ?_⟩
  · obtain ⟨k, hmem, rfl⟩ := List.mem_map.1 hd
    obtain ⟨f, -, hf⟩ := (mem_mapM hks).1 hmem
    exact parameterNames_condition hf
  · rw [List.length_map, ← (mapM_eq_ok.1 hks).length_eq]
    cases q.discourse <;> rfl
  · rw [List.map_append, List.map_ofFn]
    rfl
  · rw [List.map_append, List.map_ofFn]
    rfl

/-- A query with its filters in another order compiles if and only if it does so in the first place.
If different nodes have different aliases, the columns and the mode are the same, and up to a
renaming of parameters so are the map of their values and all clauses but the conditions; these come
in the new order, the one of the discourse last. There is nothing to be renamed when literals stay
in place. -/
theorem compile_permuteFilters (l l' : Listing) (c : Corpus) (q : Query)
    (σ : Equiv.Perm (Fin q.filters.length)) :
    ((∃ s, c.compileIn l q = .ok s) ↔ ∃ s, c.compileIn l' (q.permuteFilters σ) = .ok s) ∧
    ∀ s s', c.compileIn l q = .ok s → c.compileIn l' (q.permuteFilters σ) = .ok s' →
      c.DistinctAliases q s.columns →
      s'.columns = s.columns ∧ s'.mode = s.mode ∧
      ∃ ρ : Equiv.Perm String, (c.config.parameterize = false → ρ = 1) ∧
        (s.parameters.map (Prod.map ρ id)).Perm s'.parameters ∧
        s'.statement = (s.statement.rename ρ).withConditions s'.statement.conditions ∧
        ∃ (conditions : Fin q.filters.length → Expr) (last : List Expr),
          last.length = q.discourse.toList.length ∧
          s.statement.conditions = List.ofFn conditions ++ last ∧
          s'.statement.conditions = (List.ofFn (conditions ∘ σ) ++ last).map (Expr.rename ρ) := by
  refine ⟨exists_compile_permuteFilters σ, fun s s' hs hs' hdistinct => ?_⟩
  have hs := compile_eq_of_distinct hs hdistinct l'
  obtain ⟨p, e, ds, hp, he, hds, hlength, rfl, rfl⟩ := exists_assembled_permuted hs hs' hdistinct
  obtain ⟨π, hone, hfix, hvalues, es, last, hlast, hes, hes'⟩ :=
    c.liftedConditions_permuted he hds σ
  generalize c.liftedConditions (List.ofFn e ++ ds) = lifted at hfix hvalues hes
  generalize c.liftedConditions (List.ofFn (e ∘ σ) ++ ds) = lifted' at hvalues hes'
  have hcount : lifted.2.length = lifted'.2.length := by simpa using hvalues.length_eq
  have hrenamed : (c.assembled p lifted).statement.rename (Parameters.renamed π) =
      (c.assembled p (lifted.1.map (Expr.rename (Parameters.renamed π)), lifted.2)).statement :=
    rename_assembled hp fun n hn => by rw [Parameters.renamed_nameOf, hfix n hn]
  have hother : (c.assembled p (lifted.1.map (Expr.rename (Parameters.renamed π)),
      lifted.2)).statement.withConditions lifted'.1 = (c.assembled p lifted').statement := by
    refine withConditions_assembled p _ lifted' ?_ hcount
    rw [hes, hes']
    simp
  refine ⟨rfl, rfl, Parameters.renamed π, fun hc => ?_, ?_, ?_, es, last, hlast.trans hlength,
    ?_, ?_⟩
  · rw [hone hc, Parameters.renamed_one]
  · simp only [assembled, ← hcount]
    exact Parameters.ofValues_perm_of_zipIdx (zipIdx_append_perm hvalues hfix _)
  · rw [hrenamed, conditions_assembled, hother]
  · rw [conditions_assembled, hes]
  · rw [conditions_assembled, hes']

end Corpus

/-- A query for the phones `b` in the syllables `a` of the discourse `d`, to be deleted. -/
def Query.ofTwoFilters : Query :=
  ⟨"phone", some "d", [⟨⟨["phone", "syllable", "label"]⟩, .equal, .literal (.string "a")⟩,
    ⟨⟨["phone", "label"]⟩, .equal, .literal (.string "b")⟩], .delete⟩

theorem Corpus.compile_permuteFilters_small :
    ∃ s s', small.compileIn .arrival .ofTwoFilters = .ok s ∧
      small.compileIn .reversed (Query.ofTwoFilters.permuteFilters Fin.revPerm) = .ok s' ∧
      small.DistinctAliases .ofTwoFilters s.columns ∧
      ∃ ρ : Equiv.Perm String, (s.parameters.map (Prod.map ρ id)).Perm s'.parameters ∧
        s'.statement = (s.statement.rename ρ).withConditions s'.statement.conditions := by
  have hok : (small.compileIn .arrival .ofTwoFilters).toOption.isSome = true := by decide
  obtain ⟨s, hs⟩ := exists_eq_ok hok
  have haliases : (small.plan .arrival .ofTwoFilters).toOption.map (fun p =>
      (p.required ++ p.optional).map Node.aliasName) = some ["node_phone", "type_node_phone",
        "node_phone_discourse", "node_phone_syllable", "type_node_phone_syllable"] := by decide
  have hdistinct := distinctAliases_of_plan hs haliases (by decide)
  obtain ⟨hiff, hsame⟩ := compile_permuteFilters .arrival .reversed small .ofTwoFilters Fin.revPerm
  obtain ⟨s', hs'⟩ := hiff.1 ⟨s, hs⟩
  obtain ⟨-, -, ρ, -, hparameters, hstatement, -⟩ := hsame s s' hs hs' hdistinct
  exact ⟨s, s', hs, hs', hdistinct, ρ, hparameters, hstatement⟩

end AnnotationQuery
