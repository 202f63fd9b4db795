import AnnotationQuery.Proofs.Plan

/-!
# The stages of a statement

The statement of a plan goes through stages: `MATCH`, `WHERE`, `WITH`, the `OPTIONAL MATCH` clauses
and what is done with the rows. Its literals may be replaced by parameters, which happens clause by
clause and touches only conditions and the last clauses.

Results:
* `Corpus.lifted_append`, `Corpus.lifted_of_plain`: lifting goes from clause to clause and leaves
  those without literals as they are.
* `Corpus.lifted_clauses`: of the clauses of a plan only the conditions and the last clauses are
  lifted.
* `Statement.Stages.matching_mem_iff`, `Statement.Stages.optionalMatching_mem_iff`: what a statement
  with these stages matches.
-/

namespace AnnotationQuery

/-! ## Lifting literals -/

section liftEach

variable {α : Type} {lift : Nat → α → α × List Value}

theorem forall₂_liftEach (n : Nat) (as : List α) :
    List.Forall₂ (fun a a' => ∃ k, a' = (lift k a).1) as (liftEach lift n as).1 := by
  induction as generalizing n with
  | nil => exact .nil
  | cons a as ih => exact .cons ⟨n, rfl⟩ (ih _)

theorem liftEach_append (n : Nat) (as bs : List α) :
    liftEach lift n (as ++ bs) =
      ((liftEach lift n as).1 ++ (liftEach lift (n + (liftEach lift n as).2.length) bs).1,
        (liftEach lift n as).2 ++ (liftEach lift (n + (liftEach lift n as).2.length) bs).2) := by
  induction as generalizing n with
  | nil => rfl
  | cons a as ih => simp [liftEach, ih, Nat.add_assoc]

theorem liftEach_of_plain {n : Nat} {as : List α} (h : ∀ a ∈ as, ∀ n, lift n a = (a, [])) :
    liftEach lift n as = (as, []) := by
  induction as generalizing n with
  | nil => rfl
  | cons a as ih =>
    rw [List.forall_mem_cons] at h
    simp [liftEach, h.1, ih h.2]

theorem length_liftEach (n : Nat) (as : List α) : (liftEach lift n as).1.length = as.length :=
  (forall₂_liftEach n as).length_eq.symm

end liftEach

theorem Expr.liftAll_eq_liftEach (n : Nat) (es : List Expr) :
    liftAll n es = liftEach lift n es := by
  induction es generalizing n with
  | nil => rfl
  | cons e es ih => simp only [liftAll, liftEach, ih]

namespace Clause

/-- The second clause is the first one with its literals in place or lifted. -/
def Lifts (k k' : Clause) : Prop :=
  k' = k ∨ ∃ n, k' = (k.lift n).1

/-- The `WHERE` clause of conditions, if there are any. -/
def whereAll (conditions : List Expr) : List Clause :=
  if conditions.isEmpty then [] else [.filtering conditions]

/-- There are no literals in the clause. -/
def Plain (k : Clause) : Prop :=
  ∀ n, k.lift n = (k, [])

end Clause

namespace Corpus

variable {l : Listing} {c : Corpus} {q : Query}

/-- Clauses with their literals in place or lifted from parameter `n` on, and the lifted values. -/
def lifted (c : Corpus) (n : Nat) (ks : List Clause) : List Clause × List Value :=
  if c.config.parameterize then liftEach Clause.lift n ks else (ks, [])

theorem forall₂_lifted (n : Nat) (ks : List Clause) :
    List.Forall₂ Clause.Lifts ks (c.lifted n ks).1 := by
  unfold lifted
  split
  · exact (forall₂_liftEach n ks).imp fun k k' h => .inr h
  · exact List.forall₂_same.2 fun k _ => .inl rfl

/-- Lifting goes from clause to clause. -/
theorem lifted_append (n : Nat) (ks ks' : List Clause) :
    c.lifted n (ks ++ ks') =
      ((c.lifted n ks).1 ++ (c.lifted (n + (c.lifted n ks).2.length) ks').1,
        (c.lifted n ks).2 ++ (c.lifted (n + (c.lifted n ks).2.length) ks').2) := by
  unfold lifted
  split
  · exact liftEach_append n ks ks'
  · rfl

theorem lifted_of_plain {n : Nat} {ks : List Clause} (h : ∀ k ∈ ks, k.Plain) :
    c.lifted n ks = (ks, []) := by
  unfold lifted
  split
  · exact liftEach_of_plain h
  · rfl

end Corpus

/-! ## Stages -/

/-- The clause does something with rows instead of finding them. -/
def Clause.Final : Clause → Prop
  | matching _ | optionalMatching _ | filtering _ => False
  | _ => True

/-- The statement finds rows by one `MATCH`, filters them, carries on what is still needed, matches
patterns optionally, one at a time, and ends with clauses that find no rows. -/
structure Statement.Stages (s : Statement) (required : List PathPattern)
    (filters carried : List Clause) (optional : List PathPattern) (ending : List Clause) :
    Prop where
  clauses_eq : s.clauses = .matching required ::
    (filters ++ carried ++ optional.map (fun p => .optionalMatching [p]) ++ ending)
  filters_eq : ∀ k ∈ filters, ∃ conditions, k = .filtering conditions
  carried_eq : ∀ k ∈ carried, ∃ aliases, k = .carrying aliases
  ending_final : ∀ k ∈ ending, k.Final

namespace Plan

variable (p : Plan)

/-- The clause of the conditions, if there are any. -/
def filterClauses : List Clause :=
  if p.conditions.isEmpty then [] else [.filtering p.conditions]

/-- The clause in front of the optional ones, if there are any. -/
def carryingClauses : List Clause :=
  if p.optionalClauses.isEmpty then []
  else [.carrying (p.carried p.required.aliases (p.optionalClauses ++ p.endingClauses))]

theorem clauses_eq : p.clauses = .matching (p.required.patterns p.hierarchy p.required) ::
    (p.filterClauses ++ p.carryingClauses ++ p.optionalClauses ++ p.endingClauses) := by
  simp [clauses, filterClauses, carryingClauses]

variable {p}

theorem mem_filterClauses {k : Clause} (hk : k ∈ p.filterClauses) :
    k = .filtering p.conditions := by
  unfold filterClauses at hk
  split at hk
  · cases hk
  · exact List.mem_singleton.1 hk

theorem mem_carryingClauses {k : Clause} (hk : k ∈ p.carryingClauses) :
    ∃ aliases, k = .carrying aliases := by
  unfold carryingClauses at hk
  split at hk
  · cases hk
  · exact ⟨_, List.mem_singleton.1 hk⟩

theorem mem_optionalClauses {k : Clause} (hk : k ∈ p.optionalClauses) :
    ∃ pattern, k = .optionalMatching [pattern] := by
  obtain ⟨pattern, -, rfl⟩ := List.mem_map.1 hk
  exact ⟨pattern, rfl⟩

theorem final_endingClauses {k : Clause} (hk : k ∈ p.endingClauses) : k.Final := by
  unfold endingClauses at hk
  split at hk <;> simp only [List.mem_cons, List.not_mem_nil, or_false] at hk
  all_goals first | (subst hk; trivial) | rcases hk with rfl | rfl | rfl <;> trivial

end Plan

theorem Corpus.final_lifted {c : Corpus} {p : Plan} {n : Nat} {k' : Clause}
    (hk' : k' ∈ (c.lifted n p.endingClauses).1) : k'.Final := by
  obtain ⟨k, hk, hlift⟩ := exists_left_of_forall₂ (forall₂_lifted n p.endingClauses) hk'
  have hfinal := Plan.final_endingClauses hk
  rcases hlift with rfl | ⟨n, rfl⟩
  · exact hfinal
  · cases k <;> exact hfinal

/-- Of the clauses of a plan only the conditions and the last clauses are lifted. -/
theorem Corpus.lifted_clauses (c : Corpus) (p : Plan) :
    c.lifted 0 p.clauses =
      (.matching (p.required.patterns p.hierarchy p.required) :: ((c.lifted 0 p.filterClauses).1 ++
          p.carryingClauses ++ p.optionalClauses ++
          (c.lifted (c.lifted 0 p.filterClauses).2.length p.endingClauses).1),
        (c.lifted 0 p.filterClauses).2 ++
          (c.lifted (c.lifted 0 p.filterClauses).2.length p.endingClauses).2) := by
  have hmatching : ∀ k ∈ [Clause.matching (p.required.patterns p.hierarchy p.required)],
      k.Plain := by
    intro k hk n
    rw [List.mem_singleton.1 hk]
    rfl
  have hcarrying : ∀ k ∈ p.carryingClauses, k.Plain := by
    intro k hk n
    obtain ⟨aliases, rfl⟩ := Plan.mem_carryingClauses hk
    rfl
  have hoptional : ∀ k ∈ p.optionalClauses, k.Plain := by
    intro k hk n
    obtain ⟨pattern, rfl⟩ := Plan.mem_optionalClauses hk
    rfl
  rw [p.clauses_eq, ← List.singleton_append, lifted_append, lifted_of_plain hmatching]
  simp [lifted_append, lifted_of_plain hcarrying, lifted_of_plain hoptional]

namespace Statement.Stages

variable {s : Statement} {required optional : List PathPattern}
  {filters carried ending : List Clause}

/-- The first clause is the only `MATCH`. -/
theorem not_matching (h : s.Stages required filters carried optional ending)
    (patterns : List PathPattern) : Clause.matching patterns ∉
      filters ++ carried ++ optional.map (fun p => .optionalMatching [p]) ++ ending := by
  intro hmem
  simp only [List.mem_append, List.mem_map] at hmem
  rcases hmem with ((hmem | hmem) | ⟨_, -, hmem⟩) | hmem
  · obtain ⟨_, heq⟩ := h.filters_eq _ hmem
    cases heq
  · obtain ⟨_, heq⟩ := h.carried_eq _ hmem
    cases heq
  · cases hmem
  · exact h.ending_final _ hmem

theorem matching_mem_iff (h : s.Stages required filters carried optional ending)
    {patterns : List PathPattern} :
    Clause.matching patterns ∈ s.clauses ↔ patterns = required := by
  rw [h.clauses_eq, List.mem_cons, or_iff_left (h.not_matching patterns), Clause.matching.injEq]

theorem optionalMatching_mem_iff (h : s.Stages required filters carried optional ending)
    {patterns : List PathPattern} :
    Clause.optionalMatching patterns ∈ s.clauses ↔ ∃ p ∈ optional, patterns = [p] := by
  rw [h.clauses_eq]
  simp only [List.mem_cons, List.mem_append, List.mem_map]
  constructor
  · rintro (hmem | ((hmem | hmem) | ⟨p, hp, hmem⟩) | hmem)
    · cases hmem
    · obtain ⟨_, heq⟩ := h.filters_eq _ hmem
      cases heq
    · obtain ⟨_, heq⟩ := h.carried_eq _ hmem
      cases heq
    · exact ⟨p, hp, (Clause.optionalMatching.inj hmem).symm⟩
    · exact absurd (h.ending_final _ hmem) id
  · rintro ⟨p, hp, rfl⟩
    exact .inr (.inl (.inr ⟨p, hp, rfl⟩))

end Statement.Stages

end AnnotationQuery
