import AnnotationQuery.Proofs.Stages

/-!
# Scopes

The aliases that a clause may use are those that earlier patterns have introduced with labels and
that no `WITH` has dropped. Within a clause that matches, a pattern may also use what the patterns
before it introduce; within a list comprehension, the values may use what its pattern introduces.

Results:
* `Expr.scoped_mono`: a larger scope does no harm.
* `Clause.scopedFrom_optionalMatching`: patterns in clauses of their own are scoped like patterns in
  one clause.
* `Clause.ScopedFrom.mem_boundAliases`: a scoped statement introduces what it matches.
* `Clause.Lifts.scoped`, `Clause.Lifts.aliases`: lifting literals changes nothing about scopes.
-/

namespace AnnotationQuery

/-! ## Definitions -/

namespace PathPattern

/-- The aliases that a pattern introduces. -/
def introducedAliases (p : PathPattern) : List String :=
  p.introduced.map (·.aliasName)

/-- Every node without labels is in scope. -/
def Scoped (scope : List String) (p : PathPattern) : Prop :=
  ∀ n ∈ p.nodes, n.labels = [] → n.aliasName ∈ scope

/-- Each pattern is scoped given the patterns before it. -/
def ScopedAll (scope : List String) : List PathPattern → Prop
  | [] => True
  | p :: ps => p.Scoped scope ∧ ScopedAll (scope ++ p.introducedAliases) ps

end PathPattern

mutual

/-- Every alias that the expression uses is in scope. -/
def Expr.Scoped (scope : List String) : Expr → Prop
  | .node name => name ∈ scope
  | .property a _ | .duration a | .hasLabel a _ => a ∈ scope
  | .column _ | .literal _ | .parameter _ => True
  | .compare left _ right => left.Scoped scope ∧ right.Scoped scope
  | .isNull e _ | .negation e => e.Scoped scope
  | .call _ arguments => Expr.ScopedAll scope arguments
  | .collect pattern item =>
    pattern.Scoped scope ∧ item.Scoped (scope ++ pattern.introducedAliases)

def Expr.ScopedAll (scope : List String) : List Expr → Prop
  | [] => True
  | e :: es => e.Scoped scope ∧ Expr.ScopedAll scope es

end

def SetItem.Scoped (scope : List String) : SetItem → Prop
  | .property a _ value => a ∈ scope ∧ value.Scoped scope
  | .label a _ => a ∈ scope

namespace Clause

/-- The aliases that a clause introduces. -/
def introducedAliases : Clause → List String
  | matching patterns | optionalMatching patterns =>
    patterns.flatMap PathPattern.introducedAliases
  | _ => []

/-- Every alias that the clause uses is in scope. -/
def Scoped (scope : List String) : Clause → Prop
  | matching patterns | optionalMatching patterns => PathPattern.ScopedAll scope patterns
  | filtering conditions => ∀ e ∈ conditions, e.Scoped scope
  | carrying aliases | deleting _ aliases => ∀ a ∈ aliases, a ∈ scope
  | returning _ items orderBy _ =>
    (∀ i ∈ items, i.expr.Scoped scope) ∧ ∀ i ∈ orderBy, i.expr.Scoped scope
  | setting items => ∀ i ∈ items, i.Scoped scope
  | removing items => ∀ i ∈ items, i.aliasName ∈ scope

/-- The scope behind a clause. -/
def scopeAfter (scope : List String) : Clause → List String
  | carrying aliases => aliases
  | clause => scope ++ clause.introducedAliases

/-- Every clause is scoped given the clauses before it. -/
def ScopedFrom (scope : List String) : List Clause → Prop
  | [] => True
  | k :: ks => k.Scoped scope ∧ ScopedFrom (k.scopeAfter scope) ks

end Clause

/-! ## Larger scopes -/

theorem PathPattern.scoped_mono {scope scope' : List String} (hsub : scope ⊆ scope')
    {p : PathPattern} (h : p.Scoped scope) : p.Scoped scope' :=
  fun n hn hl => hsub (h n hn hl)

mutual

theorem Expr.scoped_mono {scope scope' : List String} (hsub : scope ⊆ scope') :
    ∀ {e : Expr}, e.Scoped scope → e.Scoped scope'
  | .node _, h | .property _ _, h | .duration _, h | .hasLabel _ _, h => hsub h
  | .column _, _ | .literal _, _ | .parameter _, _ => trivial
  | .compare _ _ _, h => ⟨Expr.scoped_mono hsub h.1, Expr.scoped_mono hsub h.2⟩
  | .isNull e _, h | .negation e, h => Expr.scoped_mono (e := e) hsub h
  | .call _ _, h => Expr.scopedAll_mono hsub h
  | .collect _ _, h =>
    ⟨PathPattern.scoped_mono hsub h.1,
      Expr.scoped_mono (List.append_subset.2 ⟨List.subset_append_of_subset_left _ hsub,
        List.subset_append_right _ _⟩) h.2⟩

theorem Expr.scopedAll_mono {scope scope' : List String} (hsub : scope ⊆ scope') :
    ∀ {es : List Expr}, Expr.ScopedAll scope es → Expr.ScopedAll scope' es
  | [], _ => trivial
  | _ :: _, h => ⟨Expr.scoped_mono hsub h.1, Expr.scopedAll_mono hsub h.2⟩

end

/-! ## Clauses in order -/

namespace PathPattern

theorem scopedAll_cons {scope : List String} {p : PathPattern} {ps : List PathPattern} :
    ScopedAll scope (p :: ps) ↔ p.Scoped scope ∧ ScopedAll (scope ++ p.introducedAliases) ps :=
  Iff.rfl

end PathPattern

namespace Clause

theorem scopedFrom_cons {scope : List String} {k : Clause} {ks : List Clause} :
    ScopedFrom scope (k :: ks) ↔ k.Scoped scope ∧ ScopedFrom (k.scopeAfter scope) ks :=
  Iff.rfl

/-- Patterns in clauses of their own are scoped like patterns in one clause. -/
theorem scopedFrom_optionalMatching {scope : List String} {ps : List PathPattern}
    {ks : List Clause} :
    ScopedFrom scope (ps.map (fun p => optionalMatching [p]) ++ ks) ↔
      PathPattern.ScopedAll scope ps ∧
        ScopedFrom (scope ++ ps.flatMap PathPattern.introducedAliases) ks := by
  induction ps generalizing scope with
  | nil => simp [PathPattern.ScopedAll]
  | cons p ps ih =>
    have hp : (optionalMatching [p]).Scoped scope ↔ p.Scoped scope := and_iff_left trivial
    have hafter : (optionalMatching [p]).scopeAfter scope = scope ++ p.introducedAliases := by
      simp [scopeAfter, introducedAliases]
    rw [List.map_cons, List.cons_append, scopedFrom_cons, hp, hafter, ih,
      PathPattern.scopedAll_cons, and_assoc, List.flatMap_cons, List.append_assoc]

end Clause

/-! ## Aliases of scoped patterns -/

namespace PathPattern

theorem introducedAliases_subset (p : PathPattern) : p.introducedAliases ⊆ p.aliases :=
  List.map_subset _ fun _ h => List.mem_of_mem_filter h

theorem Scoped.mem_aliases {scope : List String} {p : PathPattern} (h : p.Scoped scope) {a : String}
    (ha : a ∈ p.aliases) : a ∈ scope ∨ a ∈ p.introducedAliases := by
  obtain ⟨n, hn, rfl⟩ := List.mem_map.1 ha
  by_cases hl : n.labels = []
  · exact .inl (h n hn hl)
  · exact .inr (List.mem_map.2 ⟨n, List.mem_filter.2 ⟨hn, by simpa using hl⟩, rfl⟩)

theorem ScopedAll.mem_aliases {scope : List String} {ps : List PathPattern}
    (h : ScopedAll scope ps) {a : String} (ha : a ∈ ps.flatMap aliases) :
    a ∈ scope ∨ a ∈ ps.flatMap introducedAliases := by
  induction ps generalizing scope with
  | nil => cases ha
  | cons p ps ih =>
    rw [List.flatMap_cons, List.mem_append] at ha ⊢
    rcases ha with ha | ha
    · exact (h.1.mem_aliases ha).imp_right .inl
    · rcases ih h.2 ha with ha | ha
      · exact (List.mem_append.1 ha).imp_right .inl
      · exact .inr (.inr ha)

end PathPattern

namespace Clause

theorem introducedAliases_subset (k : Clause) : k.introducedAliases ⊆ k.boundAliases := by
  cases k with
  | matching patterns | optionalMatching patterns =>
    intro a ha
    obtain ⟨p, hp, ha⟩ := List.mem_flatMap.1 ha
    exact List.mem_flatMap.2 ⟨p, hp, p.introducedAliases_subset ha⟩
  | filtering _ | carrying _ | returning _ _ _ _ | setting _ | removing _ | deleting _ _ =>
    exact List.nil_subset _

theorem Scoped.mem_boundAliases {scope : List String} {k : Clause} (h : k.Scoped scope) {a : String}
    (ha : a ∈ k.boundAliases) : a ∈ scope ∨ a ∈ k.introducedAliases := by
  cases k with
  | matching patterns | optionalMatching patterns => exact PathPattern.ScopedAll.mem_aliases h ha
  | filtering _ | carrying _ | returning _ _ _ _ | setting _ | removing _ | deleting _ _ => cases ha

theorem Scoped.mem_scopeAfter {scope : List String} {k : Clause} (h : k.Scoped scope) {a : String}
    (ha : a ∈ k.scopeAfter scope) : a ∈ scope ∨ a ∈ k.introducedAliases := by
  cases k with
  | carrying aliases => exact .inl (h a ha)
  | matching _ | optionalMatching _ | filtering _ | returning _ _ _ _ | setting _ | removing _
  | deleting _ _ => exact List.mem_append.1 ha

/-- Every alias that a scoped statement matches is in scope from the start or introduced. -/
theorem ScopedFrom.mem_boundAliases {scope : List String} {ks : List Clause}
    (h : ScopedFrom scope ks) {a : String} (ha : a ∈ ks.flatMap boundAliases) :
    a ∈ scope ∨ a ∈ ks.flatMap introducedAliases := by
  induction ks generalizing scope with
  | nil => cases ha
  | cons k ks ih =>
    rw [List.flatMap_cons, List.mem_append] at ha ⊢
    rcases ha with ha | ha
    · exact (h.1.mem_boundAliases ha).imp_right .inl
    · rcases ih h.2 ha with ha | ha
      · exact (h.1.mem_scopeAfter ha).imp_right .inl
      · exact .inr (.inr ha)

end Clause

/-! ## Lifted literals -/

mutual

/-- An expression mentions the same aliases after lifting. -/
theorem Expr.aliases_lift : ∀ (e : Expr) (n : Nat), (e.lift n).1.aliases = e.aliases
  | .node _, _ | .property _ _, _ | .duration _, _ | .hasLabel _ _, _ | .column _, _
  | .literal _, _ | .parameter _, _ | .collect _ _, _ => by simp [Expr.lift, Expr.aliases]
  | .compare left _ right, n => by
    simp only [Expr.lift, Expr.aliases, left.aliases_lift, right.aliases_lift]
  | .isNull e _, n | .negation e, n => by simp only [Expr.lift, Expr.aliases, e.aliases_lift]
  | .call _ arguments, n => by
    simp only [Expr.lift, Expr.aliases, Expr.aliasesAll_liftAll arguments]

theorem Expr.aliasesAll_liftAll : ∀ (es : List Expr) (n : Nat),
    Expr.aliasesAll (Expr.liftAll n es).1 = Expr.aliasesAll es
  | [], _ => rfl
  | e :: es, n => by
    simp only [Expr.liftAll, Expr.aliasesAll, e.aliases_lift, Expr.aliasesAll_liftAll es]

end

mutual

theorem Expr.scoped_lift {scope : List String} :
    ∀ (e : Expr) (n : Nat), (e.lift n).1.Scoped scope ↔ e.Scoped scope
  | .node _, _ | .property _ _, _ | .duration _, _ | .hasLabel _ _, _ | .column _, _
  | .literal _, _ | .parameter _, _ => by simp [Expr.lift, Expr.Scoped]
  | .compare left _ right, n => by
    simp only [Expr.lift, Expr.Scoped, left.scoped_lift, right.scoped_lift]
  | .isNull e _, n | .negation e, n => by simp only [Expr.lift, Expr.Scoped, e.scoped_lift]
  | .call _ arguments, n => by
    simp only [Expr.lift, Expr.Scoped, Expr.scopedAll_liftAll arguments]
  | .collect _ item, n => by simp only [Expr.lift, Expr.Scoped, item.scoped_lift]

theorem Expr.scopedAll_liftAll {scope : List String} : ∀ (es : List Expr) (n : Nat),
    Expr.ScopedAll scope (Expr.liftAll n es).1 ↔ Expr.ScopedAll scope es
  | [], _ => Iff.rfl
  | e :: es, n => by
    simp only [Expr.liftAll, Expr.ScopedAll, e.scoped_lift, Expr.scopedAll_liftAll es]

end

theorem Expr.scopedAll_iff {scope : List String} {es : List Expr} :
    Expr.ScopedAll scope es ↔ ∀ e ∈ es, e.Scoped scope := by
  induction es with
  | nil => simp [Expr.ScopedAll]
  | cons e es ih => simp [Expr.ScopedAll, ih]

section liftEach

variable {α : Type} {lift : Nat → α → α × List Value} {n : Nat} {as : List α}

theorem forall_mem_liftEach {P : α → Prop} (hlift : ∀ n a, P (lift n a).1 ↔ P a) :
    (∀ a ∈ (liftEach lift n as).1, P a) ↔ ∀ a ∈ as, P a := by
  induction as generalizing n with
  | nil => rfl
  | cons a as ih => simp only [liftEach, List.forall_mem_cons, hlift, ih]

theorem flatMap_liftEach {β : Type} {f : α → List β} (hlift : ∀ n a, f (lift n a).1 = f a) :
    (liftEach lift n as).1.flatMap f = as.flatMap f := by
  induction as generalizing n with
  | nil => rfl
  | cons a as ih => simp only [liftEach, List.flatMap_cons, hlift, ih]

end liftEach

theorem SetItem.scoped_lift {scope : List String} (i : SetItem) (n : Nat) :
    (i.lift n).1.Scoped scope ↔ i.Scoped scope := by
  cases i <;> simp [SetItem.lift, SetItem.Scoped, Expr.scoped_lift]

theorem SetItem.aliases_lift (i : SetItem) (n : Nat) : (i.lift n).1.aliases = i.aliases := by
  cases i <;> simp [SetItem.lift, SetItem.aliases, Expr.aliases_lift]

namespace Clause

theorem scoped_lift {scope : List String} (k : Clause) (n : Nat) :
    (k.lift n).1.Scoped scope ↔ k.Scoped scope := by
  cases k with
  | filtering conditions =>
    simp only [Clause.lift, Clause.Scoped, ← Expr.scopedAll_iff, Expr.scopedAll_liftAll]
  | returning distinct items orderBy limit =>
    refine and_congr (forall_mem_liftEach fun n i => ?_) (forall_mem_liftEach fun n i => ?_)
    · exact i.expr.scoped_lift n
    · exact i.expr.scoped_lift n
  | setting items => exact forall_mem_liftEach fun n i => i.scoped_lift n
  | matching _ | optionalMatching _ | carrying _ | removing _ | deleting _ _ => rfl

theorem aliases_lift (k : Clause) (n : Nat) : (k.lift n).1.aliases = k.aliases := by
  cases k with
  | filtering conditions =>
    simp only [Clause.lift, Clause.aliases, ← Expr.aliasesAll_eq_flatMap, Expr.aliasesAll_liftAll]
  | returning distinct items orderBy limit =>
    refine congrArg₂ (· ++ ·) (flatMap_liftEach fun n i => ?_) (flatMap_liftEach fun n i => ?_)
    · exact i.expr.aliases_lift n
    · exact i.expr.aliases_lift n
  | setting items => exact flatMap_liftEach fun n i => i.aliases_lift n
  | matching _ | optionalMatching _ | carrying _ | removing _ | deleting _ _ => rfl

variable {k k' : Clause}

theorem Lifts.scoped (h : k.Lifts k') {scope : List String} :
    k'.Scoped scope ↔ k.Scoped scope := by
  rcases h with rfl | ⟨n, rfl⟩
  · rfl
  · exact k.scoped_lift n

theorem Lifts.aliases (h : k.Lifts k') : k'.aliases = k.aliases := by
  rcases h with rfl | ⟨n, rfl⟩
  · rfl
  · exact k.aliases_lift n

theorem Lifts.introducedAliases (h : k.Lifts k') :
    k'.introducedAliases = k.introducedAliases := by
  rcases h with rfl | ⟨n, rfl⟩
  · rfl
  · cases k <;> rfl

theorem Lifts.boundAliases (h : k.Lifts k') : k'.boundAliases = k.boundAliases := by
  rcases h with rfl | ⟨n, rfl⟩
  · rfl
  · cases k <;> rfl

theorem Lifts.scopeAfter (h : k.Lifts k') (scope : List String) :
    k'.scopeAfter scope = k.scopeAfter scope := by
  rcases h with rfl | ⟨n, rfl⟩
  · rfl
  · cases k <;> rfl

theorem Lifts.scopedFrom {ks ks' : List Clause} (h : List.Forall₂ Lifts ks ks')
    {scope : List String} : ScopedFrom scope ks' ↔ ScopedFrom scope ks := by
  induction h generalizing scope with
  | nil => rfl
  | cons hk _ ih => rw [scopedFrom_cons, scopedFrom_cons, hk.scoped, hk.scopeAfter, ih]

/-- Whatever single clauses keep under lifting, the clauses of a statement keep. -/
theorem Lifts.flatMap_eq {β : Type} {ks ks' : List Clause} (h : List.Forall₂ Lifts ks ks')
    {f : Clause → List β} (hf : ∀ {k k' : Clause}, k.Lifts k' → f k' = f k) :
    ks'.flatMap f = ks.flatMap f := by
  induction h with
  | nil => rfl
  | cons hk _ ih => rw [List.flatMap_cons, List.flatMap_cons, hf hk, ih]

end Clause

end AnnotationQuery
