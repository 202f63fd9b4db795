import AnnotationQuery.Compiled.Plan
import AnnotationQuery.Proofs.Stages
import AnnotationQuery.Proofs.Substitution

/-!
# Parameters in turn

While a statement is put together each value takes the name that the number of parameters so far
gives it. Not every filter and not every assignment takes one. In the end the parameters are the
same as when the literals of the finished statement are numbered from left to right: with so many
parameters so far, what is written next is what lifting gives from that number on.

Results:
* `Parameters.insert_ofValues`: the next parameter behind those of given values.
* `Corpus.writeCondition_eq`: the condition of a filter, and the parameters behind it.
* `writeAssignments_eq`: what is set, and the parameters behind it.
* `Output.plain_items`, `Output.plain_orderBy`: what is returned takes no parameter.
-/

namespace AnnotationQuery

/-! ## Expressions without literals -/

/-- There are no literals in the expression. -/
def Expr.Plain (e : Expr) : Prop :=
  ∀ n, e.lift n = (e, [])

theorem Expr.plain_call {function : String} {e : Expr} (h : e.Plain) :
    (call function [e]).Plain := by
  intro n
  simp [lift, liftAll, h n]

theorem Term.plain_collected (levels : Nat) (r : Reference) (tier : String)
    (leaf : CollectedLeaf) : (collected levels r tier leaf).expr.Plain := by
  intro n
  cases leaf with
  | duration => rfl
  | property p =>
    simp only [collected]
    split <;> rfl

theorem Resolved.plain_term {resolved : Resolved} {term : Term} (h : resolved.term = .ok term) :
    term.expr.Plain := by
  cases resolved with
  | attached r name p =>
    cases p <;> rw [← Except.ok.inj h] <;> exact fun _ => rfl
  | subset r | collected r _ _ => cases h
  | node r | property r p | duration r | entity _ r _ =>
    rw [← Except.ok.inj h]
    exact fun _ => rfl

namespace Corpus

variable {c : Corpus} {tier : String}

theorem plain_outputTerm {path : Path} {term : Term} (h : c.outputTerm tier path = .ok term) :
    term.expr.Plain := by
  obtain ⟨resolved, -, ht⟩ := outputTerm_eq_ok.1 h
  rcases Resolved.outputTerm_eq_ok ht with ht | ⟨r, tier, leaf, rfl, rfl⟩
  · exact Resolved.plain_term ht
  · exact Term.plain_collected _ r tier leaf

end Corpus

namespace Output

variable {c : Corpus} {tier : String} {p : Projection} {output : Output}

theorem plain_items (h : ofProjection c tier p = .ok output) {i : ReturnItem}
    (hi : i ∈ output.items) : i.expr.Plain := by
  obtain ⟨items, keys, hitems, -, -, heq, -⟩ := ofProjection_eq_ok h
  rw [heq] at hi
  obtain ⟨item, hitem, rfl⟩ := List.mem_map.1 hi
  cases Projection.itemOf_items hitems hitem with
  | anchor | callAnchor => exact fun _ => rfl
  | value ht => exact Corpus.plain_outputTerm ht
  | call ht => exact Expr.plain_call (Corpus.plain_outputTerm ht)

theorem plain_orderBy (h : ofProjection c tier p = .ok output) {o : OrderItem}
    (ho : o ∈ output.orderBy) : o.expr.Plain := by
  obtain ⟨items, keys, -, hkeys, -, -, heq⟩ := ofProjection_eq_ok h
  rw [heq] at ho
  obtain ⟨item, hitem, rfl⟩ := List.mem_map.1 ho
  obtain ⟨key, -, hkey⟩ := (mem_mapM hkeys).1 hitem
  rcases Projection.orderItem_eq_ok hkey with ⟨name, -, rfl⟩ | ⟨-, term, ht, rfl⟩
  · exact fun _ => rfl
  · exact Corpus.plain_outputTerm ht

end Output

theorem Clause.plain_returning {distinct : Bool} {items : List ReturnItem}
    {orderBy : List OrderItem} {limit : Option Nat} (hi : ∀ i ∈ items, i.expr.Plain)
    (ho : ∀ o ∈ orderBy, o.expr.Plain) : (returning distinct items orderBy limit).Plain := by
  have hitems : ∀ n, liftEach ReturnItem.lift n items = (items, []) := fun n =>
    liftEach_of_plain fun i hmem m => by rw [ReturnItem.lift, hi i hmem m]
  have horder : ∀ n, liftEach OrderItem.lift n orderBy = (orderBy, []) := fun n =>
    liftEach_of_plain fun o hmem m => by rw [OrderItem.lift, ho o hmem m]
  intro n
  simp only [lift, hitems, horder, List.append_nil]

/-! ## The next parameter -/

namespace Parameters

variable {parameters : Parameters} {name : String} {v : Value}

theorem insert_perm (h : ∀ p ∈ parameters, p.1 ≠ name) :
    (parameters.insert name v).Perm ((name, v) :: parameters) := by
  induction parameters with
  | nil => exact .refl _
  | cons p rest ih =>
    rw [List.forall_mem_cons] at h
    rw [insert, if_neg (Ne.symm h.1)]
    split
    · exact .refl _
    · exact ((ih h.2).cons p).trans (.swap (name, v) p rest)

/-- Sorted by name. -/
def Sorted (parameters : Parameters) : Prop :=
  parameters.Pairwise fun p p' => p.1 ≤ p'.1

theorem sorted_insert (hs : parameters.Sorted) (h : ∀ p ∈ parameters, p.1 ≠ name) :
    (parameters.insert name v).Sorted := by
  induction parameters with
  | nil => exact List.pairwise_singleton _ _
  | cons p rest ih =>
    obtain ⟨hfirst, hrest⟩ := List.pairwise_cons.1 hs
    rw [List.forall_mem_cons] at h
    rw [insert, if_neg (Ne.symm h.1)]
    split
    · rename_i hlt
      have hle : name ≤ p.1 := String.not_lt.1 (String.lt_asymm hlt)
      refine List.pairwise_cons.2 ⟨fun p' hp' => ?_, hs⟩
      rcases List.mem_cons.1 hp' with rfl | hp'
      · exact hle
      · exact String.le_trans hle (hfirst p' hp')
    · rename_i hnlt
      refine List.pairwise_cons.2 ⟨fun p' hp' => ?_, ih hrest h.2⟩
      rcases List.mem_cons.1 ((insert_perm h.2).mem_iff.1 hp') with rfl | hp'
      · exact String.not_lt.1 hnlt
      · exact hfirst p' hp'

theorem sorted_ofValues (vs : List Value) : (ofValues vs).Sorted := by
  have hsorted : (ofValues vs).Pairwise fun a b => decide (a.1 ≤ b.1) = true := by
    refine List.pairwise_mergeSort (fun a b d hab hbd => ?_) (fun a b => ?_) _
    · exact decide_eq_true (String.le_trans (of_decide_eq_true hab) (of_decide_eq_true hbd))
    · simpa using String.le_total a.1 b.1
  exact hsorted.imp of_decide_eq_true

/-- Two sorted maps with the same entries are the same. -/
theorem Sorted.eq_of_perm {parameters' : Parameters} (hs : parameters.Sorted)
    (hs' : parameters'.Sorted) (hperm : parameters.Perm parameters')
    (hn : (parameters.map Prod.fst).Nodup) : parameters = parameters' := by
  refine hperm.eq_of_pairwise (fun p p' hp hp' hle hge => ?_) hs hs'
  exact List.inj_on_of_nodup_map hn hp (hperm.mem_iff.2 hp') (String.le_antisymm hle hge)

theorem length_ofValues (vs : List Value) : (ofValues vs).length = vs.length := by
  rw [(ofValues_perm vs).length_eq, List.length_map, List.length_zipIdx]

/-- The number of parameters so far names the next one. -/
theorem insert_ofValues (vs : List Value) (v : Value) :
    (ofValues vs).insert (nameOf vs.length) v = ofValues (vs ++ [v]) := by
  have hfresh : ∀ p ∈ ofValues vs, p.1 ≠ nameOf vs.length := by
    rintro ⟨name, w⟩ hp heq
    obtain ⟨i, hi, rfl⟩ := mem_ofValues.1 hp
    have hlt : i < vs.length := (List.getElem?_eq_some_iff.1 hi).1
    have hsame : i = vs.length := nameOf_injective heq
    omega
  have hperm := (insert_perm (v := v) hfresh).trans ((ofValues_perm vs).cons _)
  have hentries : ((nameOf vs.length, v) ::
      vs.zipIdx.map fun entry => (nameOf entry.2, entry.1)).Perm
      ((vs ++ [v]).zipIdx.map fun entry => (nameOf entry.2, entry.1)) := by
    rw [List.zipIdx_append, List.map_append, Nat.zero_add]
    exact (List.perm_append_singleton _ _).symm
  have hperm := (hperm.trans hentries).trans (ofValues_perm (vs ++ [v])).symm
  refine (sorted_insert (sorted_ofValues vs) hfresh).eq_of_perm (sorted_ofValues _) hperm ?_
  exact (hperm.map Prod.fst).nodup_iff.2 (nodup_names_ofValues (vs ++ [v]))

end Parameters

/-- Literals become parameters from number `n` on, or stay in place. -/
def liftIf {α : Type} (parameterize : Bool) (lift : Nat → α → α × List Value) (n : Nat) (a : α) :
    α × List Value :=
  if parameterize then lift n a else (a, [])

/-- A value takes the next number. -/
theorem Parameters.value_eq (b : Bool) (vs : List Value) (v : Value) :
    Parameters.value b (.ofValues vs) v =
      let (operand, ws) := liftIf b Expr.lift vs.length (.literal v)
      (operand, .ofValues (vs ++ ws)) := by
  cases b with
  | false => simp [value, liftIf]
  | true => simp only [value, liftIf, if_true, Expr.lift, length_ofValues, insert_ofValues]

/-! ## Conditions -/

/-- The condition written when there are parameters with the given values, and the parameters there
are then. -/
def Condition.inTurn (b : Bool) (vs : List Value) (k : Condition) : Condition × Parameters :=
  let (expr, ws) := liftIf b Expr.lift vs.length k.expr
  (⟨k.nodes, expr⟩, .ofValues (vs ++ ws))

/-- A condition without literals takes no parameter. -/
theorem Condition.inTurn_of_plain (b : Bool) (vs : List Value) {k : Condition}
    (h : k.expr.Plain) : k.inTurn b vs = (k, .ofValues vs) := by
  unfold inTurn liftIf
  cases b <;> simp [h vs.length]

theorem Expr.lift_comparison {left : Expr} (hl : left.Plain) (operator : Operator) (v : Value)
    (n : Nat) : (comparison left operator (.literal v)).lift n =
      (comparison left operator (.parameter (Parameters.nameOf n)), [v]) := by
  cases operator <;> simp [comparison, lift, hl n]

theorem Condition.writeValue_eq (b : Bool) (vs : List Value) {term : Term} (ht : term.expr.Plain)
    (operator : Operator) (value : Value) :
    writeValue b (.ofValues vs) term operator value =
      (ofValue term operator value).inTurn b vs := by
  rcases Condition.writeValue_cases term operator value with ⟨negated, h⟩ | h
  · rw [ofValue, h, h, inTurn_of_plain]
    exact fun n => by simp [Expr.lift, ht n]
  · rw [ofValue, h, h, Parameters.value_eq]
    cases b with
    | false => rfl
    | true =>
      have hlift := Expr.lift_comparison ht operator value vs.length
      simp only [inTurn, liftIf, if_true, Parameters.value, Bool.false_eq_true, if_false, hlift]
      rfl

theorem Expr.plain_comparison {left right : Expr} (hl : left.Plain) (hr : right.Plain)
    (operator : Operator) : (comparison left operator right).Plain := by
  intro n
  cases operator <;> simp [comparison, lift, hl n, hr n]

theorem Condition.plain_ofTerms {left right : Term} (hl : left.expr.Plain) (hr : right.expr.Plain)
    (operator : Operator) : (ofTerms left operator right).expr.Plain := by
  unfold ofTerms
  split
  · simp only
    split
    · exact Expr.plain_comparison hr hl _
    · exact Expr.plain_comparison hl hr _
  · exact Expr.plain_comparison hl hr _

theorem Condition.plain_ofSubset {c : Corpus} {f : Filter} {r : Reference} {value : Value}
    {k : Condition} (hk : ofSubset c.hierarchy f r value = .ok k) : k.expr.Plain := by
  obtain ⟨name, side, -, -, e, rfl, rfl | rfl⟩ := Corpus.ofSubset_eq_ok hk
  · exact fun _ => rfl
  · exact fun _ => rfl

namespace Corpus

variable {c : Corpus} {tier : String}

/-- Writing a condition fails like finding it, and the condition is written in turn. -/
theorem writeCondition_eq (b : Bool) (vs : List Value) (f : Filter) :
    c.writeCondition b tier f (.ofValues vs) =
      (c.condition tier f).map (Condition.inTurn b vs) := by
  simp only [condition_eq, writeCondition, map_bind_eq]
  refine bind_congr fun _ => bind_congr fun resolved => ?_
  cases f.operand with
  | path other =>
    simp only [map_bind_eq]
    refine bind_congr fun other => ?_
    cases hleft : resolved.term with
    | error e => rfl
    | ok left =>
      cases hright : other.term with
      | error e => rfl
      | ok right =>
        have hplain := Condition.plain_ofTerms (Resolved.plain_term hleft)
          (Resolved.plain_term hright) f.operator
        exact congrArg Except.ok (Condition.inTurn_of_plain b vs hplain).symm
  | literal value =>
    have hvalue : ∀ resolved : Resolved, (do
          let left ← resolved.term.mapError (QueryError.invalidPath f.path)
          return Condition.writeValue b (.ofValues vs) left f.operator value) =
        Except.map (Condition.inTurn b vs) (do
          let left ← resolved.term.mapError (QueryError.invalidPath f.path)
          return .ofValue left f.operator value) := by
      intro resolved
      cases hleft : resolved.term with
      | error e => rfl
      | ok left =>
        have hplain := Resolved.plain_term hleft
        exact congrArg Except.ok (Condition.writeValue_eq b vs hplain f.operator value)
    have hsubset : ∀ r, (do
          let k ← (Condition.ofSubset c.hierarchy f r value).mapError QueryError.invalidFilter
          return (k, .ofValues vs)) =
        Except.map (Condition.inTurn b vs)
          ((Condition.ofSubset c.hierarchy f r value).mapError .invalidFilter) := by
      intro r
      cases hk : Condition.ofSubset c.hierarchy f r value with
      | error e => rfl
      | ok k =>
        have hplain := Condition.plain_ofSubset hk
        exact congrArg Except.ok (Condition.inTurn_of_plain b vs hplain).symm
    cases resolved with
    | subset r => exact hsubset r
    | node _ | property _ _ | duration _ | attached _ _ _ | entity _ _ _ | collected _ _ _ =>
      exact hvalue _

end Corpus

/-! ## Assignments -/

theorem writeAssignments_eq (b : Bool) (vs : List Value)
    (assignments : List (String × String × Value)) :
    writeAssignments b (.ofValues vs) assignments =
      let (items, ws) := liftEach (liftIf b SetItem.lift) vs.length
        (writeAssignments false [] assignments).1
      (items, .ofValues (vs ++ ws)) := by
  induction assignments generalizing vs with
  | nil => simp [writeAssignments, liftEach]
  | cons a rest ih =>
    obtain ⟨aliasName, key, value⟩ := a
    simp only [writeAssignments]
    split
    · exact ih vs
    · rw [Parameters.value_eq]
      cases b with
      | false => simp [liftIf, Parameters.value, liftEach, ih]
      | true =>
        simp [liftIf, Parameters.value, liftEach, ih, Expr.lift, SetItem.lift]

/-- The first assignments of values other than null are what is set. -/
theorem PropertyUpdates.setItems_eq (u : PropertyUpdates) (anchor : Reference) :
    u.setItems anchor = (u.effective anchor).filterMap fun (aliasName, key, value) =>
      if value.isNull then none else some (.property aliasName key (.literal value)) := by
  unfold setItems
  induction u.effective anchor with
  | nil => rfl
  | cons a rest ih =>
    obtain ⟨aliasName, key, value⟩ := a
    cases hnull : value.isNull <;> simp [writeAssignments, hnull, Parameters.value, ih]

theorem firstAssignments_ne_nil {assignments : List (String × Value)} (h : assignments ≠ []) :
    firstAssignments [] assignments ≠ [] := by
  cases assignments with
  | nil => exact absurd rfl h
  | cons a rest =>
    simp [firstAssignments]

theorem PropertyUpdates.effective_ne_nil {u : PropertyUpdates} (h : u.fault? = none)
    (anchor : Reference) : u.effective anchor ≠ [] := by
  have hne : u.isEmpty = false := by
    cases he : u.isEmpty with
    | false => rfl
    | true => simp [fault?, he] at h
  intro hnil
  obtain ⟨htoken, htype⟩ := List.append_eq_nil_iff.1 hnil
  rw [List.map_eq_nil_iff] at htoken htype
  have htoken : u.token = [] := by
    by_contra hne
    exact firstAssignments_ne_nil hne htoken
  have htype : u.type = [] := by
    by_contra hne
    exact firstAssignments_ne_nil hne htype
  rw [isEmpty, htoken, htype] at hne
  cases hne

/-- What is assigned first is set or removed. -/
theorem PropertyUpdates.items_ne_nil {u : PropertyUpdates} (h : u.fault? = none)
    (anchor : Reference) : u.setItems anchor ≠ [] ∨ u.removeItems anchor ≠ [] := by
  obtain ⟨⟨aliasName, key, value⟩, hmem⟩ :=
    List.exists_mem_of_ne_nil _ (u.effective_ne_nil h anchor)
  cases hnull : value.isNull with
  | true =>
    refine .inr (List.ne_nil_of_mem (a := .property aliasName key) ?_)
    exact List.mem_filterMap.2 ⟨_, hmem, by simp [hnull]⟩
  | false =>
    rw [setItems_eq]
    refine .inl (List.ne_nil_of_mem (a := .property aliasName key (.literal value)) ?_)
    exact List.mem_filterMap.2 ⟨_, hmem, by simp [hnull]⟩

end AnnotationQuery
