import AnnotationQuery.Proofs.FilterOrder

/-!
# One more condition

A condition put between others takes the numbers of its parameters from those behind it, which get
higher ones. Apart from this renaming the other conditions and the last clauses are lifted as
before. The names of parameters do not depend on their values, so that another value changes one
entry of the parameters only.

Results:
* `Parameters.ofValues_around`: the parameters with more values in between.
* `Corpus.liftedConditions_inserted`: the conditions around another one.
* `Corpus.lifted_endingClauses_behind`: the last clauses behind another condition.
* `Parameters.exists_ofValues_around`: one value in place of another.
-/

namespace AnnotationQuery

/-! ## Making room for parameters -/

namespace Parameters

/-- The renaming of parameters that makes room for `b` of them in front of the `a` ones from number
`n` on. -/
noncomputable def makingRoom (n a b : Nat) : Equiv.Perm String :=
  renamed (exchange n a b)

variable {n a b i : Nat}

theorem makingRoom_below (h : i < n) : makingRoom n a b (nameOf i) = nameOf i := by
  rw [makingRoom, renamed_nameOf, exchange_of_outside (.inl h)]

theorem makingRoom_behind (h : i < a) : makingRoom n a b (nameOf (n + i)) = nameOf (n + b + i) := by
  rw [makingRoom, renamed_nameOf, map_range'_eq_iff.1 (map_exchange_first n a b) i h]

theorem makingRoom_zero : makingRoom n a 0 = 1 := by
  have hexchange : exchange n a 0 = 1 := by
    refine Equiv.ext fun x => ?_
    show (if n ≤ x ∧ x < n + a then x + 0 else
      if n + a ≤ x ∧ x < n + a + 0 then x - a else x) = x
    split_ifs <;> omega
  rw [makingRoom, hexchange, renamed_one]

end Parameters

theorem zipIdx_around (vs ws us : List Value) :
    ((vs ++ us).zipIdx.map (Prod.map id (exchange vs.length us.length ws.length)) ++
      ws.zipIdx vs.length).Perm (vs ++ ws ++ us).zipIdx := by
  have hfirst : vs.zipIdx.map (Prod.map id (exchange vs.length us.length ws.length)) =
      vs.zipIdx := by
    refine (List.map_congr_left fun entry hmem => ?_).trans (List.map_id _)
    have hlt := List.snd_lt_of_mem_zipIdx hmem
    exact Prod.ext rfl (exchange_of_outside (.inl (by omega)))
  have hlast : (us.zipIdx vs.length).map
      (Prod.map id (exchange vs.length us.length ws.length)) =
      us.zipIdx (vs.length + ws.length) := by
    rw [List.zipIdx_eq_zip_range', List.zipIdx_eq_zip_range', ← List.zip_map_right,
      map_exchange_first]
  rw [List.zipIdx_append, List.zipIdx_append, List.zipIdx_append, List.map_append, hfirst,
    Nat.zero_add, Nat.zero_add, hlast, List.length_append, List.append_assoc,
    List.append_assoc]
  exact List.perm_append_comm.append_left _

/-- The parameter of a value with its number. -/
def Parameters.entry (e : Value × Nat) : String × Value :=
  (nameOf e.2, e.1)

/-- The parameters with one more value, or none, in between. -/
theorem Parameters.ofValues_around (vs ws us : List Value) :
    ((ws.zipIdx vs.length).map entry ++
      (ofValues (vs ++ us)).map
        (Prod.map (makingRoom vs.length us.length ws.length) id)).Perm
      (ofValues (vs ++ ws ++ us)) := by
  have hrenamed : ((vs ++ us).zipIdx.map entry).map
      (Prod.map (makingRoom vs.length us.length ws.length) id) =
      ((vs ++ us).zipIdx.map (Prod.map id (exchange vs.length us.length ws.length))).map
        entry := by
    rw [List.map_map, List.map_map]
    refine List.map_congr_left fun e _ => ?_
    exact Prod.ext (renamed_nameOf _ e.2) rfl
  have hentries := (zipIdx_around vs ws us).map entry
  rw [List.map_append, ← hrenamed] at hentries
  refine List.perm_append_comm.trans ?_
  refine (((ofValues_perm (vs ++ us)).map _).append_right _).trans (hentries.trans ?_)
  exact (ofValues_perm (vs ++ ws ++ us)).symm

/-! ## Lifting around one more condition -/

namespace Lifting.Lawful

variable {α : Type} {L : Lifting α} {x : α} {n a b : Nat}

/-- What is lifted from lower numbers on stays as it is. -/
theorem substitute_below (h : L.Lawful x) {m : Nat} (hm : m + (L.lift m x).2.length ≤ n) :
    L.substitute (fun name => .parameter (Parameters.makingRoom n a b name)) (L.lift m x).1 =
      (L.lift m x).1 :=
  h.renames m m _ fun i hi => by rw [Parameters.makingRoom_below (by omega)]

/-- What is lifted from higher numbers on gets other numbers. -/
theorem lift_behind (h : L.Lawful x) {d : Nat} (hd : d + (L.lift (n + d) x).2.length ≤ a) :
    L.lift (n + b + d) x =
      (L.substitute (fun name => .parameter (Parameters.makingRoom n a b name))
        (L.lift (n + d) x).1, (L.lift (n + d) x).2) := by
  refine Prod.ext (h.renames (n + d) (n + b + d) _ fun i hi => ?_).symm
    (h.values (n + b + d) (n + d))
  rw [Nat.add_assoc n d i, Parameters.makingRoom_behind (by omega), Nat.add_assoc (n + b) d i]

end Lifting.Lawful

namespace Corpus

variable {l : Listing} {c : Corpus} {q : Query} {p : Plan} {before after es es' : List Expr}
  {vs vs' : List Value} {n a b : Nat}

theorem list_substitute_lifting {α : Type} (c : Corpus) (L : Lifting α) (f : String → Expr)
    (as : List α) : (c.lifting L).list.substitute f as = as.map (L.substitute f) := by
  show as.map ((c.lifting L).substitute f) = _
  rw [substitute_lifting]

theorem lawful_conditions (h : ∀ e ∈ es, e.parameterNames = []) :
    (c.lifting Expr.lifting).list.Lawful es :=
  Lifting.lawful_list fun e he => lawful_lifting (Expr.lawful (h e he))

/-- The conditions in front of one more condition keep their parameters. -/
theorem map_rename_liftedConditions (hbefore : ∀ e ∈ before, e.parameterNames = [])
    (h : c.liftedConditions before = (es, vs)) :
    es.map (Expr.rename (Parameters.makingRoom vs.length a b)) = es := by
  have hlift : (c.lifting Expr.lifting).list.lift 0 before = (es, vs) := h
  have hbelow := (lawful_conditions (c := c) hbefore).substitute_below (m := 0) (n := vs.length)
    (a := a) (b := b) (by rw [hlift, Nat.zero_add])
  rw [hlift, list_substitute_lifting] at hbelow
  exact hbelow

/-- The conditions behind one more condition get other parameters. -/
theorem lift_conditions_behind (hafter : ∀ e ∈ after, e.parameterNames = [])
    (h : (c.lifting Expr.lifting).list.lift n after = (es', vs')) (ha : vs'.length ≤ a) :
    (c.lifting Expr.lifting).list.lift (n + b) after =
      (es'.map (Expr.rename (Parameters.makingRoom n a b)), vs') := by
  have hbehind := (lawful_conditions (c := c) hafter).lift_behind (n := n) (a := a) (b := b)
    (d := 0) (by rw [Nat.add_zero, h, Nat.zero_add]; exact ha)
  rw [Nat.add_zero, Nat.add_zero, h, list_substitute_lifting] at hbehind
  exact hbehind

/-- The conditions in front of one more condition are lifted like before, those behind it from other
numbers on. -/
theorem liftedConditions_inserted (c : Corpus) (hbefore : ∀ e ∈ before, e.parameterNames = [])
    (hafter : ∀ e ∈ after, e.parameterNames = []) :
    ∃ es es' : List Expr, ∃ vs vs' : List Value, es.length = before.length ∧
      c.liftedConditions (before ++ after) = (es ++ es', vs ++ vs') ∧
      ∀ (e e' : Expr) (ws : List Value) (count : Nat),
        (c.lifting Expr.lifting).lift vs.length e = (e', ws) →
        let ρ := Parameters.makingRoom vs.length (vs'.length + count) ws.length
        c.liftedConditions (before ++ e :: after) =
          (es.map (Expr.rename ρ) ++ e' :: es'.map (Expr.rename ρ), vs ++ ws ++ vs') := by
  obtain ⟨es, vs, hfront⟩ : ∃ es vs, c.liftedConditions before = (es, vs) := ⟨_, _, rfl⟩
  obtain ⟨es', vs', hback⟩ : ∃ es' vs',
      (c.lifting Expr.lifting).list.lift vs.length after = (es', vs') := ⟨_, _, rfl⟩
  have hes : es.length = before.length := by
    rw [← length_liftedConditions before, hfront]
  refine ⟨es, es', vs, vs', hes, by rw [liftedConditions_append, hfront, hback], ?_⟩
  intro e e' ws count hadded ρ
  have hmoved : (c.lifting Expr.lifting).list.lift (vs.length + ws.length) after =
      (es'.map (Expr.rename ρ), vs') :=
    lift_conditions_behind hafter hback (Nat.le_add_right _ _)
  have hcons : (c.lifting Expr.lifting).list.lift vs.length (e :: after) =
      (e' :: es'.map (Expr.rename ρ), ws ++ vs') := by
    simp only [Lifting.list] at hmoved ⊢
    simp only [liftEach, hadded, hmoved]
  rw [liftedConditions_append, hfront, hcons, map_rename_liftedConditions hbefore hfront,
    List.append_assoc]

/-- The last clauses behind one more condition. -/
theorem lifted_endingClauses_behind (hp : c.plan l q = .ok p) {d : Nat}
    (ha : d + (c.lifted (n + d) p.endingClauses).2.length ≤ a) :
    c.lifted (n + b + d) p.endingClauses =
      ((c.lifted (n + d) p.endingClauses).1.map
          (Clause.substitute fun name => .parameter (Parameters.makingRoom n a b name)),
        (c.lifted (n + d) p.endingClauses).2) := by
  rw [lifted_eq] at ha
  rw [lifted_eq, lifted_eq, (lawful_endingClauses hp).lift_behind ha, list_substitute_lifting]
  rfl

end Corpus

/-! ## One value in place of another -/

namespace Parameters

theorem ofValues_nil : ofValues [] = [] := by
  simp [ofValues]

/-- The entry with another value if it has this name. -/
def putValue (name : String) (v : Value) (entry : String × Value) : String × Value :=
  if entry.1 = name then (name, v) else entry

theorem fst_putValue (name : String) (v : Value) (entry : String × Value) :
    (putValue name v entry).1 = entry.1 := by
  unfold putValue
  split_ifs with h
  · exact h.symm
  · rfl

theorem map_putValue {name : String} {v : Value} {l : Parameters} (h : ∀ e ∈ l, e.1 ≠ name) :
    l.map (putValue name v) = l :=
  (List.map_congr_left fun e he => if_neg (h e he)).trans (List.map_id l)

theorem putValue_entries (vs us : List Value) (v w : Value) :
    ((vs ++ v :: us).zipIdx.map entry).map (putValue (nameOf vs.length) w) =
      (vs ++ w :: us).zipIdx.map entry := by
  have hbefore : ∀ e ∈ vs.zipIdx.map entry, e.1 ≠ nameOf vs.length := by
    intro e he heq
    obtain ⟨x, hx, rfl⟩ := List.mem_map.1 he
    have hlt := List.snd_lt_of_mem_zipIdx hx
    have hsame : x.2 = vs.length := nameOf_injective heq
    omega
  have hbehind : ∀ e ∈ (us.zipIdx (vs.length + 1)).map entry, e.1 ≠ nameOf vs.length := by
    intro e he heq
    obtain ⟨x, hx, rfl⟩ := List.mem_map.1 he
    have hle := List.le_snd_of_mem_zipIdx hx
    have hsame : x.2 = vs.length := nameOf_injective heq
    omega
  have hput : putValue (nameOf vs.length) w (entry (v, vs.length)) = entry (w, vs.length) :=
    if_pos rfl
  rw [List.zipIdx_append, List.zipIdx_append, List.zipIdx_cons, List.zipIdx_cons, Nat.zero_add,
    List.map_append, List.map_append, List.map_append, List.map_cons, List.map_cons,
    List.map_cons, map_putValue hbefore, map_putValue hbehind, hput]

/-- The entry of a value among the parameters has a place and a name that do not depend on the
value. -/
theorem exists_ofValues_around (vs us : List Value) :
    ∃ front name back, ∀ v, ofValues (vs ++ v :: us) = front ++ (name, v) :: back := by
  have hmem : (nameOf vs.length, .null) ∈ ofValues (vs ++ .null :: us) :=
    mem_ofValues.2 ⟨vs.length, by simp, rfl⟩
  obtain ⟨front, back, hsplit⟩ := List.append_of_mem hmem
  refine ⟨front, nameOf vs.length, back, fun v => ?_⟩
  have hnodup := nodup_names_ofValues (vs ++ .null :: us)
  rw [hsplit, List.map_append, List.map_cons, List.nodup_middle, List.nodup_cons,
    List.mem_append, not_or] at hnodup
  have hput : (ofValues (vs ++ .null :: us)).map (putValue (nameOf vs.length) v) =
      ofValues (vs ++ v :: us) := by
    have hsort := List.map_mergeSort (r := fun a b : String × Value => decide (a.1 ≤ b.1))
      (s := fun a b : String × Value => decide (a.1 ≤ b.1)) (f := putValue (nameOf vs.length) v)
      (l := (vs ++ .null :: us).zipIdx.map entry) fun a _ b _ => by
        rw [fst_putValue, fst_putValue]
    rw [putValue_entries] at hsort
    exact hsort
  have hfront := map_putValue (v := v) fun e he heq =>
    hnodup.1.1 (List.mem_map.2 ⟨e, he, heq⟩)
  have hback := map_putValue (v := v) fun e he heq =>
    hnodup.1.2 (List.mem_map.2 ⟨e, he, heq⟩)
  rw [← hput, hsplit, List.map_append, List.map_cons, hfront, hback]
  exact congrArg (front ++ · :: back) (if_pos rfl)

end Parameters

end AnnotationQuery
