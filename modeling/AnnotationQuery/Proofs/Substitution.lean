import AnnotationQuery.Proofs.Stages
import Mathlib.Data.List.Nodup

/-!
# Parameters in statements

Parameters can be read off a statement from left to right, and they can be replaced in it. Lifting
the literals of something without parameters gives it parameters with consecutive numbers; replacing
them by the lifted values gives back what was lifted, and replacing them by parameters with other
consecutive numbers gives what lifting from another number gives.

Results:
* `Lifting.Lawful`: what lifting does, and that it goes from part to part (`Lawful.wrap`,
  `Lawful.seq`).
* `Expr.lawful`, `Clause.lawful`, `Clause.lawful_each`: it holds of expressions and clauses.
* `Parameters.lookup_ofValues`: the value that a parameter stands for.
-/

namespace AnnotationQuery

/-! ## Reading and replacing parameters -/

mutual

/-- The expression with its parameters replaced by expressions. -/
def Expr.substitute (f : String → Expr) : Expr → Expr
  | .parameter name => f name
  | .compare left operator right => .compare (left.substitute f) operator (right.substitute f)
  | .isNull e negated => .isNull (e.substitute f) negated
  | .negation e => .negation (e.substitute f)
  | .call function arguments => .call function (Expr.substituteAll f arguments)
  | .collect pattern item => .collect pattern (item.substitute f)
  | .node name => .node name
  | .column name => .column name
  | .property a key => .property a key
  | .duration a => .duration a
  | .literal v => .literal v
  | .hasLabel a l => .hasLabel a l

/-- The expressions with their parameters replaced. -/
def Expr.substituteAll (f : String → Expr) : List Expr → List Expr
  | [] => []
  | e :: es => e.substitute f :: Expr.substituteAll f es

end

mutual

/-- The parameters of an expression from left to right. -/
def Expr.parameterNames : Expr → List String
  | .parameter name => [name]
  | .compare left _ right => left.parameterNames ++ right.parameterNames
  | .isNull e _ | .negation e => e.parameterNames
  | .call _ arguments => Expr.parameterNamesAll arguments
  | .collect _ item => item.parameterNames
  | .node _ | .column _ | .property _ _ | .duration _ | .literal _ | .hasLabel _ _ => []

/-- The parameters of expressions from left to right. -/
def Expr.parameterNamesAll : List Expr → List String
  | [] => []
  | e :: es => e.parameterNames ++ Expr.parameterNamesAll es

end

theorem Expr.substituteAll_eq_map (f : String → Expr) (es : List Expr) :
    Expr.substituteAll f es = es.map (Expr.substitute f) := by
  induction es with
  | nil => rfl
  | cons e es ih => rw [Expr.substituteAll, ih, List.map_cons]

theorem Expr.parameterNamesAll_eq_flatMap (es : List Expr) :
    Expr.parameterNamesAll es = es.flatMap Expr.parameterNames := by
  induction es with
  | nil => rfl
  | cons e es ih => rw [Expr.parameterNamesAll, ih, List.flatMap_cons]

def SetItem.substitute (f : String → Expr) : SetItem → SetItem
  | .property a key value => .property a key (value.substitute f)
  | .label a l => .label a l

def SetItem.parameterNames : SetItem → List String
  | .property _ _ value => value.parameterNames
  | .label _ _ => []

def ReturnItem.substitute (f : String → Expr) (i : ReturnItem) : ReturnItem :=
  ⟨i.expr.substitute f, i.name⟩

def OrderItem.substitute (f : String → Expr) (i : OrderItem) : OrderItem :=
  ⟨i.expr.substitute f, i.descending⟩

namespace Clause

/-- The clause with its parameters replaced by expressions. -/
def substitute (f : String → Expr) : Clause → Clause
  | filtering conditions => filtering (conditions.map (Expr.substitute f))
  | returning distinct items orderBy limit =>
    returning distinct (items.map (ReturnItem.substitute f))
      (orderBy.map (OrderItem.substitute f)) limit
  | setting items => setting (items.map (SetItem.substitute f))
  | clause => clause

/-- The parameters of a clause from left to right. -/
def parameterNames : Clause → List String
  | filtering conditions => conditions.flatMap Expr.parameterNames
  | returning _ items orderBy _ =>
    items.flatMap (·.expr.parameterNames) ++ orderBy.flatMap (·.expr.parameterNames)
  | setting items => items.flatMap SetItem.parameterNames
  | matching _ | optionalMatching _ | carrying _ | removing _ | deleting _ _ => []

end Clause

namespace Statement

/-- The statement with its parameters replaced by expressions. -/
def substitute (f : String → Expr) (s : Statement) : Statement :=
  ⟨s.clauses.map (Clause.substitute f)⟩

/-- The parameters of a statement from left to right. -/
def parameterNames (s : Statement) : List String :=
  s.clauses.flatMap Clause.parameterNames

end Statement

/-! ## Liftings -/

/-- How the literals of something are lifted, and how its parameters are replaced and read. -/
structure Lifting (α : Type) where
  lift : Nat → α → α × List Value
  substitute : (String → Expr) → α → α
  parameterNames : α → List String

namespace Lifting

variable {α β γ : Type}

/-- Something without parameters gets parameters with consecutive numbers from `n` on by lifting,
one for each lifted value; which values are lifted does not depend on `n`. Replacing the parameters
by their values undoes it, and renumbering them is lifting from another number. -/
structure Lawful (L : Lifting α) (a : α) : Prop where
  free : L.parameterNames a = []
  fixed : ∀ f, L.substitute f a = a
  values : ∀ n m, (L.lift n a).2 = (L.lift m a).2
  names : ∀ n, L.parameterNames (L.lift n a).1 =
    (List.range' n (L.lift n a).2.length).map Parameters.nameOf
  inlines : ∀ n f, (∀ i v, (L.lift n a).2[i]? = some v →
    f (Parameters.nameOf (n + i)) = .literal v) → L.substitute f (L.lift n a).1 = a
  renames : ∀ n m f, (∀ i < (L.lift n a).2.length,
    f (Parameters.nameOf (n + i)) = .parameter (Parameters.nameOf (m + i))) →
    L.substitute f (L.lift n a).1 = (L.lift m a).1

namespace Lawful

variable {L : Lifting γ} {A : Lifting α} {B : Lifting β} {a : α} {b : β} {c : γ}

/-- Something without literals and parameters stays as it is. -/
theorem plain (hlift : ∀ n, L.lift n c = (c, [])) (hsubstitute : ∀ f, L.substitute f c = c)
    (hnames : L.parameterNames c = []) : L.Lawful c where
  free := hnames
  fixed := hsubstitute
  values n m := by rw [hlift, hlift]
  names n := by
    rw [hlift, hnames]
    rfl
  inlines n f _ := by rw [hlift, hsubstitute]
  renames n m f _ := by rw [hlift, hlift, hsubstitute]

/-- Something with one part is lifted like the part. -/
theorem wrap (mk : α → γ)
    (hlift : ∀ n, L.lift n (mk a) = (mk (A.lift n a).1, (A.lift n a).2))
    (hsubstitute : ∀ f a, L.substitute f (mk a) = mk (A.substitute f a))
    (hnames : ∀ a, L.parameterNames (mk a) = A.parameterNames a) (ha : A.Lawful a) :
    L.Lawful (mk a) where
  free := by rw [hnames, ha.free]
  fixed f := by rw [hsubstitute, ha.fixed]
  values n m := by
    rw [hlift, hlift]
    exact ha.values n m
  names n := by
    rw [hlift, hnames]
    exact ha.names n
  inlines n f h := by
    rw [hlift] at h
    rw [hlift, hsubstitute, ha.inlines n f h]
  renames n m f h := by
    rw [hlift] at h
    rw [hlift, hlift, hsubstitute, ha.renames n m f h]

/-- Of something with two parts the first is lifted first. -/
theorem seq (mk : α → β → γ)
    (hlift : ∀ n, L.lift n (mk a b) =
      (mk (A.lift n a).1 (B.lift (n + (A.lift n a).2.length) b).1,
        (A.lift n a).2 ++ (B.lift (n + (A.lift n a).2.length) b).2))
    (hsubstitute : ∀ f a b, L.substitute f (mk a b) = mk (A.substitute f a) (B.substitute f b))
    (hnames : ∀ a b, L.parameterNames (mk a b) = A.parameterNames a ++ B.parameterNames b)
    (ha : A.Lawful a) (hb : B.Lawful b) : L.Lawful (mk a b) where
  free := by rw [hnames, ha.free, hb.free, List.append_nil]
  fixed f := by rw [hsubstitute, ha.fixed, hb.fixed]
  values n m := by
    rw [hlift, hlift]
    exact congrArg₂ (· ++ ·) (ha.values n m) (hb.values _ _)
  names n := by
    rw [hlift, hnames, ha.names, hb.names, ← List.map_append, List.range'_append_1,
      List.length_append]
  inlines n f h := by
    simp only [hlift] at h
    have hfirst := ha.inlines n f fun i v hi => h i v (by
      obtain ⟨hlt, -⟩ := List.getElem?_eq_some_iff.1 hi
      rw [List.getElem?_append_left hlt, hi])
    have hsecond := hb.inlines (n + (A.lift n a).2.length) f fun i v hi => by
      rw [Nat.add_assoc]
      refine h _ v ?_
      rw [List.getElem?_append_right (Nat.le_add_right _ i), Nat.add_sub_cancel_left, hi]
    rw [hlift, hsubstitute, hfirst, hsecond]
  renames n m f h := by
    simp only [hlift, List.length_append] at h
    have hfirst := ha.renames n m f fun i hi => h i (by omega)
    have hsecond := hb.renames (n + (A.lift n a).2.length) (m + (A.lift m a).2.length) f
      fun i hi => by
        rw [ha.values m n, Nat.add_assoc, Nat.add_assoc]
        exact h _ (by omega)
    rw [hlift, hlift, hsubstitute, hfirst, hsecond]

end Lawful

/-- Nothing is lifted, literals stay in place. -/
def inPlace (L : Lifting α) : Lifting α :=
  { L with lift := fun _ a => (a, []) }

theorem Lawful.inPlace {L : Lifting α} {a : α} (h : L.Lawful a) : L.inPlace.Lawful a where
  free := h.free
  fixed := h.fixed
  values _ _ := rfl
  names _ := h.free
  inlines _ f _ := h.fixed f
  renames _ _ f _ := h.fixed f

/-- A list is lifted from left to right. -/
def list (L : Lifting α) : Lifting (List α) where
  lift := liftEach L.lift
  substitute f as := as.map (L.substitute f)
  parameterNames as := as.flatMap L.parameterNames

theorem lawful_list {L : Lifting α} {as : List α} (h : ∀ a ∈ as, L.Lawful a) :
    L.list.Lawful as := by
  induction as with
  | nil => exact .plain (fun _ => rfl) (fun _ => rfl) rfl
  | cons a as ih =>
    rw [List.forall_mem_cons] at h
    exact .seq List.cons (fun _ => rfl) (fun _ _ _ => rfl) (fun _ _ => rfl) h.1 (ih h.2)

end Lifting

/-! ## Expressions -/

namespace Expr

def lifting : Lifting Expr :=
  ⟨lift, substitute, parameterNames⟩

def liftingAll : Lifting (List Expr) :=
  ⟨liftAll, substituteAll, parameterNamesAll⟩

theorem lawful_literal (v : Value) : lifting.Lawful (literal v) where
  free := rfl
  fixed _ := rfl
  values _ _ := rfl
  names _ := rfl
  inlines _ _ h := h 0 v rfl
  renames _ _ _ h := h 0 Nat.one_pos

mutual

/-- Expressions without parameters are lifted lawfully. -/
theorem lawful : ∀ {e : Expr}, e.parameterNames = [] → lifting.Lawful e
  | .literal v, _ => lawful_literal v
  | .compare left operator right, h => by
    obtain ⟨hl, hr⟩ := List.append_eq_nil_iff.1 h
    exact .seq (fun left right => Expr.compare left operator right) (fun _ => rfl)
      (fun _ _ _ => rfl) (fun _ _ => rfl) (lawful hl) (lawful hr)
  | .isNull e negated, h =>
    .wrap (fun e => Expr.isNull e negated) (fun _ => rfl) (fun _ _ => rfl) (fun _ => rfl)
      (lawful (e := e) h)
  | .negation e, h =>
    .wrap Expr.negation (fun _ => rfl) (fun _ _ => rfl) (fun _ => rfl) (lawful (e := e) h)
  | .call function arguments, h =>
    .wrap (Expr.call function) (fun _ => rfl) (fun _ _ => rfl)
      (fun _ => rfl) (lawful_all (show parameterNamesAll arguments = [] from h))
  | .collect pattern item, h =>
    .wrap (Expr.collect pattern) (fun _ => rfl) (fun _ _ => rfl) (fun _ => rfl)
      (lawful (e := item) h)
  | .node _, _ | .column _, _ | .property _ _, _ | .duration _, _ | .hasLabel _ _, _ =>
    .plain (fun _ => rfl) (fun _ => rfl) rfl

theorem lawful_all : ∀ {es : List Expr}, Expr.parameterNamesAll es = [] → liftingAll.Lawful es
  | [], _ => .plain (fun _ => rfl) (fun _ => rfl) rfl
  | e :: es, h => by
    obtain ⟨he, hes⟩ := List.append_eq_nil_iff.1 h
    exact .seq List.cons (fun _ => rfl) (fun _ _ _ => rfl) (fun _ _ => rfl) (lawful he)
      (lawful_all hes)

end

end Expr

/-! ## Clauses -/

def SetItem.lifting : Lifting SetItem :=
  ⟨lift, substitute, parameterNames⟩

def ReturnItem.lifting : Lifting ReturnItem :=
  ⟨lift, substitute, (·.expr.parameterNames)⟩

def OrderItem.lifting : Lifting OrderItem :=
  ⟨lift, substitute, (·.expr.parameterNames)⟩

theorem SetItem.lawful {i : SetItem} (h : i.parameterNames = []) : lifting.Lawful i := by
  cases i with
  | property a key value =>
    exact .wrap (property a key) (fun _ => rfl) (fun _ _ => rfl) (fun _ => rfl) (Expr.lawful h)
  | label a l => exact .plain (fun _ => rfl) (fun _ => rfl) rfl

theorem ReturnItem.lawful {i : ReturnItem} (h : i.expr.parameterNames = []) :
    lifting.Lawful i :=
  .wrap (fun e => ReturnItem.mk e i.name) (fun _ => rfl) (fun _ _ => rfl) (fun _ => rfl)
    (Expr.lawful h)

theorem OrderItem.lawful {i : OrderItem} (h : i.expr.parameterNames = []) :
    lifting.Lawful i :=
  .wrap (fun e => OrderItem.mk e i.descending) (fun _ => rfl) (fun _ _ => rfl) (fun _ => rfl)
    (Expr.lawful h)

namespace Clause

def lifting : Lifting Clause :=
  ⟨lift, substitute, parameterNames⟩

/-- Clauses without parameters are lifted lawfully. -/
theorem lawful {k : Clause} (h : k.parameterNames = []) : lifting.Lawful k := by
  cases k with
  | filtering conditions =>
    have hnames : Expr.parameterNamesAll conditions = [] := by
      rw [Expr.parameterNamesAll_eq_flatMap]
      exact h
    refine .wrap filtering (fun _ => rfl) (fun f es => ?_) (fun es => ?_) (Expr.lawful_all hnames)
    · exact congrArg filtering (Expr.substituteAll_eq_map f es).symm
    · exact (Expr.parameterNamesAll_eq_flatMap es).symm
  | returning distinct items orderBy limit =>
    obtain ⟨hi, ho⟩ := List.append_eq_nil_iff.1 h
    rw [List.flatMap_eq_nil_iff] at hi ho
    exact .seq (fun items orderBy => returning distinct items orderBy limit) (fun _ => rfl)
      (fun _ _ _ => rfl) (fun _ _ => rfl)
      (Lifting.lawful_list fun i hmem => ReturnItem.lawful (hi i hmem))
      (Lifting.lawful_list fun o hmem => OrderItem.lawful (ho o hmem))
  | setting items =>
    have hitems := List.flatMap_eq_nil_iff.1 h
    exact .wrap setting (fun _ => rfl) (fun _ _ => rfl) (fun _ => rfl)
      (Lifting.lawful_list fun i hmem => SetItem.lawful (hitems i hmem))
  | matching _ | optionalMatching _ | carrying _ | removing _ | deleting _ _ =>
    exact .plain (fun _ => rfl) (fun _ => rfl) rfl

theorem lawful_each {ks : List Clause} (h : ∀ k ∈ ks, k.parameterNames = []) :
    lifting.list.Lawful ks :=
  Lifting.lawful_list fun k hk => lawful (h k hk)

end Clause

/-! ## The parameter map -/

/-- A number is read off its numeral. -/
theorem numeral_injective : Function.Injective (toString : Nat → String) := by
  intro m n h
  have hdigits : Nat.toDigits 10 m = Nat.toDigits 10 n := by
    rwa [Nat.toString_eq_repr, Nat.toString_eq_repr, Nat.repr_eq_ofList_toDigits,
      Nat.repr_eq_ofList_toDigits, String.ofList_inj] at h
  rw [← Nat.ofDigitChars_ten_toDigits (n := m), hdigits, Nat.ofDigitChars_ten_toDigits]

namespace Parameters

variable {vs : List Value}

theorem nameOf_injective : Function.Injective nameOf := fun _ _ h =>
  numeral_injective ((String.append_right_inj "p").1 h)

/-- The map holds the values under their names. -/
theorem ofValues_perm (vs : List Value) :
    (ofValues vs).Perm (vs.zipIdx.map fun entry => (nameOf entry.2, entry.1)) :=
  List.mergeSort_perm _ _

/-- The names of the map are `p0` to `p(n-1)` where `n` is the number of values. -/
theorem names_ofValues (vs : List Value) :
    ((ofValues vs).map Prod.fst).Perm ((List.range vs.length).map nameOf) := by
  have hnames : (vs.zipIdx.map fun entry => (nameOf entry.2, entry.1)).map Prod.fst =
      (List.range vs.length).map nameOf := by
    rw [List.map_map, List.range_eq_range', ← List.zipIdx_map_snd 0 vs, List.map_map]
    rfl
  exact hnames ▸ (ofValues_perm vs).map Prod.fst

theorem nodup_names_ofValues (vs : List Value) : ((ofValues vs).map Prod.fst).Nodup :=
  (names_ofValues vs).nodup_iff.2 (List.nodup_range.map nameOf_injective)

theorem mem_ofValues {name : String} {v : Value} :
    (name, v) ∈ ofValues vs ↔ ∃ i, vs[i]? = some v ∧ nameOf i = name := by
  rw [(ofValues_perm vs).mem_iff, List.mem_map]
  constructor
  · rintro ⟨⟨v, i⟩, hi, heq⟩
    obtain ⟨rfl, rfl⟩ := Prod.mk.inj heq
    exact ⟨i, List.mk_mem_zipIdx_iff_getElem?.1 hi, rfl⟩
  · rintro ⟨i, hi, rfl⟩
    exact ⟨(v, i), List.mk_mem_zipIdx_iff_getElem?.2 hi, rfl⟩

end Parameters

/-- The map holds the value of the parameter with a number. -/
theorem Parameters.lookup_ofValues {vs : List Value} {i : Nat} {v : Value} (h : vs[i]? = some v) :
    (ofValues vs).lookup (nameOf i) = some v :=
  lookup_eq_some_of_mem (nodup_names_ofValues vs) (mem_ofValues.2 ⟨i, h, rfl⟩)

end AnnotationQuery
