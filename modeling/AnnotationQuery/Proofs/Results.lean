import AnnotationQuery.Proofs.Lists
import Mathlib.Data.List.OfFn
import Mathlib.Tactic.Common

/-!
# Results and errors

What it takes for a computation that may fail to succeed or to fail, step by step and over the
elements of a list.

Results:
* `bind_eq_ok`, `bind_eq_error`: one step after another.
* `mapM_eq_ok`, `mapM_eq_error`: a list succeeds with the results of its elements, and fails with
  the error of the first element that fails.
-/

namespace AnnotationQuery

theorem bind_eq_ok {ε α β : Type} {x : Except ε α} {f : α → Except ε β} {b : β} :
    (x >>= f) = .ok b ↔ ∃ a, x = .ok a ∧ f a = .ok b := by
  cases x <;> simp [bind, Except.bind]

theorem pure_eq_ok {ε α : Type} {a b : α} : (pure a : Except ε α) = .ok b ↔ a = b := by
  simp [pure, Except.pure]

theorem bind_eq_error {ε α β : Type} {x : Except ε α} {f : α → Except ε β} {e : ε} :
    x >>= f = .error e ↔ x = .error e ∨ ∃ a, x = .ok a ∧ f a = .error e := by
  cases x <;> simp [bind, Except.bind]

theorem pure_eq_error {ε α : Type} {a : α} {e : ε} :
    (pure a : Except ε α) = .error e ↔ False :=
  iff_of_false nofun id

/-- What has the same errors has results in the same cases. -/
theorem exists_ok_congr {ε α β : Type} {x : Except ε α} {y : Except ε β}
    (h : ∀ e, x = .error e ↔ y = .error e) : (∃ a, x = .ok a) ↔ ∃ b, y = .ok b := by
  cases x with
  | error e =>
    rw [(h e).1 rfl]
    exact iff_of_false nofun nofun
  | ok a =>
    cases y with
    | error e => cases (h e).2 rfl
    | ok b => exact iff_of_true ⟨a, rfl⟩ ⟨b, rfl⟩

theorem map_bind_eq {ε α β γ : Type} (x : Except ε α) (f : α → Except ε β) (g : β → γ) :
    (x >>= f).map g = x >>= fun a => (f a).map g := by
  cases x <;> rfl

theorem map_eq_ok {ε α β : Type} {result : Except ε α} {f : α → β} {b : β}
    (h : result.map f = .ok b) : ∃ a, result = .ok a ∧ f a = b := by
  cases result with
  | error e => cases h
  | ok a => exact ⟨a, rfl, Except.ok.inj h⟩

theorem map_eq_error {ε α β : Type} {x : Except ε α} {f : α → β} {e : ε} :
    x.map f = .error e ↔ x = .error e := by
  cases x <;> simp [Except.map]

theorem exists_map_eq_ok {ε α β : Type} {x : Except ε α} {f : α → β} :
    (∃ b, x.map f = .ok b) ↔ ∃ a, x = .ok a := by
  cases x <;> simp [Except.map]

theorem mapError_eq_ok {ε ε' α : Type} {x : Except ε α} {f : ε → ε'} {a : α} :
    x.mapError f = .ok a ↔ x = .ok a := by
  cases x <;> simp [Except.mapError]

theorem mapError_eq_error {ε ε' α : Type} {x : Except ε α} {f : ε → ε'} {e : ε'} :
    x.mapError f = .error e ↔ ∃ e', x = .error e' ∧ f e' = e := by
  cases x <;> simp [Except.mapError]

theorem exists_eq_ok {ε α : Type} {x : Except ε α} (h : x.toOption.isSome = true) :
    ∃ a, x = .ok a := by
  cases x with
  | error e => cases h
  | ok a => exact ⟨a, rfl⟩

theorem mapM_eq_ok {ε α β : Type} {f : α → Except ε β} {as : List α} {bs : List β} :
    as.mapM f = .ok bs ↔ List.Forall₂ (fun a b => f a = .ok b) as bs := by
  induction as generalizing bs with
  | nil => rw [List.mapM_nil, pure_eq_ok, List.forall₂_nil_left_iff, eq_comm]
  | cons a as ih =>
    simp only [List.mapM_cons, bind_eq_ok, pure_eq_ok, ih, List.forall₂_cons_left_iff]
    constructor
    · rintro ⟨b, hb, bs, hbs, rfl⟩
      exact ⟨b, bs, hb, hbs, rfl⟩
    · rintro ⟨b, bs, hb, hbs, rfl⟩
      exact ⟨b, hb, bs, hbs, rfl⟩

/-- A list fails with the error of the first element that fails. -/
theorem mapM_eq_error {ε α β : Type} {f : α → Except ε β} {as : List α} {e : ε} :
    as.mapM f = .error e ↔ ∃ before a after, as = before ++ a :: after ∧
      (∀ a ∈ before, ∃ b, f a = .ok b) ∧ f a = .error e := by
  induction as with
  | nil =>
    rw [List.mapM_nil, pure_eq_error]
    exact iff_of_false id fun ⟨before, a, after, heq, _⟩ => by simp at heq
  | cons a as ih =>
    simp only [List.mapM_cons, bind_eq_error, pure_eq_error, ih]
    constructor
    · rintro (he | ⟨b, hb, ⟨before, a', after, rfl, hbefore, he⟩ | ⟨_, _, hfalse⟩⟩)
      · exact ⟨[], a, as, rfl, by simp, he⟩
      · exact ⟨a :: before, a', after, rfl, List.forall_mem_cons.2 ⟨⟨b, hb⟩, hbefore⟩, he⟩
      · exact hfalse.elim
    · rintro ⟨before, a', after, heq, hbefore, he⟩
      cases before with
      | nil =>
        obtain ⟨rfl, -⟩ := List.cons.inj heq
        exact .inl he
      | cons a'' before =>
        obtain ⟨rfl, rfl⟩ := List.cons.inj heq
        obtain ⟨⟨b, hb⟩, hbefore⟩ := List.forall_mem_cons.1 hbefore
        exact .inr ⟨b, hb, .inl ⟨before, a', after, rfl, hbefore, he⟩⟩

theorem exists_mem_of_mapM {ε α β : Type} {f : α → Except ε β} {as : List α} {bs : List β}
    (h : as.mapM f = .ok bs) {a : α} (ha : a ∈ as) : ∃ b ∈ bs, f a = .ok b :=
  exists_right_of_forall₂ (mapM_eq_ok.1 h) ha

theorem mem_mapM {ε α β : Type} {f : α → Except ε β} {as : List α} {bs : List β}
    (h : as.mapM f = .ok bs) {b : β} : b ∈ bs ↔ ∃ a ∈ as, f a = .ok b := by
  refine ⟨exists_left_of_forall₂ (mapM_eq_ok.1 h), ?_⟩
  rintro ⟨a, ha, hab⟩
  obtain ⟨b', hb', hab'⟩ := exists_mem_of_mapM h ha
  obtain rfl := Except.ok.inj (hab.symm.trans hab')
  exact hb'

/-- What the results of a list are like when each is like the element that it is the result of. -/
theorem map_eq_map_of_mapM {ε α β γ : Type} {f : α → Except ε β} {as : List α} {bs : List β}
    {g : α → γ} {g' : β → γ} (h : as.mapM f = .ok bs) (hg : ∀ a b, f a = .ok b → g' b = g a) :
    bs.map g' = as.map g := by
  rw [eq_comm, ← List.forall₂_eq_eq_eq, List.forall₂_map_left_iff, List.forall₂_map_right_iff]
  exact (mapM_eq_ok.1 h).imp fun a b hab => (hg a b hab).symm

theorem mapM_ofFn {ε α β : Type} {n : Nat} {f : α → Except ε β} {a : Fin n → α} {b : Fin n → β}
    (h : ∀ i, f (a i) = .ok (b i)) : (List.ofFn a).mapM f = .ok (List.ofFn b) := by
  rw [mapM_eq_ok, List.forall₂_iff_get]
  refine ⟨by simp, fun i _ _ => ?_⟩
  simpa using h _

theorem exists_mapM_eq_ok {ε α β : Type} {f : α → Except ε β} {as : List α} :
    (∃ bs, as.mapM f = .ok bs) ↔ ∀ a ∈ as, ∃ b, f a = .ok b := by
  constructor
  · rintro ⟨bs, h⟩ a ha
    obtain ⟨b, -, hb⟩ := exists_mem_of_mapM h ha
    exact ⟨b, hb⟩
  · intro h
    choose b hb using fun i => h (as.get i) (as.get_mem i)
    exact ⟨List.ofFn b, by rw [← mapM_ofFn hb, List.ofFn_get]⟩

end AnnotationQuery
