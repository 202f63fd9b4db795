import Mathlib.Data.List.Forall2
import Mathlib.Data.List.Nodup
import Mathlib.Data.List.Pairwise
import Mathlib.Tactic.Common

/-!
# Lists

Results:
* `Gains`: one list is another one with one more item.
* `append_cons_inj`, `append_inj_of_split`: how a list is split at an item, and into items with a
  property and items without it.
* `lookup_eq_some_of_mem`: looking a key up.
* `forall₂_of_map_eq`, `forall₂_trans`, `forall₂_filter_filterMap`: lists whose items are related
  one by one.
-/

namespace AnnotationQuery

/-! ## One more item -/

section Gains

variable {α β : Type} {x : α} {l l' : List α}

/-- The second list is the first one with one more item. -/
def Gains (x : α) (l l' : List α) : Prop :=
  ∃ before after, l = before ++ after ∧ l' = before ++ x :: after

theorem Gains.mem_iff (h : Gains x l l') {y : α} : y ∈ l' ↔ y ∈ l ∨ y = x := by
  obtain ⟨before, after, rfl, rfl⟩ := h
  simp only [List.mem_append, List.mem_cons]
  constructor
  · rintro (hy | rfl | hy)
    · exact .inl (.inl hy)
    · exact .inr rfl
    · exact .inl (.inr hy)
  · rintro ((hy | hy) | rfl)
    · exact .inl hy
    · exact .inr (.inr hy)
    · exact .inr (.inl rfl)

/-- A list has one more item when that is put in front. -/
theorem gains_cons (x : α) (l : List α) : Gains x l (x :: l) :=
  ⟨[], l, rfl, rfl⟩

theorem Gains.perm (h : Gains x l l') : l'.Perm (x :: l) := by
  obtain ⟨before, after, rfl, rfl⟩ := h
  exact List.perm_middle

theorem Gains.sublist (h : Gains x l l') : l.Sublist l' := by
  obtain ⟨before, after, rfl, rfl⟩ := h
  exact (List.Sublist.refl before).append (List.sublist_cons_self x after)

theorem Gains.map (f : α → β) (h : Gains x l l') : Gains (f x) (l.map f) (l'.map f) := by
  obtain ⟨before, after, rfl, rfl⟩ := h
  exact ⟨before.map f, after.map f, List.map_append, by rw [List.map_append, List.map_cons]⟩

theorem Gains.flatMap {f : α → List β} {y : β} (h : Gains x l l') (hx : f x = [y]) :
    Gains y (l.flatMap f) (l'.flatMap f) := by
  obtain ⟨before, after, rfl, rfl⟩ := h
  refine ⟨before.flatMap f, after.flatMap f, List.flatMap_append, ?_⟩
  rw [List.flatMap_append, List.flatMap_cons, hx]
  rfl

theorem Gains.filter {p : α → Bool} (h : Gains x l l') (hx : p x = true) :
    Gains x (l.filter p) (l'.filter p) := by
  obtain ⟨before, after, rfl, rfl⟩ := h
  refine ⟨before.filter p, after.filter p, List.filter_append .., ?_⟩
  rw [List.filter_append, List.filter_cons_of_pos hx]

/-- Lists that agree apart from an item, of which the second has it once and the first has not. -/
theorem gains_of_filter [DecidableEq α] (hn : l'.Nodup) (hmem : x ∈ l') (hnot : x ∉ l)
    (h : l'.filter (· ≠ x) = l.filter (· ≠ x)) : Gains x l l' := by
  obtain ⟨before, after, rfl⟩ := List.append_of_mem hmem
  refine ⟨before, after, ?_, rfl⟩
  have hout := List.nodup_middle.1 hn
  rw [List.nodup_cons, List.mem_append, not_or] at hout
  have hkeep : ∀ {k : List α}, x ∉ k → k.filter (· ≠ x) = k := fun hk =>
    List.filter_eq_self.2 fun a ha => by
      have hne : a ≠ x := fun heq => hk (heq ▸ ha)
      simpa using hne
  rw [hkeep hnot, List.filter_append, List.filter_cons_of_neg (by simp), hkeep hout.1.1,
    hkeep hout.1.2] at h
  exact h.symm

end Gains

/-! ## Repetitions -/

/-- What one of different items makes when the others make nothing. -/
theorem flatMap_eq_of_nodup {α β : Type} {l : List α} {x : α} {f : α → List β} (hl : l.Nodup)
    (hx : x ∈ l) (hf : ∀ y ∈ l, y ≠ x → f y = []) : l.flatMap f = f x := by
  obtain ⟨before, after, rfl⟩ := List.append_of_mem hx
  have hout := (List.nodup_cons.1 (List.nodup_middle.1 hl)).1
  rw [List.mem_append, not_or] at hout
  have hnone : ∀ {k : List α}, (∀ y ∈ k, y ∈ before ++ x :: after) → x ∉ k → k.flatMap f = [] :=
    fun hk hnot => List.flatMap_eq_nil_iff.2 fun y hy => hf y (hk y hy) fun heq => hnot (heq ▸ hy)
  rw [List.flatMap_append, List.flatMap_cons, hnone (fun y hy => List.mem_append_left _ hy) hout.1,
    hnone (fun y hy => List.mem_append_right _ (List.mem_cons_of_mem _ hy)) hout.2, List.nil_append,
    List.append_nil]

theorem nodup_eraseDups {α : Type} [BEq α] [LawfulBEq α] (l : List α) : l.eraseDups.Nodup := by
  induction h : l.length using Nat.strongRecOn generalizing l with
  | ind n ih =>
    cases l with
    | nil => exact List.nodup_nil
    | cons a as =>
      rw [List.eraseDups_cons, List.nodup_cons]
      constructor
      · intro ha
        rw [List.mem_eraseDups, List.mem_filter] at ha
        simp at ha
      · have hlen := List.length_filter_le (fun b => !b == a) as
        exact ih _ (by rw [← h, List.length_cons]; omega) _ rfl

theorem nodup_filterMap_iff {α β : Type} {f : α → Option β} {l : List α} (hl : l.Nodup) :
    (l.filterMap f).Nodup ↔ ∀ a ∈ l, ∀ b ∈ l, ∀ x, f a = some x → f b = some x → a = b := by
  rw [List.Nodup, List.pairwise_filterMap]
  constructor
  · intro hpair a ha b hb x hax hbx
    by_contra hne
    have hsymm : Std.Symm fun a b => ∀ x, f a = some x → ∀ y, f b = some y → x ≠ y :=
      ⟨fun a b h x hx y hy heq => h y hy x hx heq.symm⟩
    exact hpair.forall ha hb hne x hax x hbx rfl
  · intro hall
    refine hl.imp_of_mem fun {a b} ha hb hne x hax y hby heq => hne ?_
    exact hall a ha b hb x hax (heq ▸ hby)

/-! ## Splitting -/

/-- A list is split in one way only at the first place where an item stands. -/
theorem append_cons_inj {α : Type} {a : α} {xs ys us vs : List α} (hx : a ∉ xs) (hy : a ∉ ys)
    (h : xs ++ a :: us = ys ++ a :: vs) : xs = ys ∧ us = vs := by
  induction xs generalizing ys with
  | nil =>
    cases ys with
    | nil => exact ⟨rfl, (List.cons.inj h).2⟩
    | cons y ys => exact absurd ((List.cons.inj h).1 ▸ List.mem_cons_self) hy
  | cons x xs ih =>
    cases ys with
    | nil => exact absurd ((List.cons.inj h).1 ▸ List.mem_cons_self) hx
    | cons y ys =>
      obtain ⟨rfl, htail⟩ := List.cons.inj h
      obtain ⟨rfl, hrest⟩ := ih (fun hm => hx (List.mem_cons_of_mem _ hm))
        (fun hm => hy (List.mem_cons_of_mem _ hm)) htail
      exact ⟨rfl, hrest⟩

/-- A list is split in one way only into items with a property and items without it. -/
theorem append_inj_of_split {α : Type} {p : α → Prop} {a b a' b' : List α} (h : a ++ b = a' ++ b')
    (ha : ∀ x ∈ a, p x) (hb : ∀ x ∈ b, ¬p x) (ha' : ∀ x ∈ a', p x) (hb' : ∀ x ∈ b', ¬p x) :
    a = a' ∧ b = b' := by
  rcases List.append_eq_append_iff.1 h with ⟨k, rfl, rfl⟩ | ⟨k, rfl, rfl⟩
  · cases k with
    | nil => simp
    | cons x k => exact absurd (ha' x (by simp)) (hb x (by simp))
  · cases k with
    | nil => simp
    | cons x k => exact absurd (ha x (by simp)) (hb' x (by simp))

/-! ## Looking keys up -/

/-- Looking up a key that stands in the list once gives what stands with it. -/
theorem lookup_eq_some_of_mem {α β : Type} [BEq α] [LawfulBEq α] {l : List (α × β)} {a : α} {b : β}
    (hl : (l.map Prod.fst).Nodup) (h : (a, b) ∈ l) : l.lookup a = some b := by
  induction l with
  | nil => cases h
  | cons entry l ih =>
    obtain ⟨a', b'⟩ := entry
    obtain ⟨hnot, hl⟩ := List.nodup_cons.1 hl
    rcases List.mem_cons.1 h with heq | h
    · obtain ⟨rfl, rfl⟩ := Prod.mk.inj heq
      exact List.lookup_cons_self
    · have hne : a ≠ a' := fun heq => hnot (List.mem_map.2 ⟨_, h, heq⟩)
      rw [List.lookup_cons, beq_eq_false_iff_ne.2 hne]
      exact ih hl h

/-! ## Pairs -/

/-- Pairs with given first components are those components with some others. -/
theorem exists_ofFn_of_map_fst {α β : Type} {n : Nat} {l : List (α × β)} {a : Fin n → α}
    (h : l.map Prod.fst = List.ofFn a) : ∃ b : Fin n → β, l = List.ofFn fun i => (a i, b i) := by
  have hlength : l.length = n := by simpa using congrArg List.length h
  subst hlength
  refine ⟨fun i => l[i].2, List.ext_getElem (by simp) fun k hk _ => ?_⟩
  have hfst : l[k].1 = a ⟨k, hk⟩ := by
    have hget := List.getElem_of_eq h (by simpa using hk)
    simpa using hget
  rw [List.getElem_ofFn]
  exact Prod.ext hfst rfl

/-! ## Related items -/

theorem exists_right_of_forall₂ {α β : Type} {R : α → β → Prop} {as : List α} {bs : List β}
    (h : List.Forall₂ R as bs) {a : α} (ha : a ∈ as) : ∃ b ∈ bs, R a b := by
  induction h with
  | nil => cases ha
  | cons hab _ ih =>
    rcases List.mem_cons.1 ha with rfl | ha
    · exact ⟨_, List.mem_cons_self, hab⟩
    · obtain ⟨b, hb, hr⟩ := ih ha
      exact ⟨b, List.mem_cons_of_mem _ hb, hr⟩

theorem exists_left_of_forall₂ {α β : Type} {R : α → β → Prop} {as : List α} {bs : List β}
    (h : List.Forall₂ R as bs) {b : β} (hb : b ∈ bs) : ∃ a ∈ as, R a b :=
  exists_right_of_forall₂ (List.Forall₂.flip (R := fun b a => R a b) h) hb

theorem forall₂_of_map_eq {α β γ δ : Type} {R : α → β → Prop} {f : γ → δ} {g : β → δ} {as : List α}
    {bs : List β} {cs : List γ} (h : List.Forall₂ R as bs) (heq : cs.map f = bs.map g) :
    List.Forall₂ (fun a c => ∃ b, R a b ∧ f c = g b) as cs := by
  induction h generalizing cs with
  | nil =>
    rw [List.map_eq_nil_iff.1 heq]
    exact .nil
  | cons hab _ ih =>
    cases cs with
    | nil => cases heq
    | cons c cs =>
      obtain ⟨hc, hcs⟩ := List.cons.inj heq
      exact .cons ⟨_, hab, hc⟩ (ih hcs)

theorem forall₂_trans {α β γ : Type} {R : α → β → Prop} {S : β → γ → Prop} {as : List α}
    {bs : List β} {cs : List γ} (h : List.Forall₂ R as bs) (h' : List.Forall₂ S bs cs) :
    List.Forall₂ (fun a c => ∃ b, R a b ∧ S b c) as cs := by
  induction h generalizing cs with
  | nil =>
    cases h'
    exact .nil
  | cons hab _ ih =>
    cases h' with
    | cons hbc h' => exact .cons ⟨_, hab, hbc⟩ (ih h')

/-- What is filtered from one list and what is made from the other one, if both go by the same. -/
theorem forall₂_filter_filterMap {α β γ : Type} {R : β → γ → Prop} {g : α → β} {p : β → Bool}
    {f : α → Option γ} {as : List α} (h : ∀ a ∈ as,
      (p (g a) = true → ∃ b, f a = some b ∧ R (g a) b) ∧ (p (g a) = false → f a = none)) :
    List.Forall₂ R ((as.map g).filter p) (as.filterMap f) := by
  induction as with
  | nil => exact .nil
  | cons a as ih =>
    rw [List.forall_mem_cons] at h
    cases hp : p (g a) with
    | true =>
      obtain ⟨b, hb, hr⟩ := h.1.1 hp
      rw [List.map_cons, List.filter_cons_of_pos hp, List.filterMap_cons_some hb]
      exact .cons hr (ih h.2)
    | false =>
      rw [List.map_cons, List.filter_cons_of_neg (by simp [hp]),
        List.filterMap_cons_none (h.1.2 hp)]
      exact ih h.2

end AnnotationQuery
