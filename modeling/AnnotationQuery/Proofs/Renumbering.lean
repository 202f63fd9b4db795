import AnnotationQuery.Proofs.Substitution
import Mathlib.Algebra.BigOperators.Group.List.Basic
import Mathlib.Algebra.Group.End
import Mathlib.Algebra.GroupWithZero.Nat
import Mathlib.Data.List.FinRange

/-!
# Numbers in another order

Items that take consecutive numbers in turn take other numbers when they come in another order. A
permutation of the numbers leads from the ones to the others; it moves no number that comes after
all items. In this way lifting the same things in another order differs by a renaming of parameters.

Results:
* `blocks_perm`: the numbers of items in another order.
* `Lifting.Lawful.lift_map`: lifting a list numbers its items in turn.
* `Lifting.lift_permuted`: lifting a list in another order.
-/

namespace AnnotationQuery

/-! ## Numbers in turn -/

section Numbered

variable {ι : Type} {size : ι → Nat}

/-- The items, each with the first of its numbers when they take their numbers in turn. -/
def numbered (size : ι → Nat) (n : Nat) : List ι → List (ι × Nat)
  | [] => []
  | i :: is => (i, n) :: numbered size (n + size i) is

/-- The items, each with its numbers. -/
def blocks (size : ι → Nat) (n : Nat) (is : List ι) : List (ι × List Nat) :=
  (numbered size n is).map fun (i, start) => (i, List.range' start (size i))

theorem blocks_cons (n : Nat) (i : ι) (is : List ι) :
    blocks size n (i :: is) = (i, List.range' n (size i)) :: blocks size (n + size i) is :=
  rfl

theorem fst_numbered (n : Nat) (is : List ι) : (numbered size n is).map Prod.fst = is := by
  induction is generalizing n with
  | nil => rfl
  | cons i is ih => rw [numbered, List.map_cons, ih]

theorem map_range'_eq_iff {π : Nat → Nat} {s s' k : Nat} :
    (List.range' s k).map π = List.range' s' k ↔ ∀ d < k, π (s + d) = s' + d := by
  simp [List.ext_getElem_iff]

/-- A permutation that moves no number from `n` on does not change the blocks from there on. -/
theorem map_blocks_of_fixed {π : Nat → Nat} {n : Nat} (h : ∀ x, n ≤ x → π x = x) (is : List ι) :
    (blocks size n is).map (Prod.map id (List.map π)) = blocks size n is := by
  induction is generalizing n with
  | nil => rfl
  | cons i is ih =>
    have hhead : (List.range' n (size i)).map π = List.range' n (size i) :=
      map_range'_eq_iff.2 fun d _ => h _ (Nat.le_add_right n d)
    have htail := ih (n := n + size i) fun x hx => h x (by omega)
    rw [blocks_cons, List.map_cons, htail, Prod.map_apply, hhead]
    rfl

/-- Exchanges the `a` numbers from `n` on with the `b` numbers after them. -/
def exchange (n a b : Nat) : Equiv.Perm Nat where
  toFun x := if n ≤ x ∧ x < n + a then x + b else if n + a ≤ x ∧ x < n + a + b then x - a else x
  invFun x := if n ≤ x ∧ x < n + b then x + a else if n + b ≤ x ∧ x < n + b + a then x - b else x
  left_inv x := by
    dsimp only
    split_ifs <;> omega
  right_inv x := by
    dsimp only
    split_ifs <;> omega

theorem exchange_of_outside {n a b x : Nat} (h : x < n ∨ n + a + b ≤ x) : exchange n a b x = x := by
  change (if _ then _ else if _ then _ else _) = _
  rw [if_neg (by omega), if_neg (by omega)]

theorem map_exchange_first (n a b : Nat) :
    (List.range' n a).map (exchange n a b) = List.range' (n + b) a := by
  refine map_range'_eq_iff.2 fun d hd => ?_
  change (if _ then _ else _) = _
  rw [if_pos (by omega)]
  omega

theorem map_exchange_second (n a b : Nat) :
    (List.range' (n + a) b).map (exchange n a b) = List.range' n b := by
  refine map_range'_eq_iff.2 fun d hd => ?_
  change (if _ then _ else if _ then _ else _) = _
  rw [if_neg (by omega), if_pos (by omega)]
  omega

/-- When items come in another order, a permutation of numbers leads from their old numbers to their
new ones. It only moves numbers that belong to items. -/
theorem blocks_perm {is js : List ι} (h : is.Perm js) (n : Nat) :
    ∃ π : Equiv.Perm Nat, (∀ x, x < n ∨ n + (is.map size).sum ≤ x → π x = x) ∧
      ((blocks size n is).map (Prod.map id (List.map π))).Perm (blocks size n js) := by
  induction h generalizing n with
  | nil => exact ⟨1, fun _ _ => rfl, .refl _⟩
  | @cons i is js _ ih =>
    obtain ⟨π, hfix, hperm⟩ := ih (n + size i)
    refine ⟨π, fun x hx => hfix x ?_, ?_⟩
    · rw [List.map_cons, List.sum_cons] at hx
      omega
    · have hhead : (List.range' n (size i)).map π = List.range' n (size i) :=
        map_range'_eq_iff.2 fun d hd => hfix _ (.inl (by omega))
      rw [blocks_cons, blocks_cons, List.map_cons, Prod.map_apply, hhead]
      exact hperm.cons _
  | swap j i is =>
    -- The two items together take the same numbers as before, so nothing behind them moves.
    refine ⟨exchange n (size i) (size j), fun x hx => exchange_of_outside ?_, ?_⟩
    · simp only [List.map_cons, List.sum_cons] at hx
      omega
    · have htail : (blocks size (n + size i + size j) is).map
          (Prod.map id (List.map (exchange n (size i) (size j)))) =
          blocks size (n + size j + size i) is := by
        rw [map_blocks_of_fixed fun x hx => exchange_of_outside (.inr hx), Nat.add_right_comm]
      simp only [blocks_cons, List.map_cons, Prod.map_apply, id_eq, map_exchange_first,
        map_exchange_second, htail]
      exact .swap _ _ _
  | @trans is js ks hij _ ih₁ ih₂ =>
    obtain ⟨π₁, hfix₁, hperm₁⟩ := ih₁ n
    obtain ⟨π₂, hfix₂, hperm₂⟩ := ih₂ n
    have hsum : (is.map size).sum = (js.map size).sum := (hij.map size).sum_eq
    refine ⟨π₁.trans π₂, fun x hx => ?_, ?_⟩
    · rw [Equiv.trans_apply, hfix₁ x hx, hfix₂ x (hsum ▸ hx)]
    · have hcomp : (blocks size n is).map (Prod.map id (List.map (π₁.trans π₂))) =
          ((blocks size n is).map (Prod.map id (List.map π₁))).map
            (Prod.map id (List.map π₂)) := by
        simp [List.map_map, Function.comp_def, Prod.map]
      rw [hcomp]
      exact (hperm₁.map _).trans hperm₂

end Numbered

/-! ## Lifting in turn -/

namespace Lifting

variable {α ι : Type} {L : Lifting α} {a : ι → α}

/-- The number of values that are lifted. -/
def size (L : Lifting α) (a : α) : Nat :=
  (L.lift 0 a).2.length

/-- Lifting a list numbers its items in turn. -/
theorem lift_map (h : ∀ i, L.Lawful (a i)) (n : Nat) (is : List ι) :
    L.list.lift n (is.map a) =
      ((numbered (L.size ∘ a) n is).map fun (i, start) => (L.lift start (a i)).1,
        is.flatMap fun i => (L.lift 0 (a i)).2) := by
  induction is generalizing n with
  | nil => rfl
  | cons i is ih =>
    have hvalues := (h i).values n 0
    have hrest : liftEach L.lift (n + (L.lift 0 (a i)).2.length) (is.map a) = _ :=
      ih (n + (L.lift 0 (a i)).2.length)
    simp only [list, List.map_cons, liftEach, hvalues, hrest]
    rfl

/-- The values with their numbers are those of the items with the numbers of the items. -/
theorem zipIdx_values (n : Nat) (is : List ι) :
    (is.flatMap fun i => (L.lift 0 (a i)).2).zipIdx n =
      (blocks (L.size ∘ a) n is).flatMap fun block => (L.lift 0 (a block.1)).2.zip block.2 := by
  induction is generalizing n with
  | nil => rfl
  | cons i is ih =>
    rw [List.flatMap_cons, List.zipIdx_append, ih, blocks_cons, List.flatMap_cons,
      List.zipIdx_eq_zip_range']
    rfl

theorem map_zip_blocks (π : Nat → Nat) (bs : List (ι × List Nat)) (vs : ι → List Value) :
    (bs.flatMap fun block => (vs block.1).zip block.2).map (Prod.map id π) =
      (bs.map (Prod.map id (List.map π))).flatMap fun block => (vs block.1).zip block.2 := by
  rw [List.map_flatMap, List.flatMap_map]
  exact List.flatMap_congr fun _ _ => List.zip_map_right.symm

/-- The same things lifted in another order: a permutation of numbers, which moves only the numbers
of the lifted values, leads from the parameters of the ones to those of the others. -/
theorem lift_permuted {n : Nat} {a : Fin n → α} (h : ∀ i, L.Lawful (a i))
    (σ : Equiv.Perm (Fin n)) :
    ∃ π : Equiv.Perm Nat, (∀ x, (L.list.lift 0 (List.ofFn a)).2.length ≤ x → π x = x) ∧
      (((L.list.lift 0 (List.ofFn a)).2.zipIdx).map (Prod.map id π)).Perm
        (L.list.lift 0 (List.ofFn (a ∘ σ))).2.zipIdx ∧
      ∃ b : Fin n → α, (L.list.lift 0 (List.ofFn a)).1 = List.ofFn b ∧
        ∀ f, (∀ x, f (Parameters.nameOf x) = .parameter (Parameters.nameOf (π x))) →
          (L.list.lift 0 (List.ofFn (a ∘ σ))).1 = List.ofFn fun i => L.substitute f (b (σ i)) := by
  have hinOrder : List.ofFn a = (List.ofFn id).map a := by
    rw [List.map_ofFn, Function.comp_id]
  have hpermuted : List.ofFn (a ∘ σ) = (List.ofFn σ).map a := List.map_ofFn.symm
  have hperm : (List.ofFn id : List (Fin n)).Perm (List.ofFn σ) :=
    (Equiv.Perm.ofFn_comp_perm σ id).symm
  obtain ⟨π, hfix, hblocks⟩ := blocks_perm hperm 0
  obtain ⟨start, hstart⟩ := exists_ofFn_of_map_fst (fst_numbered 0 (List.ofFn id))
  obtain ⟨start', hstart'⟩ := exists_ofFn_of_map_fst (fst_numbered 0 (List.ofFn σ))
  -- No item comes twice, so a block is led to the block of the same item in the new order.
  have hblock : ∀ i, (List.range' (start (σ i)) (L.size (a (σ i)))).map π =
      List.range' (start' i) (L.size (a (σ i))) := by
    intro i
    have hmem : (σ i, List.range' (start' i) (L.size (a (σ i)))) ∈
        blocks (L.size ∘ a) 0 (List.ofFn σ) := by
      rw [blocks, hstart']
      exact List.mem_map.2 ⟨_, List.mem_ofFn.2 ⟨i, rfl⟩, rfl⟩
    rw [← hblocks.mem_iff, blocks, hstart] at hmem
    obtain ⟨_, hblock, heq⟩ := List.mem_map.1 hmem
    obtain ⟨_, hitem, rfl⟩ := List.mem_map.1 hblock
    obtain ⟨j, rfl⟩ := List.mem_ofFn.1 hitem
    obtain ⟨hj, hnumbers⟩ := Prod.mk.inj heq
    obtain rfl : j = σ i := hj
    exact hnumbers
  refine ⟨π, fun x hx => hfix x (.inr ?_), ?_, fun i => (L.lift (start i) (a i)).1, ?_, ?_⟩
  · rw [hinOrder, lift_map h, List.length_flatMap] at hx
    rw [Nat.zero_add]
    exact hx
  · rw [hinOrder, hpermuted, lift_map h, lift_map h, zipIdx_values, zipIdx_values,
      map_zip_blocks π _ fun i => (L.lift 0 (a i)).2]
    exact hblocks.flatMap_right _
  · rw [hinOrder, lift_map h, hstart, List.map_ofFn]
    rfl
  · intro f hf
    rw [hpermuted, lift_map h, hstart', List.map_ofFn]
    refine congrArg List.ofFn (funext fun i => ?_)
    refine ((h (σ i)).renames (start (σ i)) (start' i) f fun d hd => ?_).symm
    rw [(h (σ i)).values _ 0] at hd
    rw [hf, map_range'_eq_iff.1 (hblock i) d hd]

end Lifting

end AnnotationQuery
