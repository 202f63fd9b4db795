import AnnotationQuery.Node.Collected
import AnnotationQuery.Proofs.Dependency
import Mathlib.Data.List.Induction
import Mathlib.Data.List.Nodup

/-!
# What is collected

A node is collected together with the nodes before it, and the walk stops at the first one that is
there already. Stopping is right as long as what is collected is closed: with each required node all
nodes before it are required, and with each optional node all nodes before it are required or
optional. Every insertion keeps this, in whatever order nodes are required and wanted. In the end
the required nodes are all that the nodes which were required need, and the optional ones all that
the nodes which were wanted need besides.

Results:
* `Collected.Sound.require`, `Collected.Sound.want`: what is collected stays closed, and no node is
  collected twice.
* `Collected.Sound.mem_required_require`, `Collected.Sound.mem_optional_require`,
  `Collected.Sound.mem_optional_want`: what an insertion changes.
* `Collected.sound_run`, `Collected.mem_required_run`, `Collected.mem_optional_run`: what is
  collected in the end.
* `Collected.mem_required_ofNodes`, `Collected.mem_optional_ofNodes`: the same when nodes are
  required first and wanted then.
-/

namespace AnnotationQuery

/-! ## The way from a node to the nodes before it -/

namespace Node

theorem length_closure_lt {n k : Node} (h : n.dependency? = some k) :
    k.closure.length < n.closure.length := by
  rw [n.closure_eq, h]
  simp

/-- A node that another one needs is no farther from the anchor. -/
theorem Needs.length_closure_le {n m : Node} (h : n.Needs m) :
    m.closure.length ≤ n.closure.length := by
  induction h with
  | refl _ => exact Nat.le_refl _
  | step hd _ ih => exact Nat.le_trans ih (Nat.le_of_lt (length_closure_lt hd))

/-- On the way from a node each node needs those that come later, and none is passed twice. -/
theorem pairwise_closure (n : Node) : n.closure.Pairwise fun m k => m.Needs k ∧ m ≠ k := by
  induction hlen : n.closure.length using Nat.strongRecOn generalizing n with
  | ind len ih =>
    rw [n.closure_eq]
    cases hd : n.dependency? with
    | none => exact List.pairwise_singleton _ _
    | some k =>
      have hlt := length_closure_lt hd
      refine List.pairwise_cons.2 ⟨fun m hm => ?_, ih _ (hlen ▸ hlt) k rfl⟩
      have hk : k.Needs m := mem_closure_iff.1 hm
      refine ⟨.step hd hk, ?_⟩
      rintro rfl
      exact absurd hk.length_closure_le (Nat.not_le.2 hlt)

end Node

namespace Collected

/-! ## One walk -/

variable {s : Collected} {n m : Node} {nodes : List Node}

/-- Nodes each of which stands for the later ones: if it is in the set, so are they. -/
def Stands (nodes set : List Node) : Prop :=
  nodes.Pairwise fun m k => m ≠ k ∧ (m ∈ set → k ∈ set)

theorem stands_closure {set : List Node} (hset : Node.Closed set) (n : Node) :
    Stands n.closure set :=
  n.pairwise_closure.imp fun hmk => ⟨hmk.2, fun hm => hset.needs hm hmk.1⟩

/-- The walk goes on behind a node that it has added to the set. -/
theorem Stands.tail {set set' : List Node} (h : Stands (n :: nodes) set)
    (hset : ∀ m, m ∈ set' ↔ m ∈ set ∨ m = n) : Stands nodes set' := by
  obtain ⟨hn, hnodes⟩ := List.pairwise_cons.1 h
  refine hnodes.imp_of_mem fun {m k} hm hk hmk => ⟨hmk.1, fun hin => ?_⟩
  rw [hset] at hin ⊢
  rcases hin with hin | rfl
  · exact .inl (hmk.2 hin)
  · exact absurd rfl (hn m hm).1

theorem nodup_requireChain (hs : (s.required ++ s.optional).Nodup) (nodes : List Node) :
    ((s.requireChain nodes).required ++ (s.requireChain nodes).optional).Nodup := by
  induction nodes generalizing s with
  | nil => exact hs
  | cons n nodes ih =>
    obtain ⟨hrequired, hoptional, hdisjoint⟩ := List.nodup_append'.1 hs
    have herase : List.Disjoint s.required (s.optional.erase n) := fun _ hm hm' =>
      hdisjoint hm (List.mem_of_mem_erase hm')
    rw [requireChain]
    simp only
    split
    · exact List.nodup_append'.2 ⟨hrequired, hoptional.erase n, herase⟩
    · rename_i hnot
      refine ih ?_
      rw [List.append_assoc, List.nodup_append', List.singleton_append, List.nodup_cons,
        List.disjoint_cons_right]
      exact ⟨hrequired, ⟨hoptional.not_mem_erase, hoptional.erase n⟩, hnot, herase⟩

theorem mem_required_requireChain (h : Stands nodes s.required) :
    m ∈ (s.requireChain nodes).required ↔ m ∈ s.required ∨ m ∈ nodes := by
  induction nodes generalizing s with
  | nil => simp [requireChain]
  | cons n nodes ih =>
    rw [requireChain]
    simp only
    split
    · rename_i hin
      have hnodes := (List.pairwise_cons.1 h).1
      rw [List.mem_cons, or_iff_left_of_imp]
      rintro (rfl | hm)
      · exact hin
      · exact (hnodes m hm).2 hin
    · rw [ih (h.tail (by simp)), List.mem_append, List.mem_singleton, List.mem_cons, or_assoc]

theorem mem_optional_requireChain (h : Stands nodes s.required)
    (hs : (s.required ++ s.optional).Nodup) :
    m ∈ (s.requireChain nodes).optional ↔ m ∈ s.optional ∧ m ∉ nodes := by
  induction nodes generalizing s with
  | nil => simp [requireChain]
  | cons n nodes ih =>
    obtain ⟨-, hoptional, hdisjoint⟩ := List.nodup_append'.1 hs
    have hchain := nodup_requireChain hs [n]
    rw [requireChain] at hchain ⊢
    simp only [requireChain] at hchain ⊢
    split
    · rename_i hin
      have hnodes := (List.pairwise_cons.1 h).1
      rw [hoptional.mem_erase_iff, List.mem_cons, not_or, and_comm, and_congr_right_iff]
      refine fun hm => (and_iff_left fun hmem => ?_).symm
      exact hdisjoint ((hnodes m hmem).2 hin) hm
    · rename_i hnot
      rw [if_neg hnot] at hchain
      rw [ih (h.tail (by simp)) hchain, hoptional.mem_erase_iff, List.mem_cons, not_or, and_assoc,
        and_left_comm]

theorem required_wantChain (s : Collected) (nodes : List Node) :
    (s.wantChain nodes).required = s.required := by
  induction nodes generalizing s with
  | nil => rfl
  | cons n nodes ih =>
    rw [wantChain]
    split
    · rfl
    · split
      · rfl
      · rw [ih]

theorem nodup_wantChain (hs : (s.required ++ s.optional).Nodup) (nodes : List Node) :
    ((s.wantChain nodes).required ++ (s.wantChain nodes).optional).Nodup := by
  induction nodes generalizing s with
  | nil => exact hs
  | cons n nodes ih =>
    rw [wantChain]
    split
    · exact hs
    · rename_i hrequired
      split
      · exact hs
      · rename_i hoptional
        refine ih ?_
        rw [← List.append_assoc]
        exact hs.append (List.nodup_singleton n) (by simp [hrequired, hoptional])

theorem mem_optional_wantChain (hrequired : Stands nodes s.required)
    (hbound : Stands nodes (s.required ++ s.optional)) :
    m ∈ (s.wantChain nodes).optional ↔ m ∈ s.optional ∨ m ∈ nodes ∧ m ∉ s.required := by
  induction nodes generalizing s with
  | nil => simp [wantChain]
  | cons n nodes ih =>
    have hnodes := (List.pairwise_cons.1 hrequired).1
    have hnodes' := (List.pairwise_cons.1 hbound).1
    rw [wantChain]
    split
    · rename_i hin
      rw [or_iff_left]
      rintro ⟨hm, hnot⟩
      rcases List.mem_cons.1 hm with rfl | hm
      · exact hnot hin
      · exact hnot ((hnodes m hm).2 hin)
    · rename_i hnot
      split
      · rename_i hin
        rw [or_iff_left_of_imp]
        rintro ⟨hm, hmnot⟩
        rcases List.mem_cons.1 hm with rfl | hm
        · exact hin
        · have hmem := (hnodes' m hm).2 (List.mem_append_right _ hin)
          exact (List.mem_append.1 hmem).resolve_left hmnot
      · have hbound' : Stands nodes (s.required ++ (s.optional ++ [n])) :=
          hbound.tail fun m => by rw [← List.append_assoc, List.mem_append, List.mem_singleton]
        have htail : Stands nodes s.required := (List.pairwise_cons.1 hrequired).2
        rw [ih (s := ⟨s.required, s.optional ++ [n]⟩) htail hbound', List.mem_append,
          List.mem_singleton, List.mem_cons, or_assoc]
        refine or_congr_right ⟨?_, ?_⟩
        · rintro (rfl | ⟨hm, hmnot⟩)
          · exact ⟨.inl rfl, hnot⟩
          · exact ⟨.inr hm, hmnot⟩
        · rintro ⟨rfl | hm, hmnot⟩
          · exact .inl rfl
          · exact .inr ⟨hm, hmnot⟩

/-! ## One insertion -/

/-- What is collected is closed, and no node is collected twice. -/
structure Sound (s : Collected) : Prop where
  closed_required : Node.Closed s.required
  closed : Node.Closed (s.required ++ s.optional)
  nodup : (s.required ++ s.optional).Nodup

theorem sound_empty : empty.Sound where
  closed_required _ hn := nomatch hn
  closed _ hn := nomatch hn
  nodup := .nil

namespace Sound

theorem mem_required_require (hs : s.Sound) :
    m ∈ (s.require n).required ↔ m ∈ s.required ∨ n.Needs m := by
  rw [require, mem_required_requireChain (stands_closure hs.closed_required n),
    Node.mem_closure_iff]

theorem mem_optional_require (hs : s.Sound) :
    m ∈ (s.require n).optional ↔ m ∈ s.optional ∧ ¬n.Needs m := by
  rw [require, mem_optional_requireChain (stands_closure hs.closed_required n) hs.nodup,
    Node.mem_closure_iff]

theorem mem_optional_want (hs : s.Sound) :
    m ∈ (s.want n).optional ↔ m ∈ s.optional ∨ n.Needs m ∧ m ∉ s.required := by
  rw [want, mem_optional_wantChain (stands_closure hs.closed_required n)
    (stands_closure hs.closed n), Node.mem_closure_iff]

/-- Requiring a node keeps what is collected closed. -/
theorem require (hs : s.Sound) (n : Node) : (s.require n).Sound where
  closed_required k hk m hm := by
    rw [hs.mem_required_require] at hk ⊢
    rcases hk with hk | hk
    · exact .inl (hs.closed_required k hk m hm)
    · exact .inr (hk.trans (.single hm))
  closed k hk m hm := by
    rw [List.mem_append, hs.mem_required_require, hs.mem_optional_require] at hk ⊢
    by_cases hneeds : n.Needs m
    · exact .inl (.inr hneeds)
    · rcases hk with (hk | hk) | ⟨hk, -⟩
      · exact .inl (.inl (hs.closed_required k hk m hm))
      · exact absurd (hk.trans (.single hm)) hneeds
      · rcases List.mem_append.1 (hs.closed k (List.mem_append_right _ hk) m hm) with hin | hin
        · exact .inl (.inl hin)
        · exact .inr ⟨hin, hneeds⟩
  nodup := nodup_requireChain hs.nodup n.closure

/-- Wanting a node keeps what is collected closed. -/
theorem want (hs : s.Sound) (n : Node) : (s.want n).Sound where
  closed_required := by
    rw [Collected.want, required_wantChain]
    exact hs.closed_required
  closed k hk m hm := by
    have hrequired : (s.want n).required = s.required := required_wantChain s n.closure
    rw [List.mem_append, hs.mem_optional_want, hrequired] at hk ⊢
    by_cases hin : m ∈ s.required
    · exact .inl hin
    · rcases hk with hk | hk | ⟨hk, -⟩
      · exact absurd (hs.closed_required k hk m hm) hin
      · have hmem := hs.closed k (List.mem_append_right _ hk) m hm
        exact .inr (.inl ((List.mem_append.1 hmem).resolve_left hin))
      · exact .inr (.inr ⟨hk.trans (.single hm), hin⟩)
  nodup := nodup_wantChain hs.nodup n.closure

end Sound

/-! ## Insertions in any order -/

/-- A node is required or wanted. -/
inductive Request where
  | require (n : Node)
  | want (n : Node)

/-- Inserts a node as requested. -/
def insert (s : Collected) : Request → Collected
  | .require n => s.require n
  | .want n => s.want n

/-- What is collected by requests one after the other. -/
def run (requests : List Request) : Collected :=
  requests.foldl insert empty

theorem run_append (requests : List Request) (r : Request) :
    run (requests ++ [r]) = (run requests).insert r :=
  List.foldl_append

theorem sound_run (requests : List Request) : (run requests).Sound := by
  induction requests using List.reverseRecOn with
  | nil => exact sound_empty
  | append_singleton requests r ih =>
    rw [run_append]
    cases r with
    | require n => exact ih.require n
    | want n => exact ih.want n

/-- The required nodes are what the nodes that were required need. -/
theorem mem_required_run {requests : List Request} :
    m ∈ (run requests).required ↔ ∃ n, .require n ∈ requests ∧ n.Needs m := by
  induction requests using List.reverseRecOn with
  | nil => simp [run, empty]
  | append_singleton requests r ih =>
    rw [run_append]
    cases r with
    | require n =>
      rw [insert, (sound_run requests).mem_required_require, ih]
      simp only [List.mem_append, List.mem_singleton, Request.require.injEq, or_and_right,
        exists_or, exists_eq_left]
    | want n =>
      rw [insert, want, required_wantChain, ih]
      simp

/-- The optional nodes are what the nodes that were wanted need, apart from the required ones. -/
theorem mem_optional_run {requests : List Request} :
    m ∈ (run requests).optional ↔
      (∃ n, .want n ∈ requests ∧ n.Needs m) ∧ m ∉ (run requests).required := by
  induction requests using List.reverseRecOn with
  | nil => simp [run, empty]
  | append_singleton requests r ih =>
    have hs := sound_run requests
    rw [run_append]
    cases r with
    | require n =>
      rw [insert, hs.mem_optional_require, hs.mem_required_require, ih]
      simp only [List.mem_append, List.mem_singleton, reduceCtorEq, or_false]
      tauto
    | want n =>
      have hrequired : ((run requests).want n).required = (run requests).required :=
        required_wantChain _ n.closure
      rw [insert, hs.mem_optional_want, hrequired, ih]
      simp only [List.mem_append, List.mem_singleton, Request.want.injEq, or_and_right,
        exists_or, exists_eq_left]

theorem run_ofNodes (needed wanted : List Node) :
    run (needed.map .require ++ wanted.map .want) = ofNodes needed wanted := by
  rw [run, List.foldl_append, List.foldl_map, List.foldl_map]
  rfl

theorem sound_ofNodes (needed wanted : List Node) : (ofNodes needed wanted).Sound :=
  run_ofNodes needed wanted ▸ sound_run _

/-- Wanting nodes requires none. -/
theorem required_ofNodes (needed wanted : List Node) :
    (ofNodes needed wanted).required = (needed.foldl .require empty).required := by
  unfold ofNodes
  generalize needed.foldl .require empty = s
  induction wanted generalizing s with
  | nil => rfl
  | cons n wanted ih => rw [List.foldl_cons, ih, want, required_wantChain]

theorem mem_required_ofNodes {needed wanted : List Node} :
    m ∈ (ofNodes needed wanted).required ↔ ∃ n ∈ needed, n.Needs m := by
  rw [← run_ofNodes, mem_required_run]
  simp

theorem mem_optional_ofNodes {needed wanted : List Node} :
    m ∈ (ofNodes needed wanted).optional ↔
      (∃ n ∈ wanted, n.Needs m) ∧ m ∉ (ofNodes needed wanted).required := by
  rw [← run_ofNodes, mem_optional_run]
  simp

end Collected

end AnnotationQuery
