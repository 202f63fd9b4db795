import AnnotationQuery.Partition.Basic
import AnnotationQuery.Proofs.AddedNode

/-!
# The filter of a partition

A partition adds one filter to the base query. It names the speaker or discourse of the anchor,
which every tier has, so that it never fails and all errors are those of the base query.

Results:
* `Corpus.condition_entityFilter`: the condition of the filter.
* `PartitionedQuery.compile_partition_error`: the errors of a partition.
-/

namespace AnnotationQuery

namespace Corpus

variable {l : Listing} {c : Corpus} {q : Query} {kind : EntityKind}

/-- The condition that the speaker or discourse of the anchor has a name. -/
def nameCondition (c : Corpus) (tier : String) (kind : EntityKind) (operand : Expr) : Expr :=
  .compare (.property (c.anchorEntity tier kind).aliasName "name") .equal operand

theorem resolve_entityFilter (kind : EntityKind) (ht : c.hierarchy.hasTier q.tier = true)
    (name : String) : c.resolve q.tier (q.entityFilter kind name).path =
      .ok (.entity kind (c.anchor q.tier) ⟨"name", .string⟩) := by
  have hword : Keyword.ofText? kind.word = some (.entity kind) := by cases kind <;> rfl
  have hproperty : c.hierarchy.entityProperty? kind "name" = some ⟨"name", .string⟩ := rfl
  simp only [resolve, Path.resolve, Query.entityFilter, ht, Bool.not_true, Bool.false_eq_true,
    if_false, if_true, Path.resolveFrom, hword, Path.resolveEntity, List.head?_cons,
    Option.getD_some, hproperty, List.tail_cons, Path.finish]
  rfl

/-- The condition of the filter that a partition adds. -/
theorem condition_entityFilter (kind : EntityKind) (ht : c.hierarchy.hasTier q.tier = true)
    (name : String) : c.condition q.tier (q.entityFilter kind name) =
      .ok ⟨[c.anchorEntity q.tier kind],
        c.nameCondition q.tier kind (.literal (.string name))⟩ := by
  have hvalid : (q.entityFilter kind name).validate = .ok () := rfl
  have hresolved := resolve_entityFilter kind ht name
  rw [condition_eq]
  simp only [hvalid, hresolved]
  rfl

end Corpus

namespace PartitionedQuery

variable {p : PartitionedQuery} {v : String}

@[simp] theorem tier_partition : (p.partition v).tier = p.base.tier := rfl

@[simp] theorem intent_partition : (p.partition v).intent = p.base.intent := rfl

/-- The filter of a partition comes after all others but the one of the discourse. -/
theorem effectiveFilters_partition (p : PartitionedQuery) (v : String) :
    (p.partition v).effectiveFilters =
      p.base.filters ++ p.base.entityFilter p.key v ::
        (p.base.discourse.map (p.base.entityFilter .discourse)).toList := by
  show (p.base.filters ++ [p.base.entityFilter p.key v]) ++ _ = _
  rw [List.append_assoc]
  rfl

end PartitionedQuery

namespace Corpus

variable {l : Listing} {c : Corpus} {q : Query}

/-- A condition in between does not matter to the errors of the others. -/
theorem conditions_around_error {tier : String} {fs fs' : List Filter} {f : Filter} {k : Condition}
    (hk : c.condition tier f = .ok k) {e : QueryError} :
    c.conditions tier (fs ++ f :: fs') = .error e ↔ c.conditions tier (fs ++ fs') = .error e := by
  simp only [conditions, List.mapM_append, List.mapM_cons, hk, bind_eq_error, pure_eq_error,
    Except.ok.injEq, reduceCtorEq, false_or, exists_eq_left', and_false, exists_false, or_false]

end Corpus

namespace PartitionedQuery

variable {l : Listing} {c : Corpus} {p : PartitionedQuery} {v : String}

theorem conditions_partition_error (ht : c.hierarchy.hasTier p.base.tier = true) (e : QueryError) :
    c.conditions p.base.tier (p.partition v).effectiveFilters = .error e ↔
      c.conditions p.base.tier p.base.effectiveFilters = .error e := by
  rw [effectiveFilters_partition]
  exact Corpus.conditions_around_error (Corpus.condition_entityFilter p.key ht v)

/-- A partition has the errors of the base query. -/
theorem compile_partition_error (l l' : Listing) (c : Corpus) (p : PartitionedQuery) (v : String)
    (e : QueryError) :
    c.compileIn l' (p.partition v) = .error e ↔ c.compileIn l p.base = .error e := by
  rw [Corpus.compile_eq_error, Corpus.compile_eq_error, Corpus.plan_eq_error, Corpus.plan_eq_error,
    tier_partition, intent_partition]
  refine or_congr_right (and_congr_right fun _ => or_congr_right (exists_congr fun t =>
    and_congr_right fun ht => ?_))
  have herrors := conditions_partition_error (p := p) (v := v) (Hierarchy.hasTier_of_tier ht)
  simp only [exists_and_right, exists_ok_congr herrors, herrors]

end PartitionedQuery

end AnnotationQuery
