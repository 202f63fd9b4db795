import AnnotationQuery.Query.Basic
import Mathlib.Data.List.DropRight

/-!
# Built queries

A query is built by changes in any order and number. Its filters are all that were given, and its
discourse is the last one. Its intent depends on the end of the changes only: the longest final run
of changes that belong to one kind of intent, where filters and discourses do not count. The intent
is what this run makes of a fresh query, so that a kind that was left before starts empty again, and
it holds everything that the run gave, in order. Columns count as grouping keys too, once there are
aggregates.

Results:
* `Intent.apply_of_kind_ne`: a change to another kind of intent starts empty.
* `IntentKind.accumulated_concat`: a change to the same kind adds to what is there.
* `Query.applyAll_finalRun`: the query after any changes.
-/

namespace AnnotationQuery

/-! ## Kinds of intents -/

/-- The kinds of intents; a query has one at a time. -/
inductive IntentKind where
  | projection
  | propertyUpdate
  | labelUpdate
  | labelRemoval
  | deletion
  | caching
deriving DecidableEq, Repr

def Intent.kind : Intent → IntentKind
  | .project _ => .projection
  | .setProperties _ => .propertyUpdate
  | .setLabels _ => .labelUpdate
  | .removeLabels _ => .labelRemoval
  | .delete => .deletion
  | .cache => .caching

namespace Change

/-- The kind of intent that a change belongs to; filters and discourses belong to none. -/
def kind? : Change → Option IntentKind
  | filter _ | discourse _ => none
  | column _ | aggregate _ | orderBy _ | limit _ | distinct => some .projection
  | setProperties _ _ => some .propertyUpdate
  | setLabels _ _ => some .labelUpdate
  | removeLabels _ _ => some .labelRemoval
  | delete => some .deletion
  | cache => some .caching

/-! ## What a change gives -/

def filter? : Change → Option Filter
  | filter f => some f
  | _ => none

def discourse? : Change → Option String
  | discourse name => some name
  | _ => none

def column? : Change → Option Column
  | column c => some c
  | _ => none

def aggregate? : Change → Option Aggregate
  | aggregate a => some a
  | _ => none

def orderKey? : Change → Option OrderKey
  | orderBy key => some key
  | _ => none

def limit? : Change → Option Nat
  | limit count => some count
  | _ => none

def isDistinct : Change → Bool
  | distinct => true
  | _ => false

/-- The assignments to properties of a side. -/
def assignments (side : Side) : Change → List (String × Value)
  | setProperties s pairs => if s = side then pairs else []
  | _ => []

/-- The labels that are set or removed on a side. -/
def labels (side : Side) : Change → List String
  | setLabels s names | removeLabels s names => if s = side then names else []
  | _ => []

/-! ## The final run -/

/-- The changes that belong to a kind of intent. -/
def bearing (changes : List Change) : List Change :=
  changes.filter (·.kind?.isSome)

/-- The kind of intent that was chosen last. -/
def lastKind? (changes : List Change) : Option IntentKind :=
  (bearing changes).getLast?.bind kind?

/-- The longest final run of changes that belong to the kind chosen last. -/
def finalRun (changes : List Change) : List Change :=
  (bearing changes).rtakeWhile (·.kind? == lastKind? changes)

end Change

/-- What the changes of a run of one kind give together. -/
def IntentKind.accumulated (run : List Change) : IntentKind → Intent
  | projection =>
    .project
      { columns := run.filterMap Change.column?
        aggregates := run.filterMap Change.aggregate?
        orderBy := run.filterMap Change.orderKey?
        limit := (run.filterMap Change.limit?).getLast?
        distinct := run.any Change.isDistinct }
  | propertyUpdate =>
    .setProperties
      ⟨run.flatMap (Change.assignments .token), run.flatMap (Change.assignments .type)⟩
  | labelUpdate =>
    .setLabels ⟨run.flatMap (Change.labels .token), run.flatMap (Change.labels .type)⟩
  | labelRemoval =>
    .removeLabels ⟨run.flatMap (Change.labels .token), run.flatMap (Change.labels .type)⟩
  | deletion => .delete
  | caching => .cache

/-- What the final run gives. Without any choice of a kind it is a projection of nothing. -/
def Change.givenIntent (changes : List Change) : Intent :=
  ((lastKind? changes).getD .projection).accumulated (finalRun changes)

/-! ## One change -/

theorem IntentKind.kind_accumulated (k : IntentKind) (run : List Change) :
    (k.accumulated run).kind = k := by
  cases k <;> rfl

/-- Before anything was given, a kind is as empty as a fresh query. -/
theorem IntentKind.apply_accumulated_nil {k : IntentKind} {c : Change} (hc : c.kind? = some k) :
    (k.accumulated []).apply c = (Intent.project .empty).apply c := by
  cases c <;> cases hc <;> rfl

/-- A change to the kind of intent that there is adds to it. -/
theorem IntentKind.accumulated_concat {k : IntentKind} {c : Change} (hc : c.kind? = some k)
    (run : List Change) : k.accumulated (run ++ [c]) = (k.accumulated run).apply c := by
  cases c with
  | filter | discourse => cases hc
  | delete | cache => cases hc; rfl
  | column | aggregate | orderBy | limit | distinct =>
    cases hc
    simp [accumulated, Intent.apply, Intent.projection, Change.column?, Change.aggregate?,
      Change.orderKey?, Change.limit?, Change.isDistinct]
  | setProperties side =>
    cases hc
    cases side <;>
      simp [accumulated, Intent.apply, Intent.propertyUpdates, PropertyUpdates.add,
        Change.assignments]
  | setLabels side =>
    cases hc
    cases side <;>
      simp [accumulated, Intent.apply, Intent.labelsToSet, LabelUpdates.add, Change.labels]
  | removeLabels side =>
    cases hc
    cases side <;>
      simp [accumulated, Intent.apply, Intent.labelsToRemove, LabelUpdates.add, Change.labels]

/-- A change to another kind of intent starts from a fresh query. -/
theorem Intent.apply_of_kind_ne {intent : Intent} {c : Change} {k : IntentKind}
    (hc : c.kind? = some k) (hne : intent.kind ≠ k) :
    intent.apply c = (Intent.project .empty).apply c := by
  cases c <;> cases hc <;> cases intent <;> first | rfl | exact absurd rfl hne

/-- Filters and discourses leave the intent alone. -/
theorem Intent.apply_of_kind?_eq_none {c : Change} (hc : c.kind? = none) (intent : Intent) :
    intent.apply c = intent := by
  cases c <;> first | rfl | cases hc

namespace Query

/-- One change to a query, component by component. -/
theorem apply_eq (q : Query) (c : Change) :
    q.apply c = ⟨q.tier, c.discourse?.or q.discourse, q.filters ++ c.filter?.toList,
      q.intent.apply c⟩ := by
  cases c <;> simp [apply, Change.discourse?, Change.filter?, Intent.apply]

theorem applyAll_concat (q : Query) (changes : List Change) (c : Change) :
    q.applyAll (changes ++ [c]) = (q.applyAll changes).apply c :=
  List.foldl_concat ..

end Query

/-! ## The run at the end -/

namespace Change

variable {changes : List Change} {c : Change} {k : IntentKind}

theorem bearing_concat (hc : c.kind? = some k) :
    bearing (changes ++ [c]) = bearing changes ++ [c] := by
  simp [bearing, hc]

theorem bearing_concat_of_none (hc : c.kind? = none) :
    bearing (changes ++ [c]) = bearing changes := by
  simp [bearing, hc]

theorem lastKind?_concat (hc : c.kind? = some k) : lastKind? (changes ++ [c]) = some k := by
  rw [lastKind?, bearing_concat hc, List.getLast?_concat, Option.bind_some, hc]

theorem lastKind?_concat_of_none (hc : c.kind? = none) :
    lastKind? (changes ++ [c]) = lastKind? changes := by
  rw [lastKind?, bearing_concat_of_none hc, lastKind?]

theorem finalRun_concat_of_none (hc : c.kind? = none) :
    finalRun (changes ++ [c]) = finalRun changes := by
  rw [finalRun, bearing_concat_of_none hc, lastKind?_concat_of_none hc, finalRun]

theorem finalRun_concat (hc : c.kind? = some k) :
    finalRun (changes ++ [c]) = (bearing changes).rtakeWhile (·.kind? == some k) ++ [c] := by
  rw [finalRun, bearing_concat hc, lastKind?_concat hc]
  exact List.rtakeWhile_concat_pos _ _ _ (by simp [hc])

/-- A change of the kind chosen last makes the run longer. -/
theorem finalRun_concat_of_eq (hc : c.kind? = some k) (hlast : lastKind? changes = some k) :
    finalRun (changes ++ [c]) = finalRun changes ++ [c] := by
  rw [finalRun_concat hc, finalRun, hlast]

/-- A change of another kind starts a run. -/
theorem finalRun_concat_of_ne (hc : c.kind? = some k) (hlast : lastKind? changes ≠ some k) :
    finalRun (changes ++ [c]) = [c] := by
  have hnil : (bearing changes).rtakeWhile (·.kind? == some k) = [] := by
    rw [List.rtakeWhile_eq_nil_iff]
    intro hne hkind
    refine hlast ?_
    rw [lastKind?, List.getLast?_eq_some_getLast hne, Option.bind_some]
    exact eq_of_beq hkind
  rw [finalRun_concat hc, hnil, List.nil_append]

/-- Without a chosen kind there is no run. -/
theorem finalRun_of_lastKind?_eq_none (h : lastKind? changes = none) : finalRun changes = [] := by
  have hnil : bearing changes = [] := by
    by_contra hne
    have hkind : ((bearing changes).getLast hne).kind?.isSome = true :=
      (List.mem_filter.1 (List.getLast_mem hne)).2
    rw [lastKind?, List.getLast?_eq_some_getLast hne, Option.bind_some] at h
    rw [h] at hkind
    cases hkind
  rw [finalRun, hnil, List.rtakeWhile_nil]

end Change

namespace Query

/-- The intent of a query after changes, and after their final run alone. -/
theorem intent_applyAll (tier : String) (changes : List Change) :
    ((ofTier tier).applyAll changes).intent = Change.givenIntent changes ∧
      ((ofTier tier).applyAll (Change.finalRun changes)).intent = Change.givenIntent changes := by
  induction changes using List.reverseRecOn with
  | nil => exact ⟨rfl, rfl⟩
  | append_singleton changes c ih =>
    obtain ⟨hall, hrun⟩ := ih
    rw [applyAll_concat, apply_eq]
    unfold Change.givenIntent at hall hrun ⊢
    cases hc : c.kind? with
    | none =>
      rw [Change.finalRun_concat_of_none hc, Change.lastKind?_concat_of_none hc]
      exact ⟨(Intent.apply_of_kind?_eq_none hc _).trans hall, hrun⟩
    | some k =>
      rw [Change.lastKind?_concat hc, Option.getD_some]
      by_cases hlast : Change.lastKind? changes = some k
      · rw [hlast, Option.getD_some] at hall hrun
        rw [Change.finalRun_concat_of_eq hc hlast, applyAll_concat, apply_eq, hall, hrun,
          IntentKind.accumulated_concat hc]
        exact ⟨rfl, rfl⟩
      · have hfresh : k.accumulated [c] = (Intent.project .empty).apply c :=
          (IntentKind.accumulated_concat hc []).trans (IntentKind.apply_accumulated_nil hc)
        rw [Change.finalRun_concat_of_ne hc hlast, hfresh]
        refine ⟨?_, congrArg Query.intent (apply_eq (ofTier tier) c)⟩
        rw [hall]
        cases hkind : Change.lastKind? changes with
        | none =>
          rw [Change.finalRun_of_lastKind?_eq_none hkind]
          rfl
        | some other =>
          refine Intent.apply_of_kind_ne hc ?_
          rw [Option.getD_some, IntentKind.kind_accumulated]
          rintro rfl
          exact hlast hkind

theorem discourse_applyAll (tier : String) (changes : List Change) :
    ((ofTier tier).applyAll changes).discourse =
      (changes.filterMap Change.discourse?).getLast? := by
  induction changes using List.reverseRecOn with
  | nil => rfl
  | append_singleton changes c ih =>
    rw [applyAll_concat, apply_eq, ih, List.filterMap_append]
    cases hc : c.discourse? <;> simp [hc]

theorem filters_applyAll (tier : String) (changes : List Change) :
    ((ofTier tier).applyAll changes).filters = changes.filterMap Change.filter? := by
  induction changes using List.reverseRecOn with
  | nil => rfl
  | append_singleton changes c ih =>
    rw [applyAll_concat, apply_eq, ih, List.filterMap_append]
    cases hc : c.filter? <;> simp [hc]

theorem tier_applyAll (q : Query) (changes : List Change) : (q.applyAll changes).tier = q.tier := by
  induction changes using List.reverseRecOn with
  | nil => rfl
  | append_singleton changes c ih => rw [applyAll_concat, apply_eq, ih]

/-- The query after any changes to a fresh one. It has the filters that were given, in order, and
the discourse that was given last. Its intent is what the longest final run of changes of one kind
makes of a fresh query, and that is everything that the run gave. -/
theorem applyAll_finalRun (tier : String) (changes : List Change) :
    (ofTier tier).applyAll changes =
        { tier
          discourse := (changes.filterMap Change.discourse?).getLast?
          filters := changes.filterMap Change.filter?
          intent := ((ofTier tier).applyAll (Change.finalRun changes)).intent } ∧
      ((ofTier tier).applyAll (Change.finalRun changes)).intent = Change.givenIntent changes := by
  obtain ⟨hall, hrun⟩ := intent_applyAll tier changes
  refine ⟨?_, hrun⟩
  rw [hrun, ← hall, ← discourse_applyAll tier, ← filters_applyAll tier]
  exact congrArg (Query.mk · _ _ _) (tier_applyAll (ofTier tier) changes)

/-- Changing to a deletion and back drops the first column; the filter in between does not count. -/
example (first last : Column) (f : Filter) :
    Change.finalRun [.column first, .delete, .column last, .filter f, .distinct] =
      [.column last, .distinct] :=
  rfl

end Query

end AnnotationQuery
