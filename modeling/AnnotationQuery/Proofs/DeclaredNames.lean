import AnnotationQuery.Proofs.WrittenNames

/-!
# Declared names

What a query refers to has names from three sources: the hierarchy declares tiers, properties,
subsets and sub-annotations, some properties are there without a declaration, and the intent brings
the names of columns, of properties that are set and of labels.

Results:
* `Path.names_resolve`: a path resolves to declared and implicit names only.
* `Corpus.Requires.names`, `Corpus.Shows.names`: so do the aliases of bound nodes.
* `Hierarchy.mem_knownNames_of_subsetSide?`: subsets that are tested are declared.
-/

namespace AnnotationQuery

/-! ## The names of a hierarchy and of an intent -/

/-- The names of all implicit properties. -/
def Implicit.names : List String :=
  (token ++ type ++ attached ++ entity).map (·.name)

/-- The names that a sub-annotation declares. -/
def Subannotation.names (s : Subannotation) : List String :=
  s.name :: s.properties.map (·.name)

/-- The names that a tier declares. -/
def Tier.names (t : Tier) : List String :=
  t.name :: ((t.tokenProperties ++ t.typeProperties).map (·.name) ++ t.tokenSubsets ++
    t.typeSubsets ++ t.subannotations.flatMap Subannotation.names)

namespace Hierarchy

/-- The names that a hierarchy declares, that of the corpus included. -/
def names (h : Hierarchy) : List String :=
  h.corpus :: (h.tiers.flatMap Tier.names ++
    (h.speakerProperties ++ h.discourseProperties).map (·.name))

/-- The names that paths can lead to. -/
def knownNames (h : Hierarchy) : List String :=
  Implicit.names ++ h.names

end Hierarchy

/-- The names that an intent brings: of result columns, of properties that are set or removed and of
labels. -/
def Intent.names : Intent → List String
  | project p => p.columns.map (·.name) ++ p.aggregates.map (·.name)
  | setProperties u => (u.token ++ u.type).map (·.1)
  | setLabels u | removeLabels u => u.token ++ u.type
  | delete | cache => []

/-- The names that a path has reached, those of the tiers on its way apart. -/
def Resolved.names : Resolved → List String
  | node _ | duration _ | subset _ => []
  | property _ p => [p.name]
  | attached _ name none => [name]
  | attached _ name (some p) => [name, p.name]
  | entity _ _ p => [p.name]
  | collected _ tier .duration => [tier]
  | collected _ tier (.property p) => [tier, p.name]

/-! ## Looking names up -/

theorem mem_of_findProperty? {implicit declared : List Property} {name : String} {p : Property}
    (h : findProperty? implicit declared name = some p) : p ∈ implicit ∨ p ∈ declared := by
  rcases Option.or_eq_some_iff.1 h with h | ⟨-, h⟩
  · exact .inl (List.mem_of_find?_eq_some h)
  · exact .inr (List.mem_of_find?_eq_some h)

theorem Implicit.mem_names {p : Property} (h : p ∈ token ++ type ++ attached ++ entity) :
    p.name ∈ Implicit.names :=
  List.mem_map_of_mem h

theorem Subannotation.property?_mem {s : Subannotation} {name : String} {p : Property}
    (h : s.property? name = some p) : p.name ∈ Implicit.names ++ s.names := by
  rcases mem_of_findProperty? h with h | h
  · exact List.mem_append_left _ (Implicit.mem_names (by simp [h]))
  · exact List.mem_append_right _ (List.mem_cons_of_mem _ (List.mem_map_of_mem h))

namespace Tier

variable {t : Tier} {name : String}

theorem property?_mem {p : SidedProperty} (h : t.property? name = some p) :
    p.name ∈ Implicit.names ++ t.names := by
  rcases Option.or_eq_some_iff.1 h with h | ⟨-, h⟩
  · obtain ⟨d, hd, rfl⟩ := Option.map_eq_some_iff.1 h
    rcases mem_of_findProperty? hd with hd | hd
    · exact List.mem_append_left _ (Implicit.mem_names (by simp [hd]))
    · have hmem : d.name ∈ t.tokenProperties.map (·.name) := List.mem_map_of_mem hd
      simp [names, hmem]
  · obtain ⟨d, hd, rfl⟩ := Option.map_eq_some_iff.1 h
    rcases mem_of_findProperty? hd with hd | hd
    · exact List.mem_append_left _ (Implicit.mem_names (by simp [hd]))
    · have hmem : d.name ∈ t.typeProperties.map (·.name) := List.mem_map_of_mem hd
      simp [names, hmem]

theorem subannotation?_mem {s : Subannotation} (h : t.subannotation? name = some s) :
    s.names ⊆ t.names := by
  intro a ha
  have hmem : a ∈ t.subannotations.flatMap Subannotation.names :=
    List.mem_flatMap.2 ⟨s, List.mem_of_find?_eq_some h, ha⟩
  simp [names, hmem]

theorem subsetSide?_mem {side : Side} (h : t.subsetSide? name = some side) : name ∈ t.names := by
  unfold subsetSide? at h
  split at h
  · rename_i hmem
    simp [names, hmem]
  · split at h
    · rename_i hmem
      simp [names, hmem]
    · cases h

end Tier

namespace Hierarchy

variable {h : Hierarchy} {name : String}

theorem tier?_names {t : Tier} (ht : h.tier? name = some t) : t.names ⊆ h.names := fun _ ha =>
  List.mem_cons_of_mem _ (List.mem_append_left _
    (List.mem_flatMap.2 ⟨t, List.mem_of_find?_eq_some ht, ha⟩))

/-- What a tier knows, the hierarchy knows. -/
theorem tier?_knownNames {t : Tier} (ht : h.tier? name = some t) {a : String}
    (ha : a ∈ Implicit.names ++ t.names) : a ∈ h.knownNames :=
  (List.mem_append.1 ha).elim (List.mem_append_left _) fun ha =>
    List.mem_append_right _ (tier?_names ht ha)

theorem mem_knownNames_of_hasTier (ht : h.hasTier name = true) : name ∈ h.knownNames := by
  obtain ⟨t, hmem, rfl⟩ := List.mem_map.1 (List.contains_iff_mem.1 ht)
  refine List.mem_append_right _ (List.mem_cons_of_mem _ (List.mem_append_left _ ?_))
  exact List.mem_flatMap.2 ⟨t, hmem, List.mem_cons_self⟩

theorem mem_knownNames_of_property? {tier : String} {p : SidedProperty}
    (hp : (h.tier? tier).bind (·.property? name) = some p) : p.name ∈ h.knownNames := by
  obtain ⟨t, ht, hp⟩ := Option.bind_eq_some_iff.1 hp
  exact tier?_knownNames ht (Tier.property?_mem hp)

theorem mem_knownNames_of_subannotation? {tier : String} {s : Subannotation}
    (hs : (h.tier? tier).bind (·.subannotation? name) = some s) {a : String}
    (ha : a ∈ Implicit.names ++ s.names) : a ∈ h.knownNames := by
  obtain ⟨t, ht, hs⟩ := Option.bind_eq_some_iff.1 hs
  refine tier?_knownNames ht ?_
  exact (List.mem_append.1 ha).elim (List.mem_append_left _) fun ha =>
    List.mem_append_right _ (Tier.subannotation?_mem hs ha)

/-- A subset that is tested is declared. -/
theorem mem_knownNames_of_subsetSide? {tier : String} {side : Side}
    (hs : (h.tier? tier).bind (·.subsetSide? name) = some side) : name ∈ h.knownNames := by
  obtain ⟨t, ht, hs⟩ := Option.bind_eq_some_iff.1 hs
  exact tier?_knownNames ht (List.mem_append_right _ (Tier.subsetSide?_mem hs))

theorem mem_knownNames_of_entityProperty? {kind : EntityKind} {p : Property}
    (hp : h.entityProperty? kind name = some p) : p.name ∈ h.knownNames := by
  rcases mem_of_findProperty? hp with hp | hp
  · exact List.mem_append_left _ (Implicit.mem_names (by simp [hp]))
  · refine List.mem_append_right _ (List.mem_cons_of_mem _ (List.mem_append_right _ ?_))
    refine List.mem_map_of_mem (List.mem_append.2 ?_)
    cases kind with
    | speaker => exact .inl hp
    | discourse => exact .inr hp

end Hierarchy

/-! ## Resolving -/

namespace Path

variable {h : Hierarchy} {config : Config} {r : Reference} {resolved : Resolved}

theorem names_resolveCollected {tier : String} (ht : h.hasTier tier = true) {steps : List String}
    (hf : resolveCollected h r tier steps = .ok resolved) : resolved.names ⊆ h.knownNames := by
  have htier := Hierarchy.mem_knownNames_of_hasTier ht
  cases steps with
  | nil => cases hf
  | cons step rest =>
    simp only [resolveCollected] at hf
    split at hf
    · rw [finish_eq_ok hf]
      simpa [Resolved.names] using htier
    · split at hf
      · rename_i p hp
        rw [finish_eq_ok hf]
        simpa [Resolved.names, htier] using Hierarchy.mem_knownNames_of_property? hp
      · cases hf

theorem names_resolveEntity {kind : EntityKind} {steps : List String}
    (hf : resolveEntity h kind r steps = .ok resolved) : resolved.names ⊆ h.knownNames := by
  simp only [resolveEntity] at hf
  split at hf
  · rename_i p hp
    rw [finish_eq_ok hf]
    simpa [Resolved.names] using Hierarchy.mem_knownNames_of_entityProperty? hp
  · cases hf

theorem names_resolveName {step : String} {rest : List String}
    (hf : resolveName h r step rest = .ok resolved) : resolved.names ⊆ h.knownNames := by
  unfold resolveName at hf
  split at hf
  · rename_i s hs
    have hknown : ∀ a ∈ Implicit.names ++ s.names, a ∈ h.knownNames := fun a =>
      Hierarchy.mem_knownNames_of_subannotation? hs
    have hname : s.name ∈ h.knownNames :=
      hknown _ (List.mem_append_right _ List.mem_cons_self)
    cases rest with
    | nil =>
      rw [← Except.ok.inj hf]
      simpa [Resolved.names] using hname
    | cons step rest =>
      simp only [resolveAttached] at hf
      split at hf
      · rename_i p hp
        rw [finish_eq_ok hf]
        have hdeclared := Subannotation.property?_mem hp
        simpa [Resolved.names, hname] using hknown _ hdeclared
      · cases hf
  · split at hf
    · rename_i p hp
      rw [finish_eq_ok hf]
      simpa [Resolved.names] using Hierarchy.mem_knownNames_of_property? hp
    · cases hf

theorem names_resolveFrom {steps : List String}
    (hf : resolveFrom h config r steps = .ok resolved) : resolved.names ⊆ h.knownNames := by
  induction steps generalizing r with
  | nil =>
    rw [← Except.ok.inj hf]
    exact List.nil_subset _
  | cons step rest ih =>
    unfold resolveFrom at hf
    split at hf
    · split at hf
      · cases hf
      · exact ih hf
    · exact names_resolveEntity hf
    · rw [finish_eq_ok hf]
      exact List.nil_subset _
    · rw [finish_eq_ok hf]
      exact List.nil_subset _
    · split at hf
      · rename_i ht
        split at hf
        · cases hf
        · split at hf
          · exact ih hf
          · exact names_resolveCollected ht hf
      · exact names_resolveName hf

/-- A path resolves to declared and implicit names only. -/
theorem names_resolve {tier : String} {path : Path}
    (hf : path.resolve h config tier = .ok resolved) : resolved.names ⊆ h.knownNames := by
  unfold resolve at hf
  split at hf
  · cases hf
  · split at hf
    · cases hf
    · rename_i first rest _ ht
      rw [mapError_eq_ok] at hf
      split at hf
      · exact names_resolveFrom hf
      · split at hf
        · exact names_resolveFrom hf
        · exact names_resolveCollected (by simpa using ht) hf

end Path

/-! ## Bound nodes -/

/-- The tiers that a reference goes through exist. -/
theorem Reference.Climbs.tiers {h : Hierarchy} {tier : String} {r : Reference}
    (hr : r.Climbs h tier) (ht : h.hasTier tier = true) : r.tiers ⊆ h.knownNames := by
  induction hr with
  | root offset =>
    simpa [Reference.tiers] using Hierarchy.mem_knownNames_of_hasTier ht
  | @within inner t offset hinner hlt ih =>
    have hmem := Hierarchy.mem_knownNames_of_hasTier ((Climbs.within offset hinner hlt).hasTier ht)
    exact List.cons_subset.2 ⟨hmem, ih⟩

namespace Corpus

variable {c : Corpus} {q : Query} {tier : String} {n : Node}

theorem names_resolved (ht : c.hierarchy.hasTier tier = true) {path : Path} {resolved : Resolved}
    (hr : c.resolve tier path = .ok resolved) (hn : resolved.node? = some n) :
    n.names ⊆ c.hierarchy.knownNames := by
  have htiers := (Path.climbs_resolve hr).tiers ht
  have hnames := Path.names_resolve hr
  cases resolved with
  | node r | duration r | collected r _ _ | entity kind r p =>
    obtain rfl := Option.some.inj hn
    exact htiers
  | subset r => cases hn
  | property r p =>
    obtain rfl := Option.some.inj hn
    show (Node.ofSide r p.side).names ⊆ _
    cases p.side <;> exact htiers
  | attached r name p =>
    obtain rfl := Option.some.inj hn
    refine List.cons_subset.2 ⟨hnames ?_, htiers⟩
    cases p <;> exact List.mem_cons_self

theorem Refers.names (ht : c.hierarchy.hasTier tier = true) {path : Path}
    (h : c.Refers tier path n) : n.names ⊆ c.hierarchy.knownNames := by
  obtain ⟨resolved, hr, hn⟩ := h
  exact names_resolved ht hr hn

theorem FilterRefers.names (ht : c.hierarchy.hasTier tier = true) {f : Filter}
    (h : c.FilterRefers tier f n) : n.names ⊆ c.hierarchy.knownNames := by
  cases h with
  | path h | operand _ h => exact h.names ht
  | @subset r _ side hr _ _ =>
    have htiers := (Path.climbs_resolve hr).tiers ht
    cases side <;> exact htiers

/-- What a node is bound from is an annotation. -/
theorem names_dependency {m : Node} (ht : c.hierarchy.hasTier tier = true)
    (hd : n.dependency? = some m) (hm : m.reference.Climbs c.hierarchy tier) :
    m.names ⊆ c.hierarchy.knownNames := by
  have htiers := hm.tiers ht
  cases n with
  | token r =>
    obtain ⟨p, -, rfl⟩ := Option.map_eq_some_iff.1 hd
    exact htiers
  | type r | entity kind r | attached r name =>
    obtain rfl := Option.some.inj hd
    exact htiers

theorem Requires.names (ht : c.hierarchy.hasTier q.tier = true) (h : c.Requires q n) :
    n.names ⊆ c.hierarchy.knownNames := by
  induction h with
  | anchor | type _ => simpa [Node.names, Reference.tiers, Corpus.anchor, Reference.anchor] using
      Hierarchy.mem_knownNames_of_hasTier ht
  | filter _ hrefers => exact hrefers.names ht
  | dependency h hd ih => exact names_dependency ht hd (h.dependency hd).climbs

theorem Shows.names (ht : c.hierarchy.hasTier q.tier = true) {columns : List String}
    (h : c.Shows q columns n) : n.names ⊆ c.hierarchy.knownNames := by
  induction h with
  | output _ hrefers => exact hrefers.names ht
  | dependency h hd ih => exact names_dependency ht hd (h.dependency hd).climbs

end Corpus

end AnnotationQuery
