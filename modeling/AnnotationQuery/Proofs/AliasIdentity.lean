import AnnotationQuery.Proofs.Relisting
import AnnotationQuery.Proofs.TierDistance
import AnnotationQuery.Proofs.WellScoped

/-!
# Aliases identify nodes

An alias is written without quotation marks: the parts of a reference, each a tier with or without a
displacement in front, are joined by `_`, and `_` also stands between a displacement and its tier.
It can be read back from its end. The last part is a tier, an entity word or a sub-annotation; the
part before a tier is a displacement just when the annotation is displaced, since no tier is named
like one. Position 0 has one form only, so nothing else is left to tell apart.

The aliases of a list comprehension name annotations of a tier below the one they hang from, and a
reference only goes up.

Results:
* `Alias.append_inj`: the last part of a text is determined.
* `Offset.word_inj`: a displacement is determined by its written form.
* `Reference.aliasName_inj`: a reference is determined by its alias.
* `Corpus.collected_ne_aliasName`: no node has an alias of a list comprehension.
* `Corpus.aliases_identify`: all of it for the nodes that compiled statements bind.
-/

namespace AnnotationQuery

/-! ## Names -/

/-- The name can stand as a part of an alias: it is not empty, it has no `_`, and it is neither an
entity word nor a displacement, that is `prev` or `foll`, then possibly `pause`, then digits. -/
structure PlainName (name : String) : Prop where
  ne_empty : name ≠ ""
  no_separator : '_' ∉ name.toList
  ne_entity : ∀ kind : EntityKind, name ≠ kind.word
  ne_displacement : ∀ head ∈ ["prev", "foll"], ∀ pause ∈ ["", "pause"], ∀ digits : List Char,
    digits ≠ [] → (∀ d ∈ digits, d.isDigit = true) → name ≠ head ++ pause ++ String.ofList digits

/-- The tiers and sub-annotations have plain names, and no sub-annotation is named like a tier. -/
structure Hierarchy.PlainNames (h : Hierarchy) : Prop where
  tier : ∀ t ∈ h.tiers, PlainName t.name
  attached : ∀ t ∈ h.tiers, ∀ s ∈ t.subannotations, PlainName s.name
  apart : ∀ t ∈ h.tiers, ∀ s ∈ t.subannotations, s.name ∉ h.tierNames

theorem Hierarchy.PlainNames.plain {h : Hierarchy} (hp : h.PlainNames) {name : String}
    (ht : h.hasTier name = true) : PlainName name := by
  obtain ⟨t, hmem, rfl⟩ := List.mem_map.1 (List.contains_iff_mem.1 ht)
  exact hp.tier t hmem

/-! ## Reading an alias from its end -/

namespace Alias

/-- What stands behind the last `_` of a text is determined, and so is what stands in front. -/
theorem append_inj {front front' part part' : String} (hp : '_' ∉ part.toList)
    (hp' : '_' ∉ part'.toList) (h : front ++ "_" ++ part = front' ++ "_" ++ part') :
    front = front' ∧ part = part' := by
  have hreversed : part.toList.reverse ++ '_' :: front.toList.reverse =
      part'.toList.reverse ++ '_' :: front'.toList.reverse := by
    have := congrArg (fun s => s.toList.reverse) h
    simpa [String.toList_append] using this
  obtain ⟨hparts, hfronts⟩ := append_cons_inj (by simpa using hp) (by simpa using hp') hreversed
  exact ⟨String.ext (List.reverse_injective hfronts), String.ext (List.reverse_injective hparts)⟩

/-- A text without `_` has no part in front. -/
theorem ne_append {word front part : String} (hw : '_' ∉ word.toList) :
    word ≠ front ++ "_" ++ part := by
  rintro rfl
  simp [String.toList_append] at hw

end Alias

/-! ## Displacements -/

/-- The part of a displacement that stands for its axis. -/
def Axis.word : Axis → String
  | precedence => ""
  | pause => "pause"

namespace Offset

/-- The part of an alias that stands for a displacement. -/
def word (o : Offset) : String :=
  (if o.position < 0 then "prev" else "foll") ++ o.axis.word ++ toString o.position.natAbs

theorem toList_toString (n : Nat) : (toString n).toList = Nat.toDigits 10 n := by
  show n.repr.toList = _
  rw [Nat.repr_eq_ofList_toDigits, String.toList_ofList]

theorem isDigit_of_mem {n : Nat} {d : Char} (hd : d ∈ (toString n).toList) : d.isDigit = true := by
  rw [toList_toString] at hd
  exact Nat.isDigit_of_mem_toDigits (by decide) (by decide) hd

/-- A displacement is no plain name. -/
theorem not_plain_word (o : Offset) : ¬PlainName o.word := by
  intro hplain
  have hhead : (if o.position < 0 then "prev" else "foll") ∈ ["prev", "foll"] := by
    split <;> decide
  have hpause : o.axis.word ∈ ["", "pause"] := by
    cases o.axis <;> decide
  have hdigits : (toString o.position.natAbs).toList ≠ [] := by
    rw [toList_toString]
    exact Nat.toDigits_ne_nil
  refine hplain.ne_displacement _ hhead _ hpause _ hdigits (fun d => isDigit_of_mem) ?_
  rw [String.ofList_toList]
  rfl

theorem no_separator_word (o : Offset) : '_' ∉ o.word.toList := by
  have hdigits : '_' ∉ (toString o.position.natAbs).toList := fun hmem =>
    absurd (isDigit_of_mem hmem) (by decide)
  have haxis : '_' ∉ o.axis.word.toList := by
    cases o.axis <;> decide
  have hhead : '_' ∉ (if o.position < 0 then "prev" else "foll").toList := by
    split <;> decide
  simp only [word, String.toList_append, List.mem_append, hhead, haxis, hdigits, or_false,
    not_false_eq_true]

/-- The axis and the number of a displacement are determined by how they are written. -/
theorem axis_word_inj {axis axis' : Axis} {n n' : Nat}
    (h : axis.word ++ toString n = axis'.word ++ toString n') : axis = axis' ∧ n = n' := by
  have hnumber : ∀ m : Nat, 'p' ∉ (toString m).toList := fun m hmem =>
    absurd (isDigit_of_mem hmem) (by decide)
  have hpause : ∀ m m' : Nat, "pause" ++ toString m ≠ "" ++ toString m' := by
    intro m m' heq
    have hmem : 'p' ∈ ("pause" ++ toString m).toList := by simp [String.toList_append]
    rw [heq, String.empty_append] at hmem
    exact hnumber m' hmem
  cases axis <;> cases axis'
  · exact ⟨rfl, numeral_injective ((String.append_right_inj "").1 h)⟩
  · exact absurd h.symm (hpause n' n)
  · exact absurd h (hpause n n')
  · exact ⟨rfl, numeral_injective ((String.append_right_inj "pause").1 h)⟩

/-- A displacement is determined by its written form. -/
theorem word_inj {o o' : Offset} (ho : o.position ≠ 0) (ho' : o'.position ≠ 0)
    (h : o.word = o'.word) : o = o' := by
  have hheads : o.word.toList.head? = o'.word.toList.head? := congrArg (·.toList.head?) h
  have hrest : (o.position < 0 ↔ o'.position < 0) ∧ o.axis = o'.axis ∧
      o.position.natAbs = o'.position.natAbs := by
    unfold word at h hheads
    rw [String.append_assoc, String.append_assoc] at h
    by_cases hneg : o.position < 0 <;> by_cases hneg' : o'.position < 0
    · rw [if_pos hneg, if_pos hneg', String.append_right_inj] at h
      exact ⟨iff_of_true hneg hneg', axis_word_inj h⟩
    · simp [hneg, hneg', String.toList_append] at hheads
    · simp [hneg, hneg', String.toList_append] at hheads
    · rw [if_neg hneg, if_neg hneg', String.append_right_inj] at h
      exact ⟨iff_of_false hneg hneg', axis_word_inj h⟩
  obtain ⟨hsign, haxis, habs⟩ := hrest
  have hposition : o.position = o'.position := by omega
  cases o
  cases o'
  simp only at hposition haxis
  subst hposition haxis
  rfl

end Offset

/-! ## References -/

namespace Reference

/-- What stands in front of the own part of a reference in its alias. -/
def origin : Reference → String
  | root _ _ _ => "node"
  | within inner _ _ => inner.aliasName

/-- What stands in front of the tier of a reference in its alias. -/
def stem (r : Reference) : String :=
  if r.position = 0 then r.origin else r.origin ++ "_" ++ r.offset.word

theorem segment_eq (tier : String) (o : Offset) :
    segment tier o = if o.position = 0 then tier else o.word ++ "_" ++ tier := by
  have hwritten : segment tier o =
      if o.position < 0 then "prev" ++ o.axis.word ++ toString o.position.natAbs ++ "_" ++ tier
      else if 0 < o.position then
        "foll" ++ o.axis.word ++ toString o.position.natAbs ++ "_" ++ tier
      else tier := by
    unfold segment
    cases o.axis <;> rfl
  rw [hwritten, Offset.word]
  rcases Int.lt_trichotomy o.position 0 with hlt | heq | hgt
  · rw [if_pos hlt, if_neg (Int.ne_of_lt hlt), if_pos hlt]
  · rw [heq, if_neg (Int.lt_irrefl 0), if_neg (Int.lt_irrefl 0), if_pos rfl]
  · have hnlt : ¬o.position < 0 := Int.not_lt.2 (Int.le_of_lt hgt)
    rw [if_neg hnlt, if_pos hgt, if_neg (Int.ne_of_gt hgt), if_neg hnlt]

theorem aliasName_eq (r : Reference) : r.aliasName = r.stem ++ "_" ++ r.tier := by
  have horigin : r.aliasName = r.origin ++ "_" ++ segment r.tier r.offset := by
    cases r with
    | root corpus tier offset =>
      show "node_" ++ _ = "node" ++ "_" ++ _
      rfl
    | within inner tier offset => rfl
  rw [horigin, segment_eq, stem, position]
  by_cases h0 : r.offset.position = 0
  · rw [if_pos h0, if_pos h0]
  · rw [if_neg h0, if_neg h0]
    simp only [String.append_assoc]

variable {h : Hierarchy} {tier : String} {r r' : Reference}

/-- What a displacement stands behind is determined, since no tier is named like a displacement. -/
theorem origin_ne_displaced (hp : h.PlainNames) (ht : h.hasTier tier = true)
    (hr : r.Climbs h tier) (front : String) (o : Offset) : r.origin ≠ front ++ "_" ++ o.word := by
  have hnode : '_' ∉ "node".toList := by decide
  cases hr with
  | root offset => exact Alias.ne_append hnode
  | @within inner t offset hinner hlt =>
    intro heq
    have hplain := hp.plain (hinner.hasTier ht)
    rw [origin, aliasName_eq] at heq
    obtain ⟨-, htier⟩ := Alias.append_inj hplain.no_separator o.no_separator_word heq
    exact o.not_plain_word (htier ▸ hplain)

/-- The origin and the displacement are determined by what stands in front of the tier. -/
theorem stem_inj (hp : h.PlainNames) (ht : h.hasTier tier = true) (hr : r.Climbs h tier)
    (hr' : r'.Climbs h tier) (heq : r.stem = r'.stem) :
    r.origin = r'.origin ∧ r.offset = r'.offset := by
  unfold stem at heq
  by_cases h0 : r.position = 0 <;> by_cases h0' : r'.position = 0
  · rw [if_pos h0, if_pos h0'] at heq
    exact ⟨heq, (Offset.eq_zero h0).trans (Offset.eq_zero h0').symm⟩
  · rw [if_pos h0, if_neg h0'] at heq
    exact absurd heq (origin_ne_displaced hp ht hr _ _)
  · rw [if_neg h0, if_pos h0'] at heq
    exact absurd heq.symm (origin_ne_displaced hp ht hr' _ _)
  · rw [if_neg h0, if_neg h0'] at heq
    obtain ⟨horigin, hword⟩ := Alias.append_inj r.offset.no_separator_word
      r'.offset.no_separator_word heq
    exact ⟨horigin, Offset.word_inj h0 h0' hword⟩

theorem aliasName_ne_node (r : Reference) : "node" ≠ r.aliasName := by
  rw [aliasName_eq]
  exact Alias.ne_append (by decide)

/-- A reference is determined by its alias. The induction is along the containing annotations, from
the last one to the anchor. -/
theorem aliasName_inj (hp : h.PlainNames) (ht : h.hasTier tier = true) (hr : r.Climbs h tier)
    (hr' : r'.Climbs h tier) (heq : r.aliasName = r'.aliasName) : r = r' := by
  have hparts : ∀ {r r' : Reference}, r.Climbs h tier → r'.Climbs h tier →
      r.aliasName = r'.aliasName →
      r.origin = r'.origin ∧ r.offset = r'.offset ∧ r.tier = r'.tier := by
    intro r r' hr hr' heq
    rw [aliasName_eq, aliasName_eq] at heq
    obtain ⟨hstem, htier⟩ := Alias.append_inj (hp.plain (hr.hasTier ht)).no_separator
      (hp.plain (hr'.hasTier ht)).no_separator heq
    obtain ⟨horigin, hoffset⟩ := stem_inj hp ht hr hr' hstem
    exact ⟨horigin, hoffset, htier⟩
  induction hr generalizing r' with
  | root offset =>
    obtain ⟨horigin, hoffset, -⟩ := hparts (.root offset) hr' heq
    cases hr' with
    | root offset' =>
      obtain rfl : offset = offset' := hoffset
      rfl
    | @within inner t offset' _ _ => exact absurd horigin inner.aliasName_ne_node
  | @within inner t offset hinner hlt ih =>
    obtain ⟨horigin, hoffset, htier⟩ := hparts (.within offset hinner hlt) hr' heq
    cases hr' with
    | root offset' => exact absurd horigin.symm inner.aliasName_ne_node
    | @within inner' t' offset' hinner' _ =>
      obtain rfl : inner = inner' := ih hinner' horigin
      obtain rfl : offset = offset' := hoffset
      obtain rfl : t = t' := htier
      rfl

/-- A reference goes up only, so it has not the alias of an annotation of a tier below another
one. -/
theorem aliasName_ne_lower (hp : h.PlainNames) (ht : h.hasTier tier = true)
    (hr : r.Climbs h tier) (hr' : r'.Climbs h tier) {lower : String}
    (hlower : h.hasTier lower = true) (hlt : h.position r.tier < h.position lower) :
    r'.aliasName ≠ r.aliasName ++ "_" ++ lower := by
  intro heq
  rw [aliasName_eq r'] at heq
  obtain ⟨hstem, htier⟩ := Alias.append_inj (hp.plain (hr'.hasTier ht)).no_separator
    (hp.plain hlower).no_separator heq
  unfold stem at hstem
  split at hstem
  · cases hr' with
    | root offset => exact aliasName_ne_node r hstem
    | @within inner t offset hinner hup =>
      obtain rfl : inner = r := aliasName_inj hp ht hinner hr hstem
      obtain rfl : t = lower := htier
      omega
  · have hplain := hp.plain (hr.hasTier ht)
    rw [aliasName_eq] at hstem
    obtain ⟨-, hword⟩ := Alias.append_inj r'.offset.no_separator_word hplain.no_separator hstem
    exact r'.offset.not_plain_word (hword ▸ hplain)

end Reference

/-! ## Nodes -/

theorem EntityKind.no_separator_word (kind : EntityKind) : '_' ∉ kind.word.toList := by
  cases kind <;> decide

theorem EntityKind.word_injective : Function.Injective EntityKind.word := by
  intro kind kind' h
  cases kind <;> cases kind' <;> first | rfl | exact absurd h (by decide)

namespace Node

/-- The nodes that queries on a tier can bind: the annotations that moves and containing annotations
lead to from the anchor, their type nodes, speakers and discourses, and the sub-annotations that are
declared for their tiers. -/
inductive Reachable (h : Hierarchy) (tier : String) : Node → Prop
  | token {r : Reference} : r.Climbs h tier → Reachable h tier (token r)
  | type {r : Reference} : r.Climbs h tier → Reachable h tier (type r)
  | entity {kind : EntityKind} {r : Reference} :
    r.Climbs h tier → Reachable h tier (entity kind r)
  | attached {r : Reference} {t : Tier} {s : Subannotation} : r.Climbs h tier → t ∈ h.tiers →
    t.name = r.tier → s ∈ t.subannotations → Reachable h tier (attached r s.name)

/-- The last part of an alias. -/
def part : Node → String
  | token r | type r => r.tier
  | entity kind _ => kind.word
  | attached _ name => name

/-- What stands in front of the last part of an alias. -/
def front : Node → String
  | token r => r.stem
  | type r => "type_" ++ r.stem
  | entity _ r | attached r _ => r.aliasName

theorem aliasName_eq (n : Node) : n.aliasName = n.front ++ "_" ++ n.part := by
  cases n with
  | token r => exact r.aliasName_eq
  | type r =>
    rw [aliasName, Reference.typeAlias, r.aliasName_eq, front, part]
    simp only [String.append_assoc]
  | entity kind r | attached r name => rfl

variable {h : Hierarchy} {tier : String} {m n : Node}

theorem Reachable.no_separator (hp : h.PlainNames) (ht : h.hasTier tier = true)
    (hn : n.Reachable h tier) : '_' ∉ n.part.toList := by
  cases hn with
  | token hr | type hr => exact (hp.plain (hr.hasTier ht)).no_separator
  | @entity kind r hr => exact kind.no_separator_word
  | attached hr hmem htier hs => exact (hp.attached _ hmem _ hs).no_separator

/-- A node is determined by its alias. -/
theorem aliasName_inj (hp : h.PlainNames) (ht : h.hasTier tier = true) (hm : m.Reachable h tier)
    (hn : n.Reachable h tier) (heq : m.aliasName = n.aliasName) : m = n := by
  have hheads := m.head_aliasName.symm.trans
    ((congrArg (·.toList.head?) heq).trans n.head_aliasName)
  obtain ⟨hfront, hpart⟩ := Alias.append_inj (hm.no_separator hp ht) (hn.no_separator hp ht)
    (m.aliasName_eq.symm.trans (heq.trans n.aliasName_eq))
  have hentity : ∀ {r : Reference} (kind : EntityKind), r.Climbs h tier → r.tier ≠ kind.word :=
    fun kind hr => (hp.plain (hr.hasTier ht)).ne_entity kind
  have happart : ∀ {r : Reference} {t : Tier} {s : Subannotation}, r.Climbs h tier →
      t ∈ h.tiers → s ∈ t.subannotations → r.tier ≠ s.name := by
    intro r t s hr hmem hs hname
    exact hp.apart t hmem s hs (hname ▸ List.contains_iff_mem.1 (hr.hasTier ht))
  cases hm with
  | token hr =>
    cases hn with
    | token hr' => rw [Reference.aliasName_inj hp ht hr hr' heq]
    | type _ => cases hheads
    | entity _ => exact absurd hpart (hentity _ hr)
    | attached _ hmem _ hs => exact absurd hpart (happart hr hmem hs)
  | type hr =>
    cases hn with
    | type hr' =>
      rw [Reference.aliasName_inj hp ht hr hr' ((String.append_right_inj "type_").1 heq)]
    | token _ | entity _ | attached _ _ _ _ => cases hheads
  | @entity kind _ hr =>
    cases hn with
    | token hr' => exact absurd hpart.symm (hentity _ hr')
    | type _ => cases hheads
    | @entity kind' _ hr' =>
      obtain rfl : kind = kind' := EntityKind.word_injective hpart
      rw [Reference.aliasName_inj hp ht hr hr' hfront]
    | attached _ hmem _ hs =>
      exact absurd hpart.symm ((hp.attached _ hmem _ hs).ne_entity kind)
  | attached hr hmem _ hs =>
    cases hn with
    | token hr' => exact absurd hpart.symm (happart hr' hmem hs)
    | type _ => cases hheads
    | @entity kind _ _ => exact absurd hpart ((hp.attached _ hmem _ hs).ne_entity kind)
    | attached hr' _ _ _ =>
      rw [part, part] at hpart
      rw [Reference.aliasName_inj hp ht hr hr' hfront, hpart]

/-- No node has an alias of the annotations of a tier below, or of their type nodes. -/
theorem aliasName_ne_lower (hp : h.PlainNames) (ht : h.hasTier tier = true)
    (hn : n.Reachable h tier) {r : Reference} (hr : r.Climbs h tier) {lower : String}
    (hlower : h.hasTier lower = true) (hlt : h.position r.tier < h.position lower) :
    n.aliasName ≠ r.aliasName ++ "_" ++ lower ∧
      n.aliasName ≠ "type_" ++ (r.aliasName ++ "_" ++ lower) := by
  have hplain := hp.plain hlower
  have hhead : (r.aliasName ++ "_" ++ lower).toList.head? = some 'n' := by
    rw [String.append_assoc, String.toList_append, List.head?_append, r.head_aliasName,
      Option.some_or]
  have htypeHead : ("type_" ++ (r.aliasName ++ "_" ++ lower)).toList.head? = some 't' := by
    simp [String.toList_append]
  constructor
  · intro heq
    obtain ⟨-, hpart⟩ := Alias.append_inj (hn.no_separator hp ht) hplain.no_separator
      (n.aliasName_eq.symm.trans heq)
    cases hn with
    | token hr' => exact Reference.aliasName_ne_lower hp ht hr hr' hlower hlt heq
    | type _ => cases (head_aliasName _).symm.trans ((congrArg (·.toList.head?) heq).trans hhead)
    | entity _ => exact hplain.ne_entity _ hpart.symm
    | @attached _ _ s _ hmem _ hs =>
      obtain rfl : s.name = lower := hpart
      exact hp.apart _ hmem _ hs (List.contains_iff_mem.1 hlower)
  · intro heq
    have hheads := (head_aliasName n).symm.trans
      ((congrArg (·.toList.head?) heq).trans htypeHead)
    cases hn with
    | type hr' =>
      exact Reference.aliasName_ne_lower hp ht hr hr' hlower hlt
        ((String.append_right_inj "type_").1 heq)
    | token _ | entity _ | attached _ _ _ _ => cases hheads

theorem Reachable.ofSide {r : Reference} (hr : r.Climbs h tier) (side : Side) :
    (ofSide r side).Reachable h tier := by
  cases side with
  | token => exact .token hr
  | type => exact .type hr

theorem Reachable.dependency (hn : n.Reachable h tier) (hd : n.dependency? = some m)
    (hm : m.reference.Climbs h tier) : m.Reachable h tier := by
  cases n with
  | token r =>
    rw [dependency?_token] at hd
    obtain ⟨q, -, rfl⟩ := Option.map_eq_some_iff.1 hd
    exact .token hm
  | type r | entity kind r | attached r name =>
    obtain rfl := Option.some.inj hd
    exact .token hm

end Node

/-! ## Compiled statements -/

namespace Corpus

variable {l : Listing} {c : Corpus} {q : Query} {tier : String} {n : Node}

theorem reachable_of_resolve (hn : c.hierarchy.tierNames.Nodup)
    (ht : c.hierarchy.hasTier tier = true) {path : Path} {resolved : Resolved}
    (hf : c.resolve tier path = .ok resolved) (hnode : resolved.node? = some n) :
    n.Reachable c.hierarchy tier := by
  have hr : resolved.reference.Climbs c.hierarchy tier := Path.climbs_resolve hf
  cases resolved with
  | node r | duration r | collected r _ _ =>
    obtain rfl := Option.some.inj hnode
    exact .token hr
  | property r p =>
    obtain rfl := Option.some.inj hnode
    exact .ofSide hr p.side
  | subset r => cases hnode
  | attached r name p =>
    obtain rfl := Option.some.inj hnode
    have hdeclared : ∃ t ∈ c.hierarchy.tiers, t.name = r.tier ∧
        ∃ s ∈ t.subannotations, s.name = name := by
      rcases Path.ends_of_resolve hn ht hf with ⟨_, _, he⟩ | ⟨_, _, _, heq⟩
      · cases he with
        | attached _ hmem htier hs => exact ⟨_, hmem, htier, _, List.mem_of_find?_eq_some hs, rfl⟩
        | attachedProperty _ hmem htier hs _ =>
          exact ⟨_, hmem, htier, _, List.mem_of_find?_eq_some hs, rfl⟩
      · cases heq
    obtain ⟨t, hmem, htier, s, hs, rfl⟩ := hdeclared
    exact .attached hr hmem htier hs
  | entity kind r p =>
    obtain rfl := Option.some.inj hnode
    exact .entity hr

theorem Requires.reachable (hn : c.hierarchy.tierNames.Nodup)
    (ht : c.hierarchy.hasTier q.tier = true) (h : c.Requires q n) :
    n.Reachable c.hierarchy q.tier := by
  induction h with
  | anchor => exact .token (.root .zero)
  | filter _ hrefers =>
    cases hrefers with
    | path h | operand _ h =>
      obtain ⟨resolved, hr, hnode⟩ := h
      exact reachable_of_resolve hn ht hr hnode
    | subset hr _ _ => exact .ofSide (Path.climbs_resolve hr) _
  | type _ => exact .type (.root .zero)
  | dependency h hd ih => exact ih.dependency hd (h.dependency hd).climbs

theorem Shows.reachable (hn : c.hierarchy.tierNames.Nodup)
    (ht : c.hierarchy.hasTier q.tier = true) {columns : List String} (h : c.Shows q columns n) :
    n.Reachable c.hierarchy q.tier := by
  induction h with
  | output _ hrefers =>
    obtain ⟨resolved, hr, hnode⟩ := hrefers
    exact reachable_of_resolve hn ht hr hnode
  | dependency h hd ih => exact ih.dependency hd (h.dependency hd).climbs

/-- The aliases that a list comprehension introduces. -/
theorem introduced_collects {h : Hierarchy} {r : Reference} {pattern : PathPattern}
    (hp : pattern.Collects h r) {a : String} (ha : a ∈ pattern.introducedAliases) :
    ∃ lower, h.hasTier lower = true ∧ h.position r.tier < h.position lower ∧
      (a = r.aliasName ++ "_" ++ lower ∨ a = "type_" ++ (r.aliasName ++ "_" ++ lower)) := by
  obtain ⟨lower, leaf, hb, hp⟩ := hp
  obtain ⟨hlower, hlt⟩ := hb.position_lt
  refine ⟨lower, hlower, hlt, ?_⟩
  have hcontained :
      a ∈ (Term.containedPattern (h.levels lower r.tier) r lower).introducedAliases →
        a = r.aliasName ++ "_" ++ lower := by
    simp [PathPattern.introducedAliases, PathPattern.introduced, PathPattern.nodes,
      Term.containedPattern, NodePattern.bound]
  cases leaf with
  | duration =>
    rw [List.mem_singleton.1 hp] at ha
    exact .inl (hcontained ha)
  | property property =>
    cases hside : property.side with
    | token =>
      simp only [Term.collected, hside] at hp
      rw [List.mem_singleton.1 hp] at ha
      exact .inl (hcontained ha)
    | type =>
      simp only [Term.collected, hside] at hp
      rw [List.mem_singleton.1 hp] at ha
      simpa [PathPattern.introducedAliases, PathPattern.introduced, PathPattern.nodes,
        PathPattern.andThen, Term.containedPattern, NodePattern.bound] using ha

theorem collected_ne_aliasName (hp : c.hierarchy.PlainNames)
    (ht : c.hierarchy.hasTier tier = true) {r : Reference} (hr : r.Climbs c.hierarchy tier)
    {pattern : PathPattern} (hc : pattern.Collects c.hierarchy r) {a : String}
    (ha : a ∈ pattern.introducedAliases) (hn : n.Reachable c.hierarchy tier) : n.aliasName ≠ a := by
  obtain ⟨lower, hlower, hlt, hcases⟩ := introduced_collects hc ha
  obtain ⟨hne, hneType⟩ := Node.aliasName_ne_lower hp ht hn hr hlower hlt
  rcases hcases with rfl | rfl
  · exact hne
  · exact hneType

/-- A compiled statement introduces the aliases of its plan. -/
theorem introducedAliases_compile {s : CompiledStatement} (h : c.compileIn l q = .ok s) :
    ∃ p, c.plan l q = .ok p ∧ s.columns = p.ending.columns ∧
      s.statement.clauses.flatMap Clause.introducedAliases = p.aliases := by
  obtain ⟨p, hplan, hcolumns, -, hclauses, -⟩ := compile_eq_ok h
  refine ⟨p, hplan, hcolumns, ?_⟩
  rw [hclauses, Clause.Lifts.flatMap_eq (forall₂_lifted 0 p.clauses) Clause.Lifts.introducedAliases]
  exact introducedAliases_clauses p

/-- Where tiers and sub-annotations have plain names, the alias of a node tells the node, and the
aliases of list comprehensions are those of no node. So no compiled statement introduces an alias
twice: not for two nodes that it binds, and not for one of them and in a list comprehension. -/
theorem aliases_identify (hv : c.hierarchy.validate = .ok ()) (hp : c.hierarchy.PlainNames)
    (ht : c.hierarchy.hasTier tier = true) :
    (∀ m n : Node, m.Reachable c.hierarchy tier → n.Reachable c.hierarchy tier →
      m.aliasName = n.aliasName → m = n) ∧
    (∀ (r : Reference) (pattern : PathPattern), r.Climbs c.hierarchy tier →
      pattern.Collects c.hierarchy r → ∀ a ∈ pattern.introducedAliases,
        ∀ n : Node, n.Reachable c.hierarchy tier → n.aliasName ≠ a) ∧
    ∀ (q : Query) (s : CompiledStatement), q.tier = tier → c.compileIn l q = .ok s →
      c.DistinctAliases q s.columns ∧
      (s.statement.clauses.flatMap Clause.introducedAliases).Nodup ∧
      ∀ pattern ∈ s.statement.clauses.flatMap Clause.listPatterns,
        pattern.introducedAliases.Disjoint
          (s.statement.clauses.flatMap Clause.introducedAliases) := by
  have hn := Hierarchy.nodup_tierNames hv
  refine ⟨fun m n hm hn => Node.aliasName_inj hp ht hm hn,
    fun r pattern hr hc a ha n hn => collected_ne_aliasName hp ht hr hc ha hn, ?_⟩
  rintro q s rfl hs
  obtain ⟨p, hplan, hcolumns, hintroduced⟩ := introducedAliases_compile hs
  have hreachable : ∀ n, c.Requires q n ∨ c.Shows q s.columns n →
      n.Reachable c.hierarchy q.tier := fun n h =>
    h.elim (fun h => h.reachable hn ht) fun h => h.reachable hn ht
  have hdistinct : c.DistinctAliases q s.columns := fun m n hm hn =>
    Node.aliasName_inj hp ht (hreachable m hm) (hreachable n hn)
  refine ⟨hdistinct, ?_, fun pattern hpattern a ha hmem => ?_⟩
  · rw [hintroduced]
    exact nodup_aliases hplan (hcolumns ▸ hdistinct)
  · obtain ⟨r, hr, hc⟩ := listPatterns_compile hs hpattern
    rw [hintroduced, Plan.aliases, List.mem_append, Group.mem_aliases, Group.mem_aliases] at hmem
    have hbound : ∃ n ∈ p.required ++ p.optional, n.aliasName = a := by
      rcases hmem with ⟨n, hn, rfl⟩ | ⟨n, hn, rfl⟩
      · exact ⟨n, List.mem_append_left _ hn, rfl⟩
      · exact ⟨n, List.mem_append_right _ hn, rfl⟩
    obtain ⟨n, hmem, hname⟩ := hbound
    have hbinds : c.Requires q n ∨ c.Shows q s.columns n := hcolumns ▸ (mem_bound hplan).1 hmem
    exact collected_ne_aliasName hp ht hr.climbs hc ha (hreachable n hbinds) hname

/-- A corpus of words and of phones that can have bursts. -/
def bursts : Corpus :=
  ⟨⟨"bursts", [.bare "word", { Tier.bare "phone" with subannotations := [⟨"burst", []⟩] }], [], []⟩,
    .default⟩

end Corpus

/-- A query for the bursts of phones, the labels of the words after a pause and of their phones. -/
def Query.burstsOfPhones : Query :=
  ⟨"phone", none, [], .project { Projection.empty with
    columns := [.ofPath ⟨["phone", "burst", "begin"]⟩,
      .ofPath ⟨["phone", "word", "following_pause", "label"]⟩,
      .ofPath ⟨["phone", "word", "following_pause", "phone", "label"]⟩] }⟩

/-- What shows that a name is plain: a name that does not begin like a displacement is none. -/
def BeginsPlain (name : String) : Prop :=
  name ≠ "" ∧ '_' ∉ name.toList ∧ name ≠ "speaker" ∧ name ≠ "discourse" ∧
    name.toList.take 4 ≠ "prev".toList ∧ name.toList.take 4 ≠ "foll".toList

instance (name : String) : Decidable (BeginsPlain name) :=
  inferInstanceAs (Decidable (_ ∧ _))

theorem BeginsPlain.plainName {name : String} (h : BeginsPlain name) : PlainName name where
  ne_empty := h.1
  no_separator := h.2.1
  ne_entity := by
    rintro (_ | _)
    · exact h.2.2.1
    · exact h.2.2.2.1
  ne_displacement := by
    intro head hhead pause _ digits _ _ heq
    have hbegins : name.toList.take 4 = head.toList := by
      rcases List.mem_pair.1 hhead with rfl | rfl <;> simp [heq, String.toList_append]
    rcases List.mem_pair.1 hhead with rfl | rfl
    · exact h.2.2.2.2.1 hbegins
    · exact h.2.2.2.2.2 hbegins

theorem Hierarchy.plainNames_of_begins {h : Hierarchy} (ht : ∀ t ∈ h.tiers, BeginsPlain t.name)
    (hs : ∀ t ∈ h.tiers, ∀ s ∈ t.subannotations, BeginsPlain s.name ∧ s.name ∉ h.tierNames) :
    h.PlainNames where
  tier t hmem := (ht t hmem).plainName
  attached t hmem s hmem' := (hs t hmem s hmem').1.plainName
  apart t hmem s hmem' := (hs t hmem s hmem').2

theorem Corpus.aliases_identify_bursts :
    bursts.hierarchy.validate = .ok () ∧ bursts.hierarchy.PlainNames ∧
      bursts.hierarchy.hasTier "phone" = true ∧
      ∃ s, bursts.compile .burstsOfPhones = .ok s ∧
        (s.statement.clauses.flatMap Clause.listPatterns).length = 1 ∧
        bursts.DistinctAliases .burstsOfPhones s.columns ∧
        (s.statement.clauses.flatMap Clause.introducedAliases).Nodup ∧
        ∀ pattern ∈ s.statement.clauses.flatMap Clause.listPatterns,
          pattern.introducedAliases.Disjoint
            (s.statement.clauses.flatMap Clause.introducedAliases) := by
  have hv : bursts.hierarchy.validate = .ok () := rfl
  have htier : bursts.hierarchy.hasTier "phone" = true := rfl
  have hnames : bursts.hierarchy.PlainNames :=
    Hierarchy.plainNames_of_begins (by decide) (by decide)
  have hok : (bursts.compile .burstsOfPhones).toOption.isSome = true := by decide
  have hlength : (bursts.compile .burstsOfPhones).toOption.map
      (fun s => (s.statement.clauses.flatMap Clause.listPatterns).length) = some 1 := by decide
  obtain ⟨s, hs⟩ := exists_eq_ok hok
  rw [hs] at hlength
  obtain ⟨-, -, hidentify⟩ := aliases_identify hv hnames htier
  exact ⟨hv, hnames, htier, s, hs, Option.some.inj hlength, hidentify .burstsOfPhones s rfl hs⟩

end AnnotationQuery
