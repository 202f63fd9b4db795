import AnnotationQuery.Proofs.AliasIdentity
import AnnotationQuery.Proofs.Pieces

/-!
# How names are written

Labels, property keys, edge types and column names are written as identifiers: as they are when they
consist of ASCII letters, digits and `_` and do not start with a digit, and between backticks
otherwise. An alias is put together from the names of tiers and sub-annotations and written as it
is. So it is an identifier only if all these names consist of such characters; for a tier with
another name, such as two words, the text refers to a node by something that is no single name.

Results:
* `Identifier.spells_quoted`: quoted names are identifiers.
* `Reference.forall_aliasName_iff`, `Node.forall_aliasName_iff`: the characters of an alias are
  those of the names that it is made of.
* `Node.isIdentifier_aliasName_iff`: when an alias is an identifier.
* `Clause.ScopedFrom.mem_pieces`: the aliases that the text of scoped clauses uses.
* `Corpus.compile_identifiers`: how the names of a compiled statement are written.
-/

namespace AnnotationQuery

/-! ## Identifiers -/

namespace Identifier

/-- The two ways to write a name as an identifier: a simple name as it is, and any name between
backticks with the backticks inside doubled. -/
inductive Spells (name : List Char) : List Char → Prop
  | simple : isSimple name = true → Spells name name
  | quoted : Spells name (backtick :: escaped name ++ [backtick])

/-- The text is a single identifier. -/
def IsIdentifier (text : List Char) : Prop :=
  ∃ name, Spells name text

theorem spells_quoted (name : String) : Spells name.toList (quoted name).toList := by
  rw [quoted, String.toList_ofList, quotedChars]
  split
  · exact .simple ‹_›
  · exact .quoted

/-- A text that does not start with a backtick is an identifier only as a simple name. -/
theorem isIdentifier_iff {text : List Char} (h : text.head? ≠ some backtick) :
    IsIdentifier text ↔ isSimple text = true := by
  constructor
  · rintro ⟨name, hname⟩
    cases hname with
    | simple hsimple => exact hsimple
    | quoted => exact absurd rfl h
  · exact fun hsimple => ⟨text, .simple hsimple⟩

/-- A text that starts with a letter is an identifier only as a simple name. -/
theorem isIdentifier_iff_of_head {text : List Char} {c : Char} (hhead : text.head? = some c)
    (hc : c ≠ backtick) (hdigit : c.isDigit = false) :
    IsIdentifier text ↔ ∀ d ∈ text, isPlain d = true := by
  obtain ⟨cs, rfl⟩ := List.head?_eq_some_iff.1 hhead
  rw [isIdentifier_iff (by simpa using hc)]
  simp [isSimple, hdigit]

end Identifier

open Identifier (isPlain IsIdentifier)

/-! ## The characters of aliases -/

/-- The names of the tiers that a reference goes through. -/
def Reference.tiers : Reference → List String
  | root _ tier _ => [tier]
  | within inner tier _ => tier :: inner.tiers

/-- The names that the alias of a node is made of. -/
def Node.names : Node → List String
  | token r | type r | entity _ r => r.tiers
  | attached r name => name :: r.tiers

section Characters

variable {P : Char → Prop}

theorem forall_append_iff (s t : String) :
    (∀ c ∈ (s ++ t).toList, P c) ↔ (∀ c ∈ s.toList, P c) ∧ ∀ c ∈ t.toList, P c := by
  rw [String.toList_append]
  exact List.forall_mem_append

variable (hplain : ∀ c, isPlain c = true → P c)

include hplain

theorem forall_of_isPlain {s : String} (h : s.toList.all isPlain = true) :
    ∀ c ∈ s.toList, P c :=
  fun c hc => hplain c (List.all_eq_true.1 h c hc)

theorem Offset.forall_word (o : Offset) : ∀ c ∈ o.word.toList, P c := by
  have hdigits : ∀ c ∈ (toString o.position.natAbs).toList, P c := fun c hc =>
    hplain c (by simp [isPlain, Char.isAlphanum, isDigit_of_mem hc])
  have hhead : (if o.position < 0 then "prev" else "foll").toList.all isPlain = true := by
    split <;> decide
  have haxis : o.axis.word.toList.all isPlain = true := by
    cases o.axis <;> decide
  rw [word, forall_append_iff, forall_append_iff]
  exact ⟨⟨forall_of_isPlain hplain hhead, forall_of_isPlain hplain haxis⟩, hdigits⟩

/-- A displacement adds plain characters only. -/
theorem Reference.forall_segment_iff (tier : String) (o : Offset) :
    (∀ c ∈ (segment tier o).toList, P c) ↔ ∀ c ∈ tier.toList, P c := by
  rw [segment_eq]
  split
  · rfl
  · rw [forall_append_iff, forall_append_iff]
    exact and_iff_right ⟨o.forall_word hplain, forall_of_isPlain hplain (by decide)⟩

/-- The alias of an annotation has the characters of its tiers and plain ones. -/
theorem Reference.forall_aliasName_iff (r : Reference) :
    (∀ c ∈ r.aliasName.toList, P c) ↔ ∀ name ∈ r.tiers, ∀ c ∈ name.toList, P c := by
  induction r with
  | root corpus tier offset =>
    have hnode : ∀ c ∈ "node_".toList, P c := forall_of_isPlain hplain (by decide)
    rw [aliasName, forall_append_iff, forall_segment_iff hplain, tiers, List.forall_mem_singleton]
    exact and_iff_right hnode
  | within inner tier offset ih =>
    have hseparator : ∀ c ∈ "_".toList, P c := forall_of_isPlain hplain (by decide)
    rw [aliasName, forall_append_iff, forall_append_iff, forall_segment_iff hplain, ih, tiers,
      List.forall_mem_cons, and_iff_left hseparator, and_comm]

/-- The alias of a node has the characters of the names that it is made of and plain ones. -/
theorem Node.forall_aliasName_iff (n : Node) :
    (∀ c ∈ n.aliasName.toList, P c) ↔ ∀ name ∈ n.names, ∀ c ∈ name.toList, P c := by
  have hseparator : ∀ c ∈ "_".toList, P c := forall_of_isPlain hplain (by decide)
  cases n with
  | token r => exact r.forall_aliasName_iff hplain
  | type r =>
    have htype : ∀ c ∈ "type_".toList, P c := forall_of_isPlain hplain (by decide)
    rw [aliasName, Reference.typeAlias, forall_append_iff, r.forall_aliasName_iff hplain]
    exact and_iff_right htype
  | entity kind r =>
    have hword : kind.word.toList.all isPlain = true := by
      cases kind <;> decide
    rw [aliasName, forall_append_iff, forall_append_iff, r.forall_aliasName_iff hplain,
      and_iff_left hseparator]
    exact and_iff_left (forall_of_isPlain hplain hword)
  | attached r name =>
    rw [aliasName, forall_append_iff, forall_append_iff, r.forall_aliasName_iff hplain, names,
      List.forall_mem_cons, and_iff_left hseparator, and_comm]

end Characters

/-- When the alias of a node is an identifier. -/
theorem Node.isIdentifier_aliasName_iff (n : Node) :
    IsIdentifier n.aliasName.toList ↔ ∀ name ∈ n.names, ∀ c ∈ name.toList, isPlain c = true := by
  have hhead : n.aliasName.toList.head? = some 'n' ∨ n.aliasName.toList.head? = some 't' := by
    rw [n.head_aliasName]
    cases n <;> simp
  rw [← n.forall_aliasName_iff fun _ h => h]
  rcases hhead with hhead | hhead
  · exact Identifier.isIdentifier_iff_of_head hhead (by decide) (by decide)
  · exact Identifier.isIdentifier_iff_of_head hhead (by decide) (by decide)

/-! ## The aliases in a text -/

theorem NodePattern.aliasName_mem_pieces {n : NodePattern} {a : String} :
    .aliasName a ∈ n.pieces ↔ a = n.aliasName := by
  simp [pieces]

theorem PathPattern.aliasName_mem_pieces {p : PathPattern} {a : String} :
    .aliasName a ∈ p.pieces ↔ a ∈ p.aliases := by
  simp [pieces, aliases, nodes, PathStep.pieces, NodePattern.aliasName_mem_pieces, eq_comm]

theorem Piece.aliasName_mem_separated {separator a : String} {parts : List (List Piece)} :
    aliasName a ∈ separated separator parts ↔ ∃ part ∈ parts, aliasName a ∈ part := by
  constructor
  · intro h
    rcases mem_separated h with h | h
    · cases h
    · exact h
  · rintro ⟨part, hpart, h⟩
    exact mem_separated_of_mem hpart h

mutual

/-- An expression uses aliases in scope and those that its list comprehensions introduce. -/
theorem Expr.Scoped.mem_pieces {scope : List String} {a : String} :
    ∀ {e : Expr}, e.Scoped scope → .aliasName a ∈ e.pieces →
      a ∈ scope ∨ a ∈ e.patterns.flatMap PathPattern.introducedAliases
  | .node _, h, ha => by
    obtain rfl : a = _ := by simpa [Expr.pieces] using ha
    exact .inl h
  | .property _ _, h, ha | .duration _, h, ha | .hasLabel _ _, h, ha => by
    obtain rfl : a = _ := by simpa [Expr.pieces] using ha
    exact .inl h
  | .column _, _, ha | .literal _, _, ha | .parameter _, _, ha => by simp [Expr.pieces] at ha
  | .compare left _ right, h, ha => by
    rw [Expr.patterns, List.flatMap_append, List.mem_append]
    rcases List.mem_append.1 ha with ha | ha
    · exact (Expr.Scoped.mem_pieces h.1 ha).imp_right .inl
    · have ha : .aliasName a ∈ right.pieces := by simpa using ha
      exact (Expr.Scoped.mem_pieces h.2 ha).imp_right .inr
  | .isNull e false, h, ha | .isNull e true, h, ha | .negation e, h, ha =>
    Expr.Scoped.mem_pieces (e := e) h (by simpa [Expr.pieces] using ha)
  | .call _ arguments, h, ha => by
    have ha : ∃ part ∈ Expr.piecesAll arguments, .aliasName a ∈ part := by
      simpa [Expr.pieces, Piece.aliasName_mem_separated] using ha
    exact Expr.ScopedAll.mem_pieces h ha
  | .collect pattern item, h, ha => by
    have ha : .aliasName a ∈ pattern.pieces ∨ .aliasName a ∈ item.pieces := by
      simpa [Expr.pieces] using ha
    rw [Expr.patterns, List.flatMap_cons, List.mem_append]
    rcases ha with ha | ha
    · exact (h.1.mem_aliases (PathPattern.aliasName_mem_pieces.1 ha)).imp_right .inl
    · rcases Expr.Scoped.mem_pieces h.2 ha with ha | ha
      · exact (List.mem_append.1 ha).imp_right .inl
      · exact .inr (.inr ha)

theorem Expr.ScopedAll.mem_pieces {scope : List String} {a : String} :
    ∀ {es : List Expr}, Expr.ScopedAll scope es →
      (∃ part ∈ Expr.piecesAll es, .aliasName a ∈ part) →
      a ∈ scope ∨ a ∈ (Expr.patternsAll es).flatMap PathPattern.introducedAliases
  | [], _, ⟨_, hpart, _⟩ => by cases hpart
  | e :: es, h, ⟨part, hpart, ha⟩ => by
    rw [Expr.patternsAll, List.flatMap_append, List.mem_append]
    rcases List.mem_cons.1 hpart with rfl | hpart
    · exact (Expr.Scoped.mem_pieces h.1 ha).imp_right .inl
    · exact (Expr.ScopedAll.mem_pieces h.2 ⟨part, hpart, ha⟩).imp_right .inr

end

mutual

/-- The aliases of a list comprehension are used. -/
theorem Expr.mem_pieces_of_mem_patterns {pattern : PathPattern} {a : String}
    (ha : a ∈ pattern.introducedAliases) :
    ∀ {e : Expr}, pattern ∈ e.patterns → .aliasName a ∈ e.pieces
  | .compare left _ right, h => by
    rcases List.mem_append.1 h with h | h
    · exact List.mem_append_left _ (Expr.mem_pieces_of_mem_patterns ha h)
    · have hright := Expr.mem_pieces_of_mem_patterns ha h
      exact List.mem_append_right _ (List.mem_cons_of_mem _ hright)
  | .isNull e false, h | .isNull e true, h | .negation e, h => by
    have he := Expr.mem_pieces_of_mem_patterns (e := e) ha h
    simpa [Expr.pieces] using he
  | .call _ arguments, h => by
    have harguments := Expr.mem_piecesAll_of_mem_patternsAll ha h
    simpa [Expr.pieces, Piece.aliasName_mem_separated] using harguments
  | .collect pattern' item, h => by
    rcases List.mem_cons.1 h with rfl | h
    · have hpattern : .aliasName a ∈ pattern.pieces :=
        PathPattern.aliasName_mem_pieces.2 (pattern.introducedAliases_subset ha)
      simp [Expr.pieces, hpattern]
    · have hitem := Expr.mem_pieces_of_mem_patterns ha h
      simp [Expr.pieces, hitem]
  | .node _, h | .column _, h | .property _ _, h | .duration _, h | .literal _, h
  | .parameter _, h | .hasLabel _ _, h => by cases h

theorem Expr.mem_piecesAll_of_mem_patternsAll {pattern : PathPattern} {a : String}
    (ha : a ∈ pattern.introducedAliases) :
    ∀ {es : List Expr}, pattern ∈ Expr.patternsAll es →
      ∃ part ∈ Expr.piecesAll es, .aliasName a ∈ part
  | [], h => by cases h
  | e :: es, h => by
    rcases List.mem_append.1 h with h | h
    · exact ⟨e.pieces, List.mem_cons_self, Expr.mem_pieces_of_mem_patterns ha h⟩
    · obtain ⟨part, hpart, hmem⟩ := Expr.mem_piecesAll_of_mem_patternsAll ha h
      exact ⟨part, List.mem_cons_of_mem _ hpart, hmem⟩

end

theorem Expr.aliasName_mem_pieces_of_list {e : Expr} {a : String}
    (h : a ∈ e.patterns.flatMap PathPattern.introducedAliases) : .aliasName a ∈ e.pieces := by
  obtain ⟨pattern, hpattern, ha⟩ := List.mem_flatMap.1 h
  exact Expr.mem_pieces_of_mem_patterns ha hpattern

theorem ReturnItem.aliasName_mem_pieces {i : ReturnItem} {a : String} :
    .aliasName a ∈ i.pieces ↔ .aliasName a ∈ i.expr.pieces := by
  obtain ⟨e, name⟩ := i
  cases name <;> simp [pieces]

theorem OrderItem.aliasName_mem_pieces {i : OrderItem} {a : String} :
    .aliasName a ∈ i.pieces ↔ .aliasName a ∈ i.expr.pieces := by
  simp [pieces]

theorem SetItem.Scoped.mem_pieces {scope : List String} {i : SetItem} (h : i.Scoped scope)
    {a : String} (ha : .aliasName a ∈ i.pieces) :
    a ∈ scope ∨ a ∈ i.patterns.flatMap PathPattern.introducedAliases := by
  cases i with
  | property target key value =>
    have ha : a = target ∨ .aliasName a ∈ value.pieces := by simpa [SetItem.pieces] using ha
    rcases ha with rfl | ha
    · exact .inl h.1
    · exact h.2.mem_pieces ha
  | label target l =>
    obtain rfl : a = target := by simpa [SetItem.pieces] using ha
    exact .inl h

theorem SetItem.aliasName_mem_pieces_of_list {i : SetItem} {a : String}
    (h : a ∈ i.patterns.flatMap PathPattern.introducedAliases) : .aliasName a ∈ i.pieces := by
  cases i with
  | property target key value =>
    have hvalue := Expr.aliasName_mem_pieces_of_list h
    simp [pieces, hvalue]
  | label target l => cases h

theorem RemoveItem.aliasName_mem_pieces {i : RemoveItem} {a : String} :
    .aliasName a ∈ i.pieces ↔ a = i.aliasName := by
  cases i <;> simp [pieces, aliasName]

namespace Clause

/-- The pieces of a clause apart from keywords and separators. -/
def parts : Clause → List (List Piece)
  | matching patterns | optionalMatching patterns => patterns.map PathPattern.pieces
  | filtering conditions => conditions.map Expr.pieces
  | carrying aliases | deleting _ aliases => aliases.map fun a => [.aliasName a]
  | returning _ items orderBy _ => items.map ReturnItem.pieces ++ orderBy.map OrderItem.pieces
  | setting items => items.map SetItem.pieces
  | removing items => items.map RemoveItem.pieces

theorem aliasName_mem_pieces {k : Clause} {a : String} :
    .aliasName a ∈ k.pieces ↔ ∃ part ∈ k.parts, .aliasName a ∈ part := by
  rw [mem_pieces]
  cases k with
  | returning distinct items orderBy limit =>
    cases limit <;> cases orderBy <;>
      simp [firstLine, furtherLines, parts, Piece.aliasName_mem_separated, or_and_right, exists_or]
  | matching _ | optionalMatching _ | filtering _ | carrying _ | setting _ | removing _
  | deleting _ _ =>
    simp [firstLine, furtherLines, parts, Piece.aliasName_mem_separated]

/-- A clause uses aliases in scope and those that it or its list comprehensions introduce. -/
theorem Scoped.mem_pieces {scope : List String} {k : Clause} (h : k.Scoped scope) {a : String}
    (ha : .aliasName a ∈ k.pieces) :
    a ∈ scope ∨ a ∈ k.introducedAliases ∨
      a ∈ k.listPatterns.flatMap PathPattern.introducedAliases := by
  obtain ⟨part, hpart, ha⟩ := aliasName_mem_pieces.1 ha
  cases k with
  | matching patterns | optionalMatching patterns =>
    obtain ⟨p, hp, rfl⟩ := List.mem_map.1 hpart
    have hmem : a ∈ patterns.flatMap PathPattern.aliases :=
      List.mem_flatMap.2 ⟨p, hp, PathPattern.aliasName_mem_pieces.1 ha⟩
    exact (PathPattern.ScopedAll.mem_aliases h hmem).imp_right .inl
  | filtering conditions =>
    obtain ⟨e, he, rfl⟩ := List.mem_map.1 hpart
    refine ((h e he).mem_pieces ha).imp_right fun ha => .inr ?_
    rw [listPatterns, List.flatMap_assoc]
    exact List.mem_flatMap.2 ⟨e, he, ha⟩
  | carrying aliases | deleting _ aliases =>
    obtain ⟨b, hb, rfl⟩ := List.mem_map.1 hpart
    obtain rfl : a = b := by simpa using ha
    exact .inl (h a hb)
  | returning distinct items orderBy limit =>
    rw [listPatterns, List.flatMap_append, List.flatMap_assoc, List.flatMap_assoc, List.mem_append]
    rcases List.mem_append.1 hpart with hpart | hpart
    · obtain ⟨i, hi, rfl⟩ := List.mem_map.1 hpart
      refine ((h.1 i hi).mem_pieces (ReturnItem.aliasName_mem_pieces.1 ha)).imp_right fun ha => ?_
      exact .inr (.inl (List.mem_flatMap.2 ⟨i, hi, ha⟩))
    · obtain ⟨o, ho, rfl⟩ := List.mem_map.1 hpart
      refine ((h.2 o ho).mem_pieces (OrderItem.aliasName_mem_pieces.1 ha)).imp_right fun ha => ?_
      exact .inr (.inr (List.mem_flatMap.2 ⟨o, ho, ha⟩))
  | setting items =>
    obtain ⟨i, hi, rfl⟩ := List.mem_map.1 hpart
    refine ((h i hi).mem_pieces ha).imp_right fun ha => .inr ?_
    rw [listPatterns, List.flatMap_assoc]
    exact List.mem_flatMap.2 ⟨i, hi, ha⟩
  | removing items =>
    obtain ⟨i, hi, rfl⟩ := List.mem_map.1 hpart
    exact .inl (RemoveItem.aliasName_mem_pieces.1 ha ▸ h i hi)

/-- What a clause or one of its list comprehensions introduces is written in it. -/
theorem mem_pieces_of_introduced {k : Clause} {a : String} (h : a ∈ k.introducedAliases ∨
      a ∈ k.listPatterns.flatMap PathPattern.introducedAliases) : .aliasName a ∈ k.pieces := by
  refine aliasName_mem_pieces.2 ?_
  cases k with
  | matching patterns | optionalMatching patterns =>
    obtain ⟨p, hp, ha⟩ := List.mem_flatMap.1 (h.resolve_right List.not_mem_nil)
    exact ⟨_, List.mem_map_of_mem hp,
      PathPattern.aliasName_mem_pieces.2 (p.introducedAliases_subset ha)⟩
  | filtering conditions =>
    have h := h.resolve_left List.not_mem_nil
    rw [listPatterns, List.flatMap_assoc] at h
    obtain ⟨e, he, ha⟩ := List.mem_flatMap.1 h
    exact ⟨_, List.mem_map_of_mem he, Expr.aliasName_mem_pieces_of_list ha⟩
  | returning distinct items orderBy limit =>
    have h := h.resolve_left List.not_mem_nil
    rw [listPatterns, List.flatMap_append, List.flatMap_assoc, List.flatMap_assoc,
      List.mem_append] at h
    rcases h with h | h
    · obtain ⟨i, hi, ha⟩ := List.mem_flatMap.1 h
      exact ⟨_, List.mem_append_left _ (List.mem_map_of_mem hi),
        ReturnItem.aliasName_mem_pieces.2 (Expr.aliasName_mem_pieces_of_list ha)⟩
    · obtain ⟨o, ho, ha⟩ := List.mem_flatMap.1 h
      exact ⟨_, List.mem_append_right _ (List.mem_map_of_mem ho),
        OrderItem.aliasName_mem_pieces.2 (Expr.aliasName_mem_pieces_of_list ha)⟩
  | setting items =>
    have h := h.resolve_left List.not_mem_nil
    rw [listPatterns, List.flatMap_assoc] at h
    obtain ⟨i, hi, ha⟩ := List.mem_flatMap.1 h
    exact ⟨_, List.mem_map_of_mem hi, SetItem.aliasName_mem_pieces_of_list ha⟩
  | carrying _ | removing _ | deleting _ _ =>
    rcases h with h | h <;> cases h

theorem mem_pieces_of_introduced_flatMap {ks : List Clause} {a : String}
    (h : a ∈ ks.flatMap introducedAliases ∨
      a ∈ (ks.flatMap listPatterns).flatMap PathPattern.introducedAliases) :
    .aliasName a ∈ ks.flatMap pieces := by
  rw [List.flatMap_assoc] at h
  rcases h with h | h
  · obtain ⟨k, hk, ha⟩ := List.mem_flatMap.1 h
    exact List.mem_flatMap.2 ⟨k, hk, mem_pieces_of_introduced (.inl ha)⟩
  · obtain ⟨k, hk, ha⟩ := List.mem_flatMap.1 h
    exact List.mem_flatMap.2 ⟨k, hk, mem_pieces_of_introduced (.inr ha)⟩

/-- Scoped clauses use aliases that are in scope from the start or introduced, by patterns or in
list comprehensions. -/
theorem ScopedFrom.mem_pieces {scope : List String} {ks : List Clause} (h : ScopedFrom scope ks)
    {a : String} (ha : .aliasName a ∈ ks.flatMap pieces) :
    a ∈ scope ∨ a ∈ ks.flatMap introducedAliases ∨
      a ∈ (ks.flatMap listPatterns).flatMap PathPattern.introducedAliases := by
  induction ks generalizing scope with
  | nil => cases ha
  | cons k ks ih =>
    simp only [List.flatMap_cons, List.flatMap_append, List.mem_append] at ha ⊢
    rcases ha with ha | ha
    · rcases h.1.mem_pieces ha with ha | ha | ha
      · exact .inl ha
      · exact .inr (.inl (.inl ha))
      · exact .inr (.inr (.inl ha))
    · rcases ih h.2 ha with ha | ha | ha
      · exact (h.1.mem_scopeAfter ha).imp_right fun ha => .inl (.inl ha)
      · exact .inr (.inl (.inr ha))
      · exact .inr (.inr (.inr ha))

end Clause

/-! ## Compiled statements -/

/-- The aliases that the text of a compiled statement uses, with the names that they are made of:
those of the bound nodes, and those of annotations of a lower tier and of their type nodes in list
comprehensions. -/
inductive CompiledStatement.Writes (s : CompiledStatement) (c : Corpus) (q : Query) :
    String → List String → Prop
  | node {n : Node} : c.Requires q n ∨ c.Shows q s.columns n → Writes s c q n.aliasName n.names
  | listed {r : Reference} {lower : String} {pattern : PathPattern} :
    c.Shows q s.columns (.token r) → pattern ∈ s.statement.clauses.flatMap Clause.listPatterns →
    r.aliasName ++ "_" ++ lower ∈ pattern.introducedAliases →
    Writes s c q (r.aliasName ++ "_" ++ lower) (lower :: r.tiers)
  | listedType {r : Reference} {lower : String} {pattern : PathPattern} :
    c.Shows q s.columns (.token r) → pattern ∈ s.statement.clauses.flatMap Clause.listPatterns →
    "type_" ++ (r.aliasName ++ "_" ++ lower) ∈ pattern.introducedAliases →
    Writes s c q ("type_" ++ (r.aliasName ++ "_" ++ lower)) (lower :: r.tiers)

namespace CompiledStatement.Writes

variable {l : Listing} {s : CompiledStatement} {c : Corpus} {q : Query} {a : String}
  {names : List String}

/-- An alias is made like that of a node. -/
theorem exists_node (h : s.Writes c q a names) : ∃ n : Node, n.aliasName = a ∧ n.names = names := by
  cases h with
  | node _ => exact ⟨_, rfl, rfl⟩
  | @listed r lower _ _ _ _ => exact ⟨.token (r.containedBy lower), rfl, rfl⟩
  | @listedType r lower _ _ _ _ => exact ⟨.type (r.containedBy lower), rfl, rfl⟩

end CompiledStatement.Writes

namespace Corpus

variable {l : Listing} {c : Corpus} {q : Query}

theorem scopedFrom_compile {s : CompiledStatement} (h : c.compileIn l q = .ok s) :
    Clause.ScopedFrom [] s.statement.clauses := by
  obtain ⟨p, hp, -, -, hlifted, -⟩ := compile_eq_ok h
  rw [hlifted]
  exact (Clause.Lifts.scopedFrom (forall₂_lifted 0 p.clauses)).2 (scopedFrom_clauses hp)

/-- The aliases in the text of a compiled statement. -/
theorem aliasName_mem_pieces_iff {s : CompiledStatement} (h : c.compileIn l q = .ok s)
    {a : String} :
    .aliasName a ∈ s.statement.pieces ↔ ∃ names, s.Writes c q a names := by
  obtain ⟨p, hp, hcolumns, hintroduced⟩ := introducedAliases_compile h
  have hbound : a ∈ s.statement.clauses.flatMap Clause.introducedAliases ↔
      ∃ n, (c.Requires q n ∨ c.Shows q s.columns n) ∧ n.aliasName = a := by
    rw [hintroduced, hcolumns, Plan.aliases, List.mem_append, Group.mem_aliases,
      Group.mem_aliases]
    simp only [← mem_bound hp, List.mem_append, or_and_right, exists_or]
  have hwritten : .aliasName a ∈ s.statement.pieces ↔
      a ∈ s.statement.clauses.flatMap Clause.introducedAliases ∨
        ∃ pattern ∈ s.statement.clauses.flatMap Clause.listPatterns,
          a ∈ pattern.introducedAliases := by
    rw [← List.mem_flatMap, Statement.pieces_eq]
    refine ⟨fun ha => ((scopedFrom_compile h).mem_pieces ha).resolve_left List.not_mem_nil, ?_⟩
    exact Clause.mem_pieces_of_introduced_flatMap
  rw [hwritten, hbound]
  constructor
  · rintro (⟨n, hn, rfl⟩ | ⟨pattern, hpattern, ha⟩)
    · exact ⟨_, .node hn⟩
    -- a list comprehension introduces an annotation of a lower tier, perhaps with its type node
    · obtain ⟨r, hr, hc⟩ := listPatterns_compile h hpattern
      obtain ⟨lower, -, -, rfl | rfl⟩ := introduced_collects hc ha
      · exact ⟨_, .listed hr hpattern ha⟩
      · exact ⟨_, .listedType hr hpattern ha⟩
  · rintro ⟨names, hw⟩
    cases hw with
    | node hn => exact .inl ⟨_, hn, rfl⟩
    | listed _ hpattern ha | listedType _ hpattern ha => exact .inr ⟨_, hpattern, ha⟩

/-- How the names in the text of a compiled statement are written. The names of labels, property
keys, edge types and columns are written as identifiers, whatever characters they have. The aliases
are those of the bound nodes and of the annotations in list comprehensions; they are written as they
are, so one is an identifier if and only if the names that it is made of have plain characters
only. -/
theorem compile_identifiers {s : CompiledStatement} (h : c.compileIn l q = .ok s) :
    s.text = Text.joined "\n" (s.statement.lines.map Piece.written) ∧
      (∀ name, .identifier name ∈ s.statement.pieces →
        Identifier.Spells name.toList (Piece.identifier name).text.toList) ∧
      (∀ a, .aliasName a ∈ s.statement.pieces ↔ ∃ names, s.Writes c q a names) ∧
      ∀ a names, s.Writes c q a names →
        (IsIdentifier (Piece.aliasName a).text.toList ↔
          ∀ name ∈ names, ∀ ch ∈ name.toList, isPlain ch = true) := by
  refine ⟨s.statement.text_eq, fun name _ => Identifier.spells_quoted name,
    fun a => aliasName_mem_pieces_iff h, fun a names hw => ?_⟩
  obtain ⟨n, rfl, rfl⟩ := hw.exists_node
  exact n.isIdentifier_aliasName_iff

/-- A corpus with a tier that is named by two words. -/
def spaced : Corpus :=
  ⟨⟨"small", [.bare "my word"], [], []⟩, .default⟩

end Corpus

def Query.deleteSpaced : Query :=
  ⟨"my word", none, [], .delete⟩

theorem Corpus.compile_identifiers_spaced :
    spaced.hierarchy.validate = .ok () ∧ ∃ s, spaced.compile .deleteSpaced = .ok s ∧
      s.text = "MATCH (node_my word:`my word`:small)\nDETACH DELETE node_my word" ∧
      .aliasName "node_my word" ∈ s.statement.pieces ∧
      ¬IsIdentifier "node_my word".toList ∧
      Identifier.Spells "my word".toList "`my word`".toList := by
  have hv : spaced.hierarchy.validate = .ok () := rfl
  have hok : (spaced.compile .deleteSpaced).toOption.isSome = true := by decide
  have htext : (spaced.compile .deleteSpaced).toOption.map (·.text) =
      some "MATCH (node_my word:`my word`:small)\nDETACH DELETE node_my word" := by decide
  obtain ⟨s, hs⟩ := exists_eq_ok hok
  rw [hs] at htext
  obtain ⟨-, -, haliases, hidentifier⟩ := compile_identifiers hs
  have hanchor : s.Writes spaced .deleteSpaced "node_my word" ["my word"] :=
    .node (.inl (.anchor))
  refine ⟨hv, s, hs, Option.some.inj htext, (haliases _).2 ⟨_, hanchor⟩, fun hid => ?_,
    Identifier.spells_quoted "my word"⟩
  have hspace : isPlain ' ' = true :=
    (hidentifier _ _ hanchor).1 hid "my word" (List.mem_singleton_self _) ' ' (by decide)
  exact absurd hspace (by decide)

end AnnotationQuery
