import AnnotationQuery.Proofs.LiteralRoundTrip
import AnnotationQuery.Proofs.RepeatedEdge
import AnnotationQuery.Proofs.WrittenNames

/-!
# Texts without line feeds

Names are written with all the characters that they have, also between backticks. Nothing else in
the text of a pattern or an expression can have a line feed: strings are escaped, and the rest are
numbers, words and symbols.

Results:
* `Value.singleLine_literal`: literals have no line feed.
* `Node.singleLine_aliasName`: an alias has none if the names that it is made of have none.
* `Group.singleLine_pattern`: the pattern of a node.
* `Expr.singleLine_comparison` and the lemmas beside it: expressions.
-/

namespace AnnotationQuery

/-! ## Texts -/

namespace Text

/-- There is no line feed in the text. -/
def SingleLine (t : String) : Prop :=
  '\n' ∉ t.toList

instance : DecidablePred SingleLine :=
  fun t => inferInstanceAs (Decidable ('\n' ∉ t.toList))

theorem singleLine_iff {t : String} : SingleLine t ↔ ∀ ch ∈ t.toList, ch ≠ '\n' :=
  List.forall_mem_ne'.symm

@[simp] theorem singleLine_append_iff (s t : String) :
    SingleLine (s ++ t) ↔ SingleLine s ∧ SingleLine t := by
  rw [SingleLine, String.toList_append, List.mem_append, not_or]
  rfl

theorem singleLine_joined_empty {ts : List String} (h : ∀ t ∈ ts, SingleLine t) :
    SingleLine (joined "" ts) := by
  induction ts with
  | nil => decide
  | cons t ts ih =>
    rw [List.forall_mem_cons] at h
    rw [joined_empty_cons, singleLine_append_iff]
    exact ⟨h.1, ih h.2⟩

theorem singleLine_toString (n : Nat) : SingleLine (toString n) :=
  fun h => absurd (Offset.isDigit_of_mem h) (by decide)

theorem mem_escaped {ch : Char} {cs : List Char} (h : ch ∈ Identifier.escaped cs) :
    ch ∈ cs ∨ ch = Identifier.backtick := by
  induction cs with
  | nil => cases h
  | cons c cs ih =>
    unfold Identifier.escaped at h
    split at h <;> simp only [List.mem_cons] at h ⊢ <;> grind

theorem singleLine_quoted {name : String} (h : SingleLine name) :
    SingleLine (Identifier.quoted name) := by
  intro hch
  rw [Identifier.quoted, String.toList_ofList, Identifier.quotedChars] at hch
  split at hch
  · exact h hch
  · simp only [List.cons_append, List.mem_cons, List.mem_append, List.not_mem_nil, or_false] at hch
    rcases hch with hch | hch | hch
    · exact absurd hch (by decide)
    · exact (mem_escaped hch).elim h (by decide)
    · exact absurd hch (by decide)

end Text

open Text (SingleLine)

/-! ## Literals -/

namespace Value

open Literal

theorem not_mem_escapedChar (ch : Char) : '\n' ∉ escapedChar ch := by
  unfold escapedChar
  split_ifs with h1 h2 h3 h4 h5
  · decide
  · decide
  · decide
  · decide
  · decide
  · exact fun hmem => h3 (List.mem_singleton.1 hmem).symm

/-- A number token consists of digits, points, exponent letters and signs. -/
theorem not_mem_splitNumber (cs : List Char) (signed : Bool) :
    '\n' ∉ (splitNumber signed cs).1 := by
  induction cs generalizing signed with
  | nil => exact List.not_mem_nil
  | cons c cs ih =>
    unfold splitNumber
    split_ifs with h1 h2 h3
    · have hc : '\n' ≠ c := by rintro rfl; exact absurd h1 (by decide)
      exact List.not_mem_cons_of_ne_of_not_mem hc (ih false)
    · have hc : '\n' ≠ c := by rintro rfl; exact absurd h2 (by decide)
      exact List.not_mem_cons_of_ne_of_not_mem hc (ih true)
    · have hc : '\n' ≠ c := by rintro rfl; exact absurd h3.2 (by decide)
      exact List.not_mem_cons_of_ne_of_not_mem hc (ih false)
    · exact List.not_mem_nil

theorem IsNumber.not_mem_literalChars {v : Value} (h : v.IsNumber) : '\n' ∉ v.literalChars := by
  have hscan := h.scans [] (by simp [Stops])
  rw [List.append_nil] at hscan
  have hne := not_mem_splitNumber v.literalChars true
  rwa [hscan] at hne

mutual

theorem not_mem_literalChars (v : Value) : '\n' ∉ v.literalChars := by
  match v with
  | .null => decide
  | .bool b => cases b <;> decide
  | .int n => exact (isNumber_int n).not_mem_literalChars
  | .float .nan => decide
  | .float (.infinity negative) => cases negative <;> decide
  | .float (.finite negative m) => exact (isNumber_finite negative m).not_mem_literalChars
  | .string s =>
    have hescaped : '\n' ∉ escapedChars s.toList := fun hmem => by
      obtain ⟨c, -, hc⟩ := List.mem_flatMap.1 hmem
      exact not_mem_escapedChar c hc
    simp [literalChars, hescaped, quote]
  | .list items =>
    rw [literalChars_list]
    simp [not_mem_itemsText items]

theorem not_mem_itemsText (items : List Value) : '\n' ∉ itemsText items := by
  match items with
  | [] => simp [itemsText, literalAll]
  | [item] =>
    rw [itemsText_singleton]
    exact not_mem_literalChars item
  | item :: next :: more =>
    rw [itemsText_cons_cons]
    simp [not_mem_literalChars item, not_mem_itemsText (next :: more)]

end

/-- No literal has a line feed. -/
theorem singleLine_literal (v : Value) : SingleLine v.literal := by
  rw [SingleLine, literal, String.toList_ofList]
  exact v.not_mem_literalChars

end Value

/-! ## Pieces -/

namespace Piece

/-- No piece has a line feed. -/
def SingleLine (pieces : List Piece) : Prop :=
  ∀ piece ∈ pieces, Text.SingleLine piece.text

@[simp] theorem singleLine_nil : SingleLine [] :=
  List.forall_mem_nil _

@[simp] theorem singleLine_cons (piece : Piece) (pieces : List Piece) :
    SingleLine (piece :: pieces) ↔ Text.SingleLine piece.text ∧ SingleLine pieces :=
  List.forall_mem_cons

@[simp] theorem singleLine_append (pieces pieces' : List Piece) :
    SingleLine (pieces ++ pieces') ↔ SingleLine pieces ∧ SingleLine pieces' :=
  List.forall_mem_append

theorem singleLine_flatMap {α : Type} {f : α → List Piece} {as : List α}
    (h : ∀ a ∈ as, SingleLine (f a)) : SingleLine (as.flatMap f) := by
  intro piece hpiece
  obtain ⟨a, ha, hmem⟩ := List.mem_flatMap.1 hpiece
  exact h a ha piece hmem

theorem singleLine_separated {separator : String} (hseparator : Text.SingleLine separator)
    {parts : List (List Piece)} (h : ∀ part ∈ parts, SingleLine part) :
    SingleLine (separated separator parts) := by
  intro piece hpiece
  rcases mem_separated hpiece with rfl | ⟨part, hpart, hmem⟩
  · exact hseparator
  · exact h part hpart piece hmem

theorem SingleLine.written {pieces : List Piece} (h : SingleLine pieces) :
    Text.SingleLine (written pieces) := by
  refine Text.singleLine_joined_empty fun t ht => ?_
  obtain ⟨piece, hpiece, rfl⟩ := List.mem_map.1 ht
  exact h piece hpiece

end Piece

/-! ## Patterns -/

theorem NodePattern.singleLine {n : NodePattern} (ha : SingleLine n.aliasName)
    (hl : ∀ l ∈ n.labels, SingleLine l) : Piece.SingleLine n.pieces := by
  have hcolon : SingleLine ":" := by decide
  have hopen : SingleLine "(" := by decide
  have hclose : SingleLine ")" := by decide
  have hlabels : Piece.SingleLine
      (n.labels.flatMap fun label => [.symbols ":", .identifier label]) :=
    Piece.singleLine_flatMap fun l hmem => by
      simpa [Piece.text, hcolon] using Text.singleLine_quoted (hl l hmem)
  simpa [NodePattern.pieces, Piece.text, hopen, hclose, hlabels] using ha

theorem PathStep.singleLine {s : PathStep} (hr : SingleLine s.relation)
    (hn : Piece.SingleLine s.node.pieces) : Piece.SingleLine s.pieces := by
  have hopening : SingleLine s.opening := by
    unfold PathStep.opening
    split <;> decide
  have hclosing : SingleLine s.closing := by
    have hhops := Text.singleLine_toString s.hops
    have hrange : SingleLine
        (if s.hops = 1 then "" else "*" ++ toString s.hops ++ ".." ++ toString s.hops) := by
      split
      · decide
      · simp only [Text.singleLine_append_iff]
        exact ⟨⟨⟨by decide, hhops⟩, by decide⟩, hhops⟩
    have hend : SingleLine (if s.direction = .outgoing then ">" else "") := by
      split <;> decide
    rw [PathStep.closing, Text.singleLine_append_iff, Text.singleLine_append_iff]
    exact ⟨⟨hrange, by decide⟩, hend⟩
  simpa [PathStep.pieces, Piece.text, hopening, hclosing, hn] using Text.singleLine_quoted hr

theorem PathPattern.singleLine {p : PathPattern} (hs : Piece.SingleLine p.start.pieces)
    (h : ∀ s ∈ p.steps, Piece.SingleLine s.pieces) : Piece.SingleLine p.pieces :=
  (Piece.singleLine_append _ _).2 ⟨hs, Piece.singleLine_flatMap h⟩

theorem Piece.SingleLine.andThen {p : PathPattern} {s : PathStep}
    (hp : Piece.SingleLine p.pieces) (hs : Piece.SingleLine s.pieces) :
    Piece.SingleLine (p.andThen s).pieces := by
  have happend : (p.andThen s).pieces = p.pieces ++ s.pieces := by
    simp [PathPattern.pieces, PathPattern.andThen]
  rw [happend, Piece.singleLine_append]
  exact ⟨hp, hs⟩

theorem Via.singleLine_relation (v : Via) : SingleLine v.relation := by
  rcases v with _ | ⟨_ | _⟩ | _ | ⟨_ | _⟩ | _ <;> decide

namespace Node

variable {n : Node}

theorem singleLine_aliasName (hn : ∀ name ∈ n.names, SingleLine name) : SingleLine n.aliasName := by
  have hplain : ∀ ch, Identifier.isPlain ch = true → ch ≠ '\n' := by
    rintro ch hch rfl
    exact absurd hch (by decide)
  rw [Text.singleLine_iff, n.forall_aliasName_iff hplain]
  exact fun name hname => Text.singleLine_iff.1 (hn name hname)

theorem singleLine_label (hn : ∀ name ∈ n.names, SingleLine name) : SingleLine n.label := by
  cases n with
  | token r => cases r <;> exact hn _ List.mem_cons_self
  | type r =>
    have htier : SingleLine r.tier := by cases r <;> exact hn _ List.mem_cons_self
    exact (Text.singleLine_append_iff _ _).2 ⟨htier, by decide⟩
  | entity kind r =>
    show SingleLine kind.label
    cases kind <;> decide
  | attached r name => exact hn _ List.mem_cons_self

theorem singleLine_nodePattern (hn : ∀ name ∈ n.names, SingleLine name)
    (hcorpus : SingleLine n.reference.corpus) : Piece.SingleLine n.nodePattern.pieces := by
  refine NodePattern.singleLine (singleLine_aliasName hn) fun l hl => ?_
  rcases List.mem_pair.1 hl with rfl | rfl
  · exact singleLine_label hn
  · exact hcorpus

theorem singleLine_stepFrom (h : Hierarchy) (start : Reference)
    (hn : ∀ name ∈ n.names, SingleLine name) (hcorpus : SingleLine n.reference.corpus) :
    Piece.SingleLine (n.stepFrom h start).pieces := by
  refine PathStep.singleLine ?_ ?_
  · rw [stepFrom_relation]
    exact n.via.singleLine_relation
  · rw [stepFrom_node]
    exact singleLine_nodePattern hn hcorpus

end Node

theorem NodePattern.singleLine_bound {a : String} (h : SingleLine a) :
    Piece.SingleLine (NodePattern.bound a).pieces :=
  NodePattern.singleLine h fun _ hl => by cases hl

/-- The pattern of a node with known names that starts at one. -/
theorem Group.singleLine_pattern {h : Hierarchy} {available : List Node} {group : Group} {n : Node}
    (hn : ∀ name ∈ n.names, SingleLine name) (hcorpus : SingleLine n.reference.corpus)
    (hstart : ∀ start, n.start? available = some start → SingleLine start.aliasName) :
    Piece.SingleLine (group.pattern h available n).pieces := by
  have hpattern : Piece.SingleLine (n.pattern h available).pieces := by
    rw [Node.pattern_eq]
    cases hs : n.start? available with
    | none =>
      exact PathPattern.singleLine (Node.singleLine_nodePattern hn hcorpus)
        fun _ hmem => by cases hmem
    | some start =>
      refine PathPattern.singleLine (NodePattern.singleLine_bound (hstart start hs)) fun s hs => ?_
      rw [List.mem_singleton.1 hs]
      exact Node.singleLine_stepFrom h start hn hcorpus
  unfold pattern
  cases hc : group.companion? n with
  | none => exact hpattern
  | some t =>
    obtain ⟨r, rfl, rfl, -⟩ := companion?_eq_some.1 hc
    have hstep : Piece.SingleLine
        (PathStep.mk Relation.isA .outgoing 1 (Node.type r).nodePattern).pieces :=
      PathStep.singleLine Via.type.singleLine_relation (Node.singleLine_nodePattern hn hcorpus)
    exact hpattern.andThen hstep

/-! ## Expressions -/

namespace Expr

variable {a key : String} {e e' : Expr}

theorem singleLine_node (ha : SingleLine a) : Piece.SingleLine (node a).pieces :=
  List.forall_mem_singleton.2 ha

theorem singleLine_column (ha : SingleLine a) : Piece.SingleLine (column a).pieces :=
  List.forall_mem_singleton.2 (Text.singleLine_quoted ha)

theorem singleLine_literal (value : Value) : Piece.SingleLine (literal value).pieces :=
  List.forall_mem_singleton.2 value.singleLine_literal

theorem singleLine_property (ha : SingleLine a) (hk : SingleLine key) :
    Piece.SingleLine (property a key).pieces := by
  have hpoint : SingleLine "." := by decide
  simpa [pieces, Piece.text, hpoint, ha] using Text.singleLine_quoted hk

theorem singleLine_hasLabel (ha : SingleLine a) (hl : SingleLine key) :
    Piece.SingleLine (hasLabel a key).pieces := by
  have hcolon : SingleLine ":" := by decide
  simpa [pieces, Piece.text, hcolon, ha] using Text.singleLine_quoted hl

theorem singleLine_duration (ha : SingleLine a) : Piece.SingleLine (duration a).pieces := by
  have hsymbols : ∀ t ∈ ["(", ".", " - ", ")"], SingleLine t := by decide
  have hkeys : ∀ t ∈ ["end", "begin"], SingleLine (Identifier.quoted t) := by decide
  simp only [List.forall_mem_cons] at hsymbols hkeys
  simp [pieces, Piece.text, hsymbols, hkeys, ha]

theorem singleLine_negation (h : Piece.SingleLine e.pieces) :
    Piece.SingleLine (negation e).pieces := by
  have hopen : SingleLine "NOT (" := by decide
  have hclose : SingleLine ")" := by decide
  simp [pieces, Piece.text, hopen, hclose, h]

theorem singleLine_isNull (h : Piece.SingleLine e.pieces) (negated : Bool) :
    Piece.SingleLine (isNull e negated).pieces := by
  have hnull : SingleLine " IS NULL" := by decide
  have hnot : SingleLine " IS NOT NULL" := by decide
  cases negated <;> simp [pieces, Piece.text, hnull, hnot, h]

theorem singleLine_comparison (h : Piece.SingleLine e.pieces) (operator : Operator)
    (h' : Piece.SingleLine e'.pieces) : Piece.SingleLine (comparison e operator e').pieces := by
  have hcompare : ∀ operator : Operator, Piece.SingleLine (compare e operator e').pieces := by
    intro operator
    have hspace : SingleLine " " := by decide
    have htext : SingleLine operator.statementText := by
      cases operator <;> decide
    simp [pieces, Piece.text, hspace, htext, h, h']
  cases operator with
  | notIn => exact singleLine_negation (hcompare .isIn)
  | _ => exact hcompare _

theorem singleLine_call {function : String} (hf : SingleLine function)
    (h : Piece.SingleLine e.pieces) : Piece.SingleLine (call function [e]).pieces := by
  have hopen : SingleLine "(" := by decide
  have hclose : SingleLine ")" := by decide
  simp [pieces, piecesAll, Piece.separated, Piece.text, hopen, hclose, hf, h]

theorem singleLine_collect {pattern : PathPattern} (hp : Piece.SingleLine pattern.pieces)
    (h : Piece.SingleLine e.pieces) : Piece.SingleLine (collect pattern e).pieces := by
  have hopen : SingleLine "[" := by decide
  have hbar : SingleLine " | " := by decide
  have hclose : SingleLine "]" := by decide
  simp [pieces, Piece.text, hopen, hbar, hclose, hp, h]

end Expr

end AnnotationQuery
