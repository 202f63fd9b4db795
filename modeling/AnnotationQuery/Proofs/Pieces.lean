import AnnotationQuery.Proofs.Compilation
import AnnotationQuery.Statement.Text
import Mathlib.Data.List.Forall2

/-!
# The pieces of a statement's text

The text of a statement is put together from pieces: symbols such as keywords, brackets and numbers,
aliases, identifiers, literals and parameters. Labels, property keys, edge types and column names
are identifiers, and only these are quoted. The pieces say where in a text which name stands; they
come in lines, each of which starts with a keyword.

Results:
* `PathPattern.text_eq`, `Expr.text_eq`, `Clause.text_eq`: texts as pieces.
* `Statement.text_eq`: the text of a statement line by line.
* `Clause.Lifts.addsParameters`: lifting literals adds nothing but parameters.
-/

namespace AnnotationQuery

/-- A piece of a statement's text. -/
inductive Piece where
  /-- Keywords, punctuation, numbers and the names of functions. -/
  | symbols (text : String)
  | aliasName (name : String)
  /-- The name of a label, a property, an edge type or a column. -/
  | identifier (name : String)
  | literal (value : Value)
  | parameter (name : String)

namespace Piece

def text : Piece → String
  | symbols text => text
  | aliasName name => name
  | identifier name => Identifier.quoted name
  | literal value => value.literal
  | parameter name => "$" ++ name

/-- The text of pieces in a row. -/
def written (pieces : List Piece) : String :=
  Text.joined "" (pieces.map text)

/-- Parts with a separator between each two. -/
def separated (separator : String) : List (List Piece) → List Piece
  | [] => []
  | [part] => part
  | part :: parts => part ++ symbols separator :: separated separator parts

end Piece

/-! ## Joined texts -/

namespace Text

theorem joined_empty_cons (t : String) (ts : List String) :
    joined "" (t :: ts) = t ++ joined "" ts := by
  cases ts with
  | nil => simp [joined]
  | cons u us => rw [joined_cons_cons, String.append_empty]

theorem joined_empty_append (ts us : List String) :
    joined "" (ts ++ us) = joined "" ts ++ joined "" us := by
  induction ts with
  | nil => simp [joined]
  | cons t ts ih =>
    rw [List.cons_append, joined_empty_cons, joined_empty_cons, ih, String.append_assoc]

theorem joined_cons_of_ne_nil {separator : String} (t : String) {ts : List String}
    (h : ts ≠ []) : joined separator (t :: ts) = t ++ separator ++ joined separator ts := by
  obtain ⟨u, us, rfl⟩ := List.exists_cons_of_ne_nil h
  exact joined_cons_cons separator t u us

theorem joined_append {separator : String} {ts us : List String} (ht : ts ≠ []) (hu : us ≠ []) :
    joined separator (ts ++ us) = joined separator ts ++ separator ++ joined separator us := by
  induction ts with
  | nil => exact absurd rfl ht
  | cons t ts ih =>
    cases ts with
    | nil => rw [List.singleton_append, joined_cons_of_ne_nil t hu]; rfl
    | cons u ts =>
      rw [List.cons_append, joined_cons_of_ne_nil t (by simp), ih (List.cons_ne_nil _ _),
        joined_cons_cons]
      simp only [String.append_assoc]

theorem joined_cons_eq (separator t : String) (ts : List String) :
    joined separator (t :: ts) = t ++ joined "" (ts.map (separator ++ ·)) := by
  induction ts generalizing t with
  | nil => rw [List.map_nil, joined, joined, String.append_empty]
  | cons u us ih =>
    rw [joined_cons_cons, ih, List.map_cons, joined_empty_cons, String.append_assoc,
      String.append_assoc]

/-- Texts that are joined themselves can be joined at once. -/
theorem joined_flatMap {α : Type} {separator : String} {f : α → List String} {as : List α}
    (h : ∀ a ∈ as, f a ≠ []) :
    joined separator (as.flatMap f) =
      joined separator (as.map fun a => joined separator (f a)) := by
  induction as with
  | nil => rfl
  | cons a as ih =>
    rw [List.forall_mem_cons] at h
    rw [List.flatMap_cons, List.map_cons]
    cases as with
    | nil => simp [joined]
    | cons b bs =>
      have hne : (b :: bs).flatMap f ≠ [] := by
        rw [List.flatMap_cons]
        exact List.append_ne_nil_of_left_ne_nil (h.2 b List.mem_cons_self) _
      rw [joined_append h.1 hne, ih h.2, List.map_cons, joined_cons_cons]

end Text

namespace Piece

@[simp] theorem written_nil : written [] = "" := rfl

@[simp] theorem written_cons (piece : Piece) (pieces : List Piece) :
    written (piece :: pieces) = piece.text ++ written pieces :=
  Text.joined_empty_cons _ _

@[simp] theorem written_append (pieces pieces' : List Piece) :
    written (pieces ++ pieces') = written pieces ++ written pieces' := by
  rw [written, List.map_append, Text.joined_empty_append]
  rfl

theorem written_flatMap {α : Type} (f : α → List Piece) (as : List α) :
    written (as.flatMap f) = Text.joined "" (as.map fun a => written (f a)) := by
  induction as with
  | nil => rfl
  | cons a as ih =>
    rw [List.flatMap_cons, written_append, ih, List.map_cons, Text.joined_empty_cons]

theorem written_separated (separator : String) (parts : List (List Piece)) :
    written (separated separator parts) = Text.joined separator (parts.map written) := by
  induction parts with
  | nil => rfl
  | cons part parts ih =>
    cases parts with
    | nil => rfl
    | cons part' parts =>
      rw [List.map_cons, Text.joined_cons_of_ne_nil _ (by simp), ← ih]
      simp [separated, text, String.append_assoc]

/-- Parts that are written like texts are joined like these. -/
theorem written_separated_map {α : Type} {separator : String} {f : α → List Piece}
    {g : α → String} (h : ∀ a, g a = written (f a)) (as : List α) :
    written (separated separator (as.map f)) = Text.joined separator (as.map g) := by
  rw [written_separated, List.map_map]
  exact congrArg (Text.joined separator) (List.map_congr_left fun a _ => (h a).symm)

theorem mem_separated {separator : String} {parts : List (List Piece)} {piece : Piece}
    (h : piece ∈ separated separator parts) :
    piece = symbols separator ∨ ∃ part ∈ parts, piece ∈ part := by
  induction parts with
  | nil => cases h
  | cons part parts ih =>
    cases parts with
    | nil => exact .inr ⟨part, List.mem_cons_self, h⟩
    | cons part' parts =>
      rcases List.mem_append.1 h with h | h
      · exact .inr ⟨part, List.mem_cons_self, h⟩
      · rcases List.mem_cons.1 h with rfl | h
        · exact .inl rfl
        · exact (ih h).imp_right fun ⟨p, hp, hmem⟩ => ⟨p, List.mem_cons_of_mem _ hp, hmem⟩

theorem mem_separated_of_mem {separator : String} {parts : List (List Piece)} {part : List Piece}
    (hpart : part ∈ parts) {piece : Piece} (h : piece ∈ part) :
    piece ∈ separated separator parts := by
  induction parts with
  | nil => cases hpart
  | cons first parts ih =>
    cases parts with
    | nil => rwa [List.mem_singleton.1 hpart] at h
    | cons part' parts =>
      rcases List.mem_cons.1 hpart with rfl | hpart
      · exact List.mem_append_left _ h
      · exact List.mem_append_right _ (List.mem_cons_of_mem _ (ih hpart))

end Piece

/-! ## Patterns and expressions -/

namespace NodePattern

def pieces (n : NodePattern) : List Piece :=
  .symbols "(" :: .aliasName n.aliasName ::
    n.labels.flatMap (fun label => [.symbols ":", .identifier label]) ++ [.symbols ")"]

theorem text_eq (n : NodePattern) : n.text = Piece.written n.pieces := by
  simp [NodePattern.text, pieces, Piece.written_flatMap, Piece.text, String.append_assoc]

end NodePattern

namespace PathStep

/-- What stands in front of the type of the edges. -/
def opening (s : PathStep) : String :=
  (if s.direction = .incoming then "<" else "") ++ "-[:"

/-- What stands behind the type of the edges. -/
def closing (s : PathStep) : String :=
  (if s.hops = 1 then "" else "*" ++ toString s.hops ++ ".." ++ toString s.hops) ++ "]-" ++
    (if s.direction = .outgoing then ">" else "")

def pieces (s : PathStep) : List Piece :=
  .symbols s.opening :: .identifier s.relation :: .symbols s.closing :: s.node.pieces

theorem text_eq (s : PathStep) : s.edgeText ++ s.node.text = Piece.written s.pieces := by
  simp [edgeText, pieces, opening, closing, NodePattern.text_eq, Piece.text, String.append_assoc]

end PathStep

namespace PathPattern

def pieces (p : PathPattern) : List Piece :=
  p.start.pieces ++ p.steps.flatMap PathStep.pieces

theorem text_eq (p : PathPattern) : p.text = Piece.written p.pieces := by
  have hsteps : p.steps.map (fun s => s.edgeText ++ s.node.text) =
      p.steps.map fun s => Piece.written s.pieces := List.map_congr_left fun s _ => s.text_eq
  rw [PathPattern.text, pieces, Piece.written_append, Piece.written_flatMap, NodePattern.text_eq,
    hsteps]

end PathPattern

mutual

def Expr.pieces : Expr → List Piece
  | .node name => [.aliasName name]
  | .column name => [.identifier name]
  | .property a key => [.aliasName a, .symbols ".", .identifier key]
  | .duration a => [.symbols "(", .aliasName a, .symbols ".", .identifier "end", .symbols " - ",
      .aliasName a, .symbols ".", .identifier "begin", .symbols ")"]
  | .literal value => [.literal value]
  | .parameter name => [.parameter name]
  | .hasLabel a l => [.aliasName a, .symbols ":", .identifier l]
  | .compare left operator right =>
    left.pieces ++ .symbols (" " ++ operator.statementText ++ " ") :: right.pieces
  | .isNull e false => e.pieces ++ [.symbols " IS NULL"]
  | .isNull e true => e.pieces ++ [.symbols " IS NOT NULL"]
  | .negation e => .symbols "NOT (" :: e.pieces ++ [.symbols ")"]
  | .call function arguments =>
    .symbols function :: .symbols "(" :: Piece.separated ", " (Expr.piecesAll arguments) ++
      [.symbols ")"]
  | .collect pattern item =>
    .symbols "[" :: pattern.pieces ++ .symbols " | " :: item.pieces ++ [.symbols "]"]

/-- The pieces of expressions. -/
def Expr.piecesAll : List Expr → List (List Piece)
  | [] => []
  | e :: es => e.pieces :: Expr.piecesAll es

end

theorem Expr.piecesAll_eq_map (es : List Expr) : Expr.piecesAll es = es.map Expr.pieces := by
  induction es with
  | nil => rfl
  | cons e es ih => simp [Expr.piecesAll, ih]

mutual

theorem Expr.text_eq : ∀ e : Expr, e.text = Piece.written e.pieces
  | .node _ | .column _ | .property _ _ | .literal _ | .parameter _ | .hasLabel _ _ => by
    simp [Expr.text, Expr.pieces, Piece.text, String.append_assoc]
  | .duration _ => by
    have hend : Identifier.quoted "end" = "end" := by decide
    have hbegin : Identifier.quoted "begin" = "begin" := by decide
    have hbetween : ".end - " = "." ++ ("end" ++ " - ") := rfl
    simp only [Expr.text, Expr.pieces, Piece.written_cons, Piece.written_nil, Piece.text, hend,
      hbegin, String.append_assoc, String.append_empty]
    rw [hbetween, String.append_assoc, String.append_assoc]
    rfl
  | .compare left _ right => by
    simp [Expr.text, Expr.pieces, Piece.text, left.text_eq, right.text_eq, String.append_assoc]
  | .isNull e false | .isNull e true | .negation e => by
    simp [Expr.text, Expr.pieces, Piece.text, e.text_eq, String.append_assoc]
  | .call _ arguments => by
    simp [Expr.text, Expr.pieces, Piece.text, Piece.written_separated, Expr.textAll_eq arguments,
      String.append_assoc]
  | .collect pattern item => by
    simp [Expr.text, Expr.pieces, Piece.text, pattern.text_eq, item.text_eq, String.append_assoc]

theorem Expr.textAll_eq : ∀ es : List Expr, Expr.textAll es = (Expr.piecesAll es).map Piece.written
  | [] => rfl
  | e :: es => by rw [Expr.textAll, Expr.piecesAll, List.map_cons, e.text_eq, Expr.textAll_eq es]

end

/-! ## Clauses -/

def ReturnItem.pieces (i : ReturnItem) : List Piece :=
  match i.name with
  | some name => i.expr.pieces ++ [.symbols " AS ", .identifier name]
  | none => i.expr.pieces

theorem ReturnItem.text_eq (i : ReturnItem) : i.text = Piece.written i.pieces := by
  obtain ⟨e, name⟩ := i
  cases name <;>
    simp [ReturnItem.text, ReturnItem.pieces, Expr.text_eq, Piece.text, String.append_assoc]

def OrderItem.pieces (i : OrderItem) : List Piece :=
  i.expr.pieces ++ [.symbols (if i.descending then " DESC" else "")]

theorem OrderItem.text_eq (i : OrderItem) : i.text = Piece.written i.pieces := by
  simp [OrderItem.text, OrderItem.pieces, Expr.text_eq, Piece.text]

def SetItem.pieces : SetItem → List Piece
  | .property a key value =>
    .aliasName a :: .symbols "." :: .identifier key :: .symbols " = " :: value.pieces
  | .label a l => [.aliasName a, .symbols ":", .identifier l]

theorem SetItem.text_eq (i : SetItem) : i.text = Piece.written i.pieces := by
  cases i <;> simp [SetItem.text, SetItem.pieces, Expr.text_eq, Piece.text, String.append_assoc]

def RemoveItem.pieces : RemoveItem → List Piece
  | .property a key => [.aliasName a, .symbols ".", .identifier key]
  | .label a l => [.aliasName a, .symbols ":", .identifier l]

theorem RemoveItem.text_eq (i : RemoveItem) : i.text = Piece.written i.pieces := by
  cases i <;> simp [RemoveItem.text, RemoveItem.pieces, Piece.text, String.append_assoc]

namespace Clause

/-- The first line of a clause behind its keyword. -/
def firstLine : Clause → List Piece
  | matching patterns | optionalMatching patterns =>
    Piece.separated ", " (patterns.map PathPattern.pieces)
  | filtering conditions => Piece.separated " AND " (conditions.map Expr.pieces)
  | carrying aliases | deleting _ aliases =>
    Piece.separated ", " (aliases.map fun a => [.aliasName a])
  | returning distinct items _ _ =>
    .symbols (if distinct then "DISTINCT " else "") ::
      Piece.separated ", " (items.map ReturnItem.pieces)
  | setting items => Piece.separated ", " (items.map SetItem.pieces)
  | removing items => Piece.separated ", " (items.map RemoveItem.pieces)

/-- The lines for the order and the number of the rows that a clause returns. -/
def furtherLines : Clause → List (List Piece)
  | returning _ _ orderBy limit =>
    (if orderBy.isEmpty then []
      else [.symbols "ORDER BY " :: Piece.separated ", " (orderBy.map OrderItem.pieces)]) ++
      (limit.map fun n => [.symbols "LIMIT ", .symbols (toString n)]).toList
  | _ => []

/-- The lines of a clause. -/
def lines (k : Clause) : List (List Piece) :=
  (.symbols (k.keyword ++ " ") :: k.firstLine) :: k.furtherLines

theorem lines_ne_nil (k : Clause) : k.lines ≠ [] :=
  List.cons_ne_nil _ _

/-- What stands behind the keyword of a clause. -/
theorem body_eq (k : Clause) : k.body = Piece.written k.firstLine ++
    Text.joined "" (k.furtherLines.map fun line => "\n" ++ Piece.written line) := by
  cases k with
  | matching patterns | optionalMatching patterns =>
    rw [firstLine, Piece.written_separated_map PathPattern.text_eq]
    exact String.append_empty.symm
  | filtering conditions =>
    rw [firstLine, Piece.written_separated_map Expr.text_eq]
    exact String.append_empty.symm
  | setting items =>
    rw [firstLine, Piece.written_separated_map SetItem.text_eq]
    exact String.append_empty.symm
  | removing items =>
    rw [firstLine, Piece.written_separated_map RemoveItem.text_eq]
    exact String.append_empty.symm
  | carrying aliases | deleting _ aliases =>
    rw [firstLine, Piece.written_separated_map (g := id) fun a => rfl,
      List.map_id]
    exact String.append_empty.symm
  | returning distinct items orderBy limit =>
    have horder : Text.joined ", " (orderBy.map OrderItem.text) =
        Piece.written (Piece.separated ", " (orderBy.map OrderItem.pieces)) :=
      (Piece.written_separated_map OrderItem.text_eq orderBy).symm
    rw [firstLine, Piece.written_cons, Piece.written_separated_map ReturnItem.text_eq]
    have horderBy : "\nORDER BY " = "\n" ++ "ORDER BY " := rfl
    have hlimit : "\nLIMIT " = "\n" ++ "LIMIT " := rfl
    simp only [body, furtherLines, horder, horderBy, hlimit]
    cases ho : orderBy.isEmpty <;> cases limit <;>
      simp [-String.reduceAppend, Piece.text, Text.joined, String.append_assoc]

/-- The text of a clause line by line. -/
theorem text_eq (k : Clause) : k.text = Text.joined "\n" (k.lines.map Piece.written) := by
  rw [text, body_eq, lines, List.map_cons, Text.joined_cons_eq, Piece.written_cons, List.map_map,
    Piece.text]
  simp only [String.append_assoc]
  rfl

/-- All pieces of a clause. -/
def pieces (k : Clause) : List Piece :=
  k.lines.flatten

theorem mem_pieces {k : Clause} {piece : Piece} :
    piece ∈ k.pieces ↔ piece = .symbols (k.keyword ++ " ") ∨ piece ∈ k.firstLine ∨
      ∃ line ∈ k.furtherLines, piece ∈ line := by
  rw [pieces, lines, List.flatten_cons, List.mem_append, List.mem_cons, List.mem_flatten, or_assoc]

end Clause

namespace Statement

/-- The lines of a statement. -/
def lines (s : Statement) : List (List Piece) :=
  s.clauses.flatMap Clause.lines

/-- All pieces of a statement. -/
def pieces (s : Statement) : List Piece :=
  s.lines.flatten

theorem pieces_eq (s : Statement) : s.pieces = s.clauses.flatMap Clause.pieces := by
  rw [pieces, lines, List.flatMap_def, List.flatten_flatten, List.map_map, List.flatMap_def]
  rfl

/-- The text of a statement line by line. -/
theorem text_eq (s : Statement) : s.text = Text.joined "\n" (s.lines.map Piece.written) := by
  have hlines : s.lines.map Piece.written =
      s.clauses.flatMap fun k => k.lines.map Piece.written := by
    rw [lines, List.map_flatMap]
  rw [hlines, Text.joined_flatMap fun k _ => List.map_eq_nil_iff.not.2 k.lines_ne_nil]
  exact congrArg (Text.joined "\n") (List.map_congr_left fun k _ => k.text_eq)

end Statement

/-! ## Lifted literals -/

/-- Only parameters are new among the second pieces. -/
def Piece.AddsParameters (pieces pieces' : List Piece) : Prop :=
  ∀ piece ∈ pieces', piece ∈ pieces ∨ ∃ n, piece = .parameter (Parameters.nameOf n)

namespace Piece.AddsParameters

variable {as as' bs bs' : List Piece}

theorem refl (as : List Piece) : AddsParameters as as :=
  fun _ h => .inl h

theorem append (ha : AddsParameters as as') (hb : AddsParameters bs bs') :
    AddsParameters (as ++ bs) (as' ++ bs') := by
  intro piece h
  rcases List.mem_append.1 h with h | h
  · exact (ha piece h).imp_left (List.mem_append_left _)
  · exact (hb piece h).imp_left (List.mem_append_right _)

theorem cons (piece : Piece) (ha : AddsParameters as as') :
    AddsParameters (piece :: as) (piece :: as') :=
  append (refl [piece]) ha

theorem separated (separator : String) {parts parts' : List (List Piece)}
    (h : List.Forall₂ AddsParameters parts parts') :
    AddsParameters (Piece.separated separator parts) (Piece.separated separator parts') := by
  induction h with
  | nil => exact refl []
  | cons hpart hparts ih =>
    cases hparts with
    | nil => exact hpart
    | cons _ _ => exact append hpart (cons _ ih)

end Piece.AddsParameters

open Piece (AddsParameters)

mutual

theorem Expr.addsParameters_lift :
    ∀ (e : Expr) (n : Nat), AddsParameters e.pieces (e.lift n).1.pieces
  | .node _, _ | .column _, _ | .property _ _, _ | .duration _, _ | .parameter _, _
  | .hasLabel _ _, _ => .refl _
  | .literal _, n => fun _ h => .inr ⟨n, List.mem_singleton.1 h⟩
  | .compare left _ right, n =>
    .append (left.addsParameters_lift n) (.cons _ (right.addsParameters_lift _))
  | .isNull e false, n | .isNull e true, n => .append (e.addsParameters_lift n) (.refl _)
  | .negation e, n => .append (.cons _ (e.addsParameters_lift n)) (.refl _)
  | .call _ arguments, n =>
    .append (.cons _ (.cons _ (.separated _ (Expr.addsParameters_liftAll arguments n)))) (.refl _)
  | .collect _ item, n =>
    .append (.append (.refl _) (.cons _ (item.addsParameters_lift n))) (.refl _)

theorem Expr.addsParameters_liftAll : ∀ (es : List Expr) (n : Nat),
    List.Forall₂ AddsParameters (Expr.piecesAll es) (Expr.piecesAll (Expr.liftAll n es).1)
  | [], _ => .nil
  | e :: es, n => .cons (e.addsParameters_lift n) (Expr.addsParameters_liftAll es _)

end

theorem ReturnItem.addsParameters_lift (i : ReturnItem) (n : Nat) :
    AddsParameters i.pieces (i.lift n).1.pieces := by
  obtain ⟨e, name⟩ := i
  cases name with
  | none => exact e.addsParameters_lift n
  | some name => exact .append (e.addsParameters_lift n) (.refl _)

theorem OrderItem.addsParameters_lift (i : OrderItem) (n : Nat) :
    AddsParameters i.pieces (i.lift n).1.pieces :=
  .append (i.expr.addsParameters_lift n) (.refl _)

theorem SetItem.addsParameters_lift (i : SetItem) (n : Nat) :
    AddsParameters i.pieces (i.lift n).1.pieces := by
  cases i with
  | property a key value =>
    exact .cons _ (.cons _ (.cons _ (.cons _ (value.addsParameters_lift n))))
  | label a l => exact .refl _

/-- Items that are lifted one after the other. -/
theorem Piece.AddsParameters.liftEach {α : Type} {lift : Nat → α → α × List Value}
    {f : α → List Piece} (hlift : ∀ a n, AddsParameters (f a) (f (lift n a).1)) (separator : String)
    (n : Nat) (as : List α) :
    AddsParameters (Piece.separated separator (as.map f))
      (Piece.separated separator ((liftEach lift n as).1.map f)) := by
  refine .separated _ ?_
  rw [List.forall₂_map_left_iff, List.forall₂_map_right_iff]
  refine (forall₂_liftEach n as).imp ?_
  rintro a _ ⟨k, rfl⟩
  exact hlift a k

namespace Clause

theorem addsParameters_lift (k : Clause) (n : Nat) :
    AddsParameters k.pieces (k.lift n).1.pieces := by
  cases k with
  | matching _ | optionalMatching _ | carrying _ | removing _ | deleting _ _ => exact .refl _
  | filtering conditions =>
    have hconditions := Piece.AddsParameters.separated " AND "
      (Expr.addsParameters_liftAll conditions n)
    rw [Expr.piecesAll_eq_map, Expr.piecesAll_eq_map] at hconditions
    exact .append (.cons _ hconditions) (.refl _)
  | setting items =>
    exact .append (.cons _ (.liftEach SetItem.addsParameters_lift _ n items)) (.refl _)
  | returning distinct items orderBy limit =>
    have hitems := Piece.AddsParameters.liftEach ReturnItem.addsParameters_lift ", " n items
    cases orderBy with
    | nil => exact .append (.cons _ (.cons _ hitems)) (.refl _)
    | cons o orderBy =>
      have horder := Piece.AddsParameters.liftEach OrderItem.addsParameters_lift ", "
        (n + (liftEach ReturnItem.lift n items).2.length) (o :: orderBy)
      exact .append (.cons _ (.cons _ hitems)) (.append (.cons _ horder) (.refl _))

/-- Lifting literals adds nothing but parameters. -/
theorem Lifts.addsParameters {k k' : Clause} (h : k.Lifts k') :
    AddsParameters k.pieces k'.pieces := by
  rcases h with rfl | ⟨n, rfl⟩
  · exact .refl _
  · exact k.addsParameters_lift n

end Clause

end AnnotationQuery
