import AnnotationQuery.Compiled.Fingerprint
import AnnotationQuery.Proofs.StatementLines

/-!
# What fingerprints are taken of

A fingerprint is the digest of the text of a statement with a line for each parameter behind it.
There is nothing between the two parts but a line feed, and nothing says how long they are. Still
they can be told apart when names have no line feeds: then the lines of the whole are those of the
text, which start with a keyword, and those of the parameters, which start with `$`. Names of
parameters have no `=`, and a literal determines its value.

Results:
* `Text.joined_lines_inj`: lines are determined by the text that they make.
* `Value.literal_injective`: a value is determined by its literal.
* `CompiledStatement.signature_eq`: the lines of what is hashed.
* `CompiledStatement.signature_inj`: what is hashed determines the text and the parameters.
* `toUTF8_toList_injective`: a text is determined by its bytes.
* `Corpus.compile_message`: compiled statements with the same hashed bytes have the same text and
  the same parameters.
-/

namespace AnnotationQuery

open Text (SingleLine)

/-! ## Lines -/

namespace Text

/-- What stands in front of the first separator is determined, and so is what stands behind. -/
theorem append_separated_inj {separator front front' rest rest' : String} (ch : Char)
    (hs : separator.toList = [ch]) (hf : ch ∉ front.toList) (hf' : ch ∉ front'.toList)
    (h : front ++ separator ++ rest = front' ++ separator ++ rest') :
    front = front' ∧ rest = rest' := by
  have hlists : front.toList ++ ch :: rest.toList = front'.toList ++ ch :: rest'.toList := by
    have := congrArg String.toList h
    simpa [String.toList_append, hs] using this
  obtain ⟨hfront, hrest⟩ := append_cons_inj hf hf' hlists
  exact ⟨String.ext hfront, String.ext hrest⟩

/-- A text without line feeds is not one of several lines. -/
theorem SingleLine.ne_append {t front rest : String} (h : SingleLine t) :
    t ≠ front ++ "\n" ++ rest := by
  rintro rfl
  simp [SingleLine, String.toList_append] at h

/-- Lines are determined by the text that they make. -/
theorem joined_lines_inj {ls ls' : List String} (h : ∀ l ∈ ls, SingleLine l)
    (h' : ∀ l ∈ ls', SingleLine l) (hne : ls ≠ []) (hne' : ls' ≠ [])
    (heq : joined "\n" ls = joined "\n" ls') : ls = ls' := by
  induction ls generalizing ls' with
  | nil => exact absurd rfl hne
  | cons l ls ih =>
    obtain ⟨l', ls', rfl⟩ := List.exists_cons_of_ne_nil hne'
    rw [List.forall_mem_cons] at h h'
    cases ls with
    | nil =>
      cases ls' with
      | nil => exact congrArg ([·]) heq
      | cons m' ms' => exact absurd heq h.1.ne_append
    | cons m ms =>
      cases ls' with
      | nil => exact absurd heq.symm h'.1.ne_append
      | cons m' ms' =>
        rw [joined_cons_cons, joined_cons_cons] at heq
        obtain ⟨rfl, hrest⟩ := append_separated_inj '\n' rfl h.1 h'.1 heq
        rw [ih h.2 h'.2 (List.cons_ne_nil _ _) (List.cons_ne_nil _ _) hrest]

end Text

/-- A value is determined by its literal, since it can be read back. -/
theorem Value.literal_injective : Function.Injective Value.literal := by
  intro v w h
  have hchars : v.literalChars = w.literalChars := String.ofList_injective h
  have hstops : Literal.Stops [] := by simp [Literal.Stops]
  have hv := v.readAt_literalChars hstops (Nat.le_refl _)
  have hw := w.readAt_literalChars hstops (Nat.le_refl _)
  rw [hchars] at hv
  exact congrArg Prod.fst (Except.ok.inj (hv.symm.trans hw))

/-! ## Bytes -/

theorem toList_loop (bytes : ByteArray) (i : Nat) (read : List UInt8) :
    ByteArray.toList.loop bytes i read = read.reverse ++ bytes.data.toList.drop i := by
  fun_induction ByteArray.toList.loop bytes i read with
  | case1 i read hlt ih =>
    have hlength : i < bytes.data.toList.length := hlt
    have hget : bytes.get! i = bytes.data.toList[i] := getElem!_pos bytes.data i hlt
    rw [ih, List.drop_eq_getElem_cons hlength, hget, List.reverse_cons, List.append_assoc,
      List.singleton_append]
  | case2 i read hnlt =>
    have hlength : bytes.data.toList.length ≤ i := Nat.le_of_not_lt hnlt
    rw [List.drop_eq_nil_of_le hlength, List.append_nil]

/-- A text is determined by its bytes. -/
theorem toUTF8_toList_injective : Function.Injective fun t : String => t.toUTF8.toList := by
  intro t u h
  have htoList : ∀ bytes : ByteArray, bytes.toList = bytes.data.toList := fun bytes =>
    (toList_loop bytes 0 []).trans (List.nil_append _)
  have hdata : t.toUTF8.data.toList = u.toUTF8.data.toList := by
    rw [← htoList, ← htoList]
    exact h
  exact String.toByteArray_inj.1 (ByteArray.ext (Array.toList_inj.1 hdata))

/-! ## The first words of lines -/

namespace Clause

/-- What lines of a statement start with. -/
def lineStarts : List String :=
  keywords.map (· ++ " ") ++ ["ORDER BY ", "LIMIT "]

theorem exists_lineStart {k : Clause} {line : List Piece} (h : line ∈ k.lines) :
    ∃ word ∈ lineStarts, ∃ rest, Piece.written line = word ++ rest := by
  rcases List.mem_cons.1 h with rfl | h
  · refine ⟨k.keyword ++ " ", ?_, _, Piece.written_cons _ _⟩
    exact List.mem_append_left _ (List.mem_map_of_mem k.keyword_mem_keywords)
  · cases k with
    | returning distinct items orderBy limit =>
      rcases List.mem_append.1 h with h | h
      · split at h
        · cases h
        · rw [List.mem_singleton.1 h]
          exact ⟨"ORDER BY ", by decide, _, Piece.written_cons _ _⟩
      · obtain ⟨n, -, rfl⟩ := Option.map_eq_some_iff.1 (Option.mem_toList.1 h)
        exact ⟨"LIMIT ", by decide, _, Piece.written_cons _ _⟩
    | matching _ | optionalMatching _ | filtering _ | carrying _ | setting _ | removing _
    | deleting _ _ => cases h

/-- No line starts like that of a parameter. -/
theorem head_written {k : Clause} {line : List Piece} (h : line ∈ k.lines) :
    (Piece.written line).toList.head? ≠ some '$' := by
  have hstarts : ∀ word ∈ lineStarts, word.toList.head?.isSome = true ∧
      word.toList.head? ≠ some '$' := by decide
  obtain ⟨word, hword, rest, heq⟩ := exists_lineStart h
  obtain ⟨hsome, hne⟩ := hstarts word hword
  rw [heq, String.toList_append, List.head?_append, Option.or_of_isSome hsome]
  exact hne

end Clause

/-! ## Parameters -/

namespace Parameters

/-- The line for a parameter. -/
def line (parameter : String × Value) : String :=
  "$" ++ parameter.1 ++ "=" ++ parameter.2.literal

/-- The parameter has one of the names that are given to lifted literals. -/
def Numbered (parameter : String × Value) : Prop :=
  ∃ n, parameter.1 = nameOf n

theorem numbered_ofValues (values : List Value) : ∀ p ∈ ofValues values, Numbered p := by
  intro p hp
  obtain ⟨⟨v, n⟩, -, rfl⟩ := List.mem_map.1 (List.mem_mergeSort.1 hp)
  exact ⟨n, rfl⟩

variable {p p' : String × Value}

theorem Numbered.singleLine_line (h : Numbered p) : SingleLine (line p) := by
  obtain ⟨n, hn⟩ := h
  have hname : SingleLine p.1 := by
    rw [hn]
    exact (Text.singleLine_append_iff _ _).2 ⟨by decide, Text.singleLine_toString n⟩
  have hdollar : SingleLine "$" := by decide
  have hequals : SingleLine "=" := by decide
  simp [line, hname, hdollar, hequals, p.2.singleLine_literal]

theorem Numbered.not_mem_front (h : Numbered p) : '=' ∉ ("$" ++ p.1).toList := by
  obtain ⟨n, hn⟩ := h
  have hdigits : '=' ∉ (toString n).toList := fun hmem =>
    absurd (Offset.isDigit_of_mem hmem) (by decide)
  have hfront : '=' ∉ "$".toList ∧ '=' ∉ "p".toList := by decide
  rw [hn, nameOf, String.toList_append, String.toList_append]
  simp only [List.mem_append, hfront, hdigits, or_false, not_false_eq_true]

/-- A parameter is determined by its line. -/
theorem line_inj (hp : Numbered p) (hp' : Numbered p') (h : line p = line p') : p = p' := by
  obtain ⟨hname, hliteral⟩ :=
    Text.append_separated_inj '=' rfl hp.not_mem_front hp'.not_mem_front h
  exact Prod.ext ((String.append_right_inj "$").1 hname) (Value.literal_injective hliteral)

/-- Parameters are determined by their lines. -/
theorem map_line_inj {ps ps' : Parameters} (hp : ∀ p ∈ ps, Numbered p)
    (hp' : ∀ p ∈ ps', Numbered p) (h : ps.map line = ps'.map line) : ps = ps' := by
  induction ps generalizing ps' with
  | nil => exact (List.map_eq_nil_iff.1 h.symm).symm
  | cons p ps ih =>
    obtain ⟨p', ps', rfl, hline, hlines⟩ := List.map_eq_cons_iff.1 h.symm
    rw [List.forall_mem_cons] at hp hp'
    rw [line_inj hp.1 hp'.1 hline.symm, ih hp.2 hp'.2 hlines.symm]

end Parameters

/-! ## Signatures -/

namespace CompiledStatement

variable {s : CompiledStatement}

/-- The bytes that are hashed. -/
def message (s : CompiledStatement) : List UInt8 :=
  s.signature.toUTF8.toList

theorem fingerprint_eq (s : CompiledStatement) : s.fingerprint = Sha1.hex s.message :=
  rfl

theorem head_lines : ∀ l ∈ s.statement.lines.map Piece.written,
    (l.toList.head? == some '$') = false := by
  intro l hl
  obtain ⟨line, hline, rfl⟩ := List.mem_map.1 hl
  obtain ⟨k, -, hline⟩ := List.mem_flatMap.1 hline
  exact beq_false_of_ne (Clause.head_written hline)

theorem head_parameterLines : ∀ l ∈ s.parameters.map Parameters.line,
    (l.toList.head? == some '$') = true := by
  intro l hl
  obtain ⟨p, -, rfl⟩ := List.mem_map.1 hl
  simp [Parameters.line, String.toList_append]

/-- The lines of what is hashed are those of the text and those of the parameters. -/
theorem signature_eq (hne : s.statement.lines ≠ []) :
    s.signature = Text.joined "\n"
      (s.statement.lines.map Piece.written ++ s.parameters.map Parameters.line) := by
  have hlines : s.statement.lines.map Piece.written ≠ [] := List.map_eq_nil_iff.not.2 hne
  have htext : s.text = Text.joined "\n" (s.statement.lines.map Piece.written) :=
    s.statement.text_eq
  have hparameter : ∀ p : String × Value, parameterLine p = "\n" ++ Parameters.line p := by
    intro p
    have hstart : "\n$" = "\n" ++ "$" := rfl
    simp only [parameterLine, Parameters.line, hstart, String.append_assoc]
  have hparameters : Text.joined "" (s.parameters.map parameterLine) =
      Text.joined "" ((s.parameters.map Parameters.line).map ("\n" ++ ·)) := by
    rw [List.map_map]
    exact congrArg _ (List.map_congr_left fun p _ => hparameter p)
  rw [signature, hparameters, htext]
  obtain ⟨line, lines, hcons⟩ := List.exists_cons_of_ne_nil hlines
  rw [hcons, List.cons_append, Text.joined_cons_eq, Text.joined_cons_eq, List.map_append,
    Text.joined_empty_append, String.append_assoc]

/-- What is hashed determines the text and the parameters when its lines are free of line feeds. -/
theorem signature_inj {s' : CompiledStatement} (hne : s.statement.lines ≠ [])
    (hne' : s'.statement.lines ≠ [])
    (hlines : ∀ line ∈ s.statement.lines, SingleLine (Piece.written line))
    (hlines' : ∀ line ∈ s'.statement.lines, SingleLine (Piece.written line))
    (hp : ∀ p ∈ s.parameters, Parameters.Numbered p)
    (hp' : ∀ p ∈ s'.parameters, Parameters.Numbered p) (h : s.signature = s'.signature) :
    s.text = s'.text ∧ s.parameters = s'.parameters := by
  have hsingle : ∀ s : CompiledStatement,
      (∀ line ∈ s.statement.lines, SingleLine (Piece.written line)) →
      (∀ p ∈ s.parameters, Parameters.Numbered p) →
      ∀ l ∈ s.statement.lines.map Piece.written ++ s.parameters.map Parameters.line,
        SingleLine l := by
    intro s hlines hp l hl
    rcases List.mem_append.1 hl with hl | hl
    · obtain ⟨line, hline, rfl⟩ := List.mem_map.1 hl
      exact hlines line hline
    · obtain ⟨p, hmem, rfl⟩ := List.mem_map.1 hl
      exact (hp p hmem).singleLine_line
  have hjoined : s.statement.lines.map Piece.written ++ s.parameters.map Parameters.line =
      s'.statement.lines.map Piece.written ++ s'.parameters.map Parameters.line := by
    rw [signature_eq hne, signature_eq hne'] at h
    refine Text.joined_lines_inj (hsingle s hlines hp) (hsingle s' hlines' hp') ?_ ?_ h
    · exact List.append_ne_nil_of_left_ne_nil (List.map_eq_nil_iff.not.2 hne) _
    · exact List.append_ne_nil_of_left_ne_nil (List.map_eq_nil_iff.not.2 hne') _
  -- no length says where the parameters start, but the first characters of the lines do
  obtain ⟨htexts, hparameters⟩ := append_inj_of_split
    (p := fun l => (l.toList.head? == some '$') = false) hjoined head_lines
    (fun l hl => by simp [head_parameterLines l hl]) head_lines
    fun l hl => by simp [head_parameterLines l hl]
  refine ⟨?_, Parameters.map_line_inj hp hp' hparameters⟩
  rw [text, text, Statement.text_eq, Statement.text_eq, htexts]

end CompiledStatement

/-! ## Compiled statements -/

namespace Corpus

variable {l l' : Listing} {c c' : Corpus} {q q' : Query} {s s' : CompiledStatement}

theorem lines_compile_ne_nil (h : c.compileIn l q = .ok s) : s.statement.lines ≠ [] := by
  obtain ⟨p, n, -, -, hstages, -⟩ := compile_stages h
  rw [Statement.lines, hstages.clauses_eq, List.flatMap_cons]
  exact List.append_ne_nil_of_left_ne_nil (Clause.lines_ne_nil _) _

theorem numbered_parameters (h : c.compileIn l q = .ok s) :
    ∀ p ∈ s.parameters, Parameters.Numbered p := by
  obtain ⟨p, -, -, -, -, hparameters⟩ := compile_eq_ok h
  rw [hparameters]
  exact Parameters.numbered_ofValues _

/-- Compiled statements for which the same bytes are hashed have the same text, and their parameters
have the same names with the same literals and so the same values. Values are equal up to NaN, of
which there is one, and which alone differs from itself. -/
theorem compile_message (hs : c.compileIn l q = .ok s) (hs' : c'.compileIn l' q' = .ok s')
    (hnames : c.SingleLineNames q) (hnames' : c'.SingleLineNames q')
    (h : s.message = s'.message) :
    s.text = s'.text ∧
      List.Forall₂ (fun p p' : String × Value => p.1 = p'.1 ∧ p.2.literal = p'.2.literal ∧
        p.2 = p'.2 ∧ (p.2.equals p'.2 = true ↔ p.2.hasNaN = false)) s.parameters s'.parameters := by
  obtain ⟨htext, hparameters⟩ := CompiledStatement.signature_inj (lines_compile_ne_nil hs)
    (lines_compile_ne_nil hs') (singleLine_compile hnames hs) (singleLine_compile hnames' hs')
    (numbered_parameters hs) (numbered_parameters hs') (toUTF8_toList_injective h)
  refine ⟨htext, ?_⟩
  -- the values are the same; that they also compare as equal fails for NaN only
  rw [← hparameters]
  refine List.forall₂_same.2 fun p _ => ⟨rfl, rfl, rfl, ?_⟩
  rw [Value.equals_self, Bool.not_eq_true']

end Corpus

/-- A query for the number of the phones with a label; a limit does not matter to it. -/
def Query.countLabelled (limit : Option Nat) : Query :=
  ⟨"phone", none, [⟨⟨["phone", "label"]⟩, .equal, .literal (.string "a\n")⟩],
    .project ⟨[], [.count "n"], [], limit, false⟩⟩

theorem Corpus.compile_message_small :
    ∃ s s', small.compile (.countLabelled none) = .ok s ∧
      small.compile (.countLabelled (some 3)) = .ok s' ∧
      small.SingleLineNames (.countLabelled none) ∧
      small.SingleLineNames (.countLabelled (some 3)) ∧ s.message = s'.message ∧
      s.text = s'.text ∧ s.parameters.length = 1 ∧ s'.parameters.length = 1 := by
  have hok : (small.compile (.countLabelled none)).toOption.isSome = true := by decide
  have hok' : (small.compile (.countLabelled (some 3))).toOption.isSome = true := by decide
  have hsame : small.compile (.countLabelled none) = small.compile (.countLabelled (some 3)) := rfl
  have hlength : (small.compile (.countLabelled none)).toOption.map (·.parameters.length) =
      some 1 := by decide
  have hnames : small.SingleLineNames (.countLabelled none) := by
    unfold SingleLineNames
    decide
  have hnames' : small.SingleLineNames (.countLabelled (some 3)) := by
    unfold SingleLineNames
    decide
  obtain ⟨s, hs⟩ := exists_eq_ok hok
  obtain ⟨s', hs'⟩ := exists_eq_ok hok'
  rw [hs] at hlength
  rw [hs, hs'] at hsame
  have hmessage : s.message = s'.message :=
    congrArg CompiledStatement.message (Except.ok.inj hsame)
  obtain ⟨htext, hparameters⟩ := compile_message hs hs' hnames hnames' hmessage
  have hone : s.parameters.length = 1 := Option.some.inj hlength
  exact ⟨s, s', hs, hs', hnames, hnames', hmessage, htext, hone, hparameters.length_eq ▸ hone⟩

end AnnotationQuery
