import AnnotationQuery.Proofs.LiteralRoundTrip
import Mathlib.Data.List.Chain
import Mathlib.Data.List.TakeWhile

/-!
# The tokens of literals

What the reader takes off the front of a text before it looks at nested values: blanks, the
characters of a string up to its closing quote, a number token and a keyword. Each scanner is
compared with a description of what it should take, in both directions: what is taken fits the
description, and a text that fits it is taken whole.

* `Text.exists_blanks`: what is left behind the blanks of a text.
* `Literal.readString?_eq_some`: a string ends at its first quote without a backslash of its own.
* `Literal.splitNumber_sound`, `NumberToken.splitNumber_append`: a number token is the longest run
  of its characters.
* `Literal.readKeyword?_eq_some`: a keyword is read where the text starts with it.
* `WordDenotes.exists_cons`: no keyword starts like a string, a list or a number.
-/

namespace AnnotationQuery

/-! ## Blanks -/

namespace Text

/-- All characters are blanks. -/
def Blanks (cs : List Char) : Prop :=
  ∀ c ∈ cs, isBlank c = true

theorem Blanks.append {cs ds : List Char} (hcs : Blanks cs) (hds : Blanks ds) : Blanks (cs ++ ds) :=
  List.forall_mem_append.2 ⟨hcs, hds⟩

theorem trimStart_append {blanks : List Char} (h : Blanks blanks) (cs : List Char) :
    trimStart (blanks ++ cs) = trimStart cs :=
  List.dropWhile_append_of_pos h

theorem trimStart_eq_nil {cs : List Char} : trimStart cs = [] ↔ Blanks cs :=
  List.dropWhile_eq_nil_iff

theorem exists_blanks (cs : List Char) : ∃ blanks, Blanks blanks ∧ cs = blanks ++ trimStart cs :=
  ⟨cs.takeWhile isBlank, fun _ hc => List.mem_takeWhile_imp hc,
    List.takeWhile_append_dropWhile.symm⟩

theorem length_trimStart_le (cs : List Char) : (trimStart cs).length ≤ cs.length :=
  (List.dropWhile_sublist isBlank).length_le

theorem trimStart_trimStart (cs : List Char) : trimStart (trimStart cs) = trimStart cs := by
  obtain ⟨blanks, hblanks, hcs⟩ := exists_blanks cs
  rw [← trimStart_append hblanks (trimStart cs), ← hcs]

end Text

namespace Literal

/-! ## Strings -/

/-- The characters between the quotes of a string, and the characters that they stand for. A quote
stands behind a backslash that no other backslash precedes as its own, and the last character is no
such backslash. -/
inductive StringDenotes : List Char → List Char → Prop
  | nil : StringDenotes [] []
  | plain {c : Char} {body s : List Char} (hquote : c ≠ quote) (hbackslash : c ≠ backslash)
      (h : StringDenotes body s) : StringDenotes (c :: body) (c :: s)
  | escaped {body s : List Char} (c : Char) (h : StringDenotes body s) :
      StringDenotes (backslash :: c :: body) (unescapedChar c :: s)

theorem StringDenotes.readString?_append {body s : List Char} (h : StringDenotes body s)
    (rest : List Char) : readString? (body ++ quote :: rest) = some (s, rest) := by
  induction h with
  | nil => exact readString?_quote rest
  | plain hquote hbackslash _ ih =>
    rw [List.cons_append, readString?_plain hquote hbackslash, ih]
    rfl
  | escaped c _ ih =>
    have hstep (cs : List Char) : readString? (backslash :: c :: cs) =
        (readString? cs).map fun pair => (unescapedChar c :: pair.1, pair.2) := rfl
    rw [List.cons_append, List.cons_append, hstep, ih]
    rfl

theorem stringDenotes_of_readString? {cs s rest : List Char}
    (h : readString? cs = some (s, rest)) :
    ∃ body, StringDenotes body s ∧ cs = body ++ quote :: rest := by
  fun_induction readString? cs generalizing s with
  | case1 => cases h
  | case2 cs =>
    cases h
    exact ⟨[], .nil, rfl⟩
  | case3 => cases h
  | case4 c cs _ ih =>
    obtain ⟨⟨s', rest'⟩, hread, hpair⟩ := Option.map_eq_some_iff.1 h
    cases hpair
    obtain ⟨body, hbody, rfl⟩ := ih hread
    exact ⟨backslash :: c :: body, .escaped c hbody, rfl⟩
  | case5 c cs hquote hbackslash ih =>
    obtain ⟨⟨s', rest'⟩, hread, hpair⟩ := Option.map_eq_some_iff.1 h
    cases hpair
    obtain ⟨body, hbody, rfl⟩ := ih hread
    exact ⟨c :: body, .plain hquote hbackslash hbody, rfl⟩

theorem readString?_eq_some {cs s rest : List Char} :
    readString? cs = some (s, rest) ↔
      ∃ body, StringDenotes body s ∧ cs = body ++ quote :: rest := by
  constructor
  · exact stringDenotes_of_readString?
  · rintro ⟨body, hbody, rfl⟩
    exact hbody.readString?_append rest

/-! ## Number tokens -/

/-- A sign of a number or of its exponent. -/
def IsSign (c : Char) : Prop :=
  c = '-' ∨ c = '+'

/-- A letter that starts an exponent. -/
def IsExponentLetter (c : Char) : Prop :=
  c = 'e' ∨ c = 'E'

instance (c : Char) : Decidable (IsExponentLetter c) :=
  inferInstanceAs (Decidable (c = 'e' ∨ c = 'E'))

/-- A character that may stand in a number token. -/
def IsNumeric (c : Char) : Prop :=
  (c.isDigit = true ∨ c = '.') ∨ IsExponentLetter c ∨ IsSign c

instance : DecidablePred IsNumeric := fun c =>
  inferInstanceAs
    (Decidable ((c.isDigit = true ∨ c = '.') ∨ (c = 'e' ∨ c = 'E') ∨ (c = '-' ∨ c = '+')))

/-- A run of the characters of number tokens: a sign stands right behind an exponent letter, or in
front where one is allowed. -/
structure NumberRun (signed : Bool) (run : List Char) : Prop where
  numeric : ∀ c ∈ run, IsNumeric c
  signs : run.IsChain fun c d => IsSign d → IsExponentLetter c
  front : signed = false → ∀ c ∈ run.head?, ¬ IsSign c

/-- A number token starts with a minus sign or with a digit. -/
structure NumberToken (token : List Char) : Prop extends NumberRun true token where
  start : ∃ c ∈ token.head?, c = '-' ∨ c.isDigit = true

/-- No character of a number token is next. -/
def NumberEnds (rest : List Char) : Prop :=
  ∀ c ∈ rest.head?, ¬ IsNumeric c

theorem not_isNumeric_of_isBlank {c : Char} (h : Text.isBlank c = true) : ¬ IsNumeric c := by
  rintro ((hdigit | rfl) | (rfl | rfl) | (rfl | rfl))
  · rw [isBlank_of_isDigit hdigit] at h
    cases h
  all_goals exact absurd h (by decide)

theorem numberEnds_cons {c : Char} (h : ¬ IsNumeric c) (rest : List Char) :
    NumberEnds (c :: rest) := by
  intro d hd
  obtain rfl : c = d := Option.some.inj hd
  exact h

theorem NumberEnds.blanks_append {blanks rest : List Char} (h : NumberEnds rest)
    (hblanks : Text.Blanks blanks) : NumberEnds (blanks ++ rest) := by
  cases blanks with
  | nil => exact h
  | cons c cs => exact numberEnds_cons (not_isNumeric_of_isBlank (hblanks c List.mem_cons_self)) _

theorem numberRun_nil (signed : Bool) : NumberRun signed [] :=
  ⟨by simp, .nil, by simp⟩

/-- Whether a sign may come next depends on the last character only. -/
theorem numberRun_cons {signed : Bool} {c : Char} {run : List Char} :
    NumberRun signed (c :: run) ↔ IsNumeric c ∧ (signed = false → ¬ IsSign c) ∧
      NumberRun (decide (IsExponentLetter c)) run := by
  constructor
  · intro h
    refine ⟨h.numeric c List.mem_cons_self, fun hs => h.front hs c rfl, ?_⟩
    refine ⟨fun d hd => h.numeric d (List.mem_cons_of_mem c hd), h.signs.tail, ?_⟩
    intro hc d hd hsign
    obtain ⟨run, rfl⟩ := List.head?_eq_some_iff.1 hd
    exact of_decide_eq_false hc ((List.isChain_cons_cons.1 h.signs).1 hsign)
  · rintro ⟨hc, hfront, h⟩
    refine ⟨List.forall_mem_cons.2 ⟨hc, h.numeric⟩, ?_, fun hs d hd => ?_⟩
    · refine List.isChain_cons.2 ⟨fun d hd hsign => ?_, h.signs⟩
      exact Decidable.by_contra fun hletter => h.front (decide_eq_false hletter) d hd hsign
    · obtain rfl : c = d := Option.some.inj hd
      exact hfront hs

theorem splitNumber_take {signed : Bool} {c : Char} (hc : IsNumeric c)
    (hfront : signed = false → ¬ IsSign c) (cs : List Char) :
    splitNumber signed (c :: cs) =
      (c :: (splitNumber (decide (IsExponentLetter c)) cs).1,
        (splitNumber (decide (IsExponentLetter c)) cs).2) := by
  rcases hc with hdigit | hletter | hsign
  · have hnot : ¬ IsExponentLetter c := by
      rintro (rfl | rfl) <;> exact absurd hdigit (by decide)
    rw [splitNumber_cons hdigit, decide_eq_false hnot]
  · rcases hletter with rfl | rfl <;> rfl
  · have hallowed : signed = true := by
      cases signed with
      | false => exact absurd hsign (hfront rfl)
      | true => rfl
    rw [hallowed]
    rcases hsign with rfl | rfl <;> rfl

theorem splitNumber_stop {signed : Bool} {c : Char} (cs : List Char)
    (h : ¬ (IsNumeric c ∧ (signed = false → ¬ IsSign c))) :
    splitNumber signed (c :: cs) = ([], c :: cs) := by
  have hdigit : ¬ (c.isDigit = true ∨ c = '.') := by
    intro hdigit
    refine h ⟨.inl hdigit, fun _ hsign => ?_⟩
    rcases hsign with rfl | rfl <;> exact absurd hdigit (by decide)
  have hletter : ¬ (c = 'e' ∨ c = 'E') := by
    intro hletter
    refine h ⟨.inr (.inl hletter), fun _ hsign => ?_⟩
    rcases hsign with rfl | rfl <;> exact absurd hletter (by decide)
  have hsign : ¬ (signed = true ∧ (c = '-' ∨ c = '+')) := by
    rintro ⟨rfl, hsign⟩
    exact h ⟨.inr (.inr hsign), by simp⟩
  rw [splitNumber.eq_2, if_neg hdigit, if_neg hletter, if_neg hsign]

/-- What is split off is a run, and nothing of the text is lost. -/
theorem splitNumber_sound (signed : Bool) (cs : List Char) :
    NumberRun signed (splitNumber signed cs).1 ∧
      cs = (splitNumber signed cs).1 ++ (splitNumber signed cs).2 := by
  induction cs generalizing signed with
  | nil => exact ⟨numberRun_nil signed, rfl⟩
  | cons c cs ih =>
    by_cases hc : IsNumeric c ∧ (signed = false → ¬ IsSign c)
    · obtain ⟨hrun, hcs⟩ := ih (decide (IsExponentLetter c))
      rw [splitNumber_take hc.1 hc.2]
      exact ⟨numberRun_cons.2 ⟨hc.1, hc.2, hrun⟩, congrArg (c :: ·) hcs⟩
    · rw [splitNumber_stop cs hc]
      exact ⟨numberRun_nil signed, rfl⟩

/-- A run is split off whole where no character of a number token follows it. -/
theorem NumberRun.splitNumber_append {signed : Bool} {run rest : List Char}
    (h : NumberRun signed run) (hrest : NumberEnds rest) :
    splitNumber signed (run ++ rest) = (run, rest) := by
  induction run generalizing signed with
  | nil =>
    cases rest with
    | nil => rfl
    | cons c cs => exact splitNumber_stop cs fun hc => hrest c rfl hc.1
  | cons c run ih =>
    obtain ⟨hc, hfront, hrun⟩ := numberRun_cons.1 h
    rw [List.cons_append, splitNumber_take hc hfront, ih hrun]

theorem numberToken_splitNumber {c : Char} (hc : c = '-' ∨ c.isDigit = true) (cs : List Char) :
    NumberToken (splitNumber true (c :: cs)).1 := by
  refine ⟨(splitNumber_sound true (c :: cs)).1, c, ?_, hc⟩
  have hnumeric : IsNumeric c := by
    rcases hc with rfl | hdigit
    · exact .inr (.inr (.inl rfl))
    · exact .inl (.inl hdigit)
  rw [splitNumber_take hnumeric (by simp)]
  rfl

theorem isFloatToken_eq_true {token : List Char} :
    isFloatToken token = true ↔ ∃ c ∈ token, c = '.' ∨ IsExponentLetter c := by
  simp [isFloatToken, IsExponentLetter]

/-! ## Keywords -/

/-- The words that are literals, and their values. -/
inductive WordDenotes : List Char → Value → Prop
  | null : WordDenotes "null".toList .null
  | boolTrue : WordDenotes "true".toList (.bool true)
  | boolFalse : WordDenotes "false".toList (.bool false)
  | nan : WordDenotes "toFloat('NaN')".toList (.float .nan)
  | infinity : WordDenotes "toFloat('Infinity')".toList (.float (.infinity false))
  | negativeInfinity : WordDenotes "toFloat('-Infinity')".toList (.float (.infinity true))

theorem mem_keywords {word : List Char} {v : Value} :
    (word, v) ∈ keywords ↔ WordDenotes word v := by
  constructor
  · intro h
    obtain h | h | h | h | h | h : _ ∨ _ ∨ _ ∨ _ ∨ _ ∨ _ := by
      simpa only [keywords, List.mem_cons, List.not_mem_nil, or_false] using h
    all_goals cases h
    exacts [.null, .boolTrue, .boolFalse, .nan, .infinity, .negativeInfinity]
  · intro h
    cases h with
    | null => exact List.mem_of_getElem? (i := 0) rfl
    | boolTrue => exact List.mem_of_getElem? (i := 1) rfl
    | boolFalse => exact List.mem_of_getElem? (i := 2) rfl
    | nan => exact List.mem_of_getElem? (i := 3) rfl
    | infinity => exact List.mem_of_getElem? (i := 4) rfl
    | negativeInfinity => exact List.mem_of_getElem? (i := 5) rfl

/-- No keyword is the beginning of another one, so that their order does not matter. -/
theorem keywords_pairwise :
    keywords.Pairwise fun a b => ¬ a.1 <+: b.1 ∧ ¬ b.1 <+: a.1 := by
  decide +kernel

theorem dropWord?_eq_some {word cs rest : List Char} :
    dropWord? word cs = some rest ↔ cs = word ++ rest := by
  induction word generalizing cs with
  | nil => simp [dropWord?]
  | cons w word ih =>
    cases cs with
    | nil => simp [dropWord?]
    | cons c cs =>
      by_cases hc : w = c
      · simp [dropWord?, hc, ih]
      · simp [dropWord?, hc, Ne.symm hc]

theorem readKeyword?_eq_some {cs rest : List Char} {v : Value} :
    readKeyword? cs = some (v, rest) ↔ ∃ word, WordDenotes word v ∧ cs = word ++ rest := by
  have hfound (entry : List Char × Value) (result : Value × List Char) :
      (dropWord? entry.1 cs).map (entry.2, ·) = some result ↔
        cs = entry.1 ++ result.2 ∧ entry.2 = result.1 := by
    simp [dropWord?_eq_some, Prod.ext_iff, and_comm]
  constructor
  · intro h
    obtain ⟨entry, hentry, hread⟩ := List.exists_of_findSome?_eq_some h
    obtain ⟨hcs, hvalue⟩ := (hfound entry (v, rest)).1 hread
    obtain ⟨word, value⟩ := entry
    obtain rfl : value = v := hvalue
    exact ⟨word, mem_keywords.1 hentry, hcs⟩
  · rintro ⟨word, hword, hcs⟩
    obtain ⟨before, after, hkeywords⟩ := List.append_of_mem (mem_keywords.2 hword)
    refine List.findSome?_eq_some_iff.2 ⟨before, _, after, hkeywords, ?_, fun entry hentry => ?_⟩
    · exact (hfound (word, v) (v, rest)).2 ⟨hcs, rfl⟩
    · -- two keywords at the front of one text would be one the beginning of the other
      have hapart := keywords_pairwise
      rw [hkeywords, List.pairwise_append] at hapart
      obtain ⟨hfirst, hsecond⟩ := hapart.2.2 entry hentry (word, v) List.mem_cons_self
      refine Option.eq_none_iff_forall_ne_some.2 fun result hresult => ?_
      obtain ⟨hother, -⟩ := (hfound entry result).1 hresult
      rcases List.prefix_or_prefix_of_prefix ⟨_, hother.symm⟩ ⟨_, hcs.symm⟩ with h | h
      · exact hfirst h
      · exact hsecond h

/-! ## The first character -/

/-- A character that starts neither a string nor a list nor a number. -/
def StartsWord (c : Char) : Prop :=
  c ≠ quote ∧ c ≠ '[' ∧ ¬ (c = '-' ∨ c.isDigit = true)

theorem ne_of_startsNumber {c : Char} (h : c = '-' ∨ c.isDigit = true) :
    c ≠ quote ∧ c ≠ '[' ∧ c ≠ ']' ∧ Text.isBlank c = false := by
  rcases h with rfl | hdigit
  · decide
  · exact ⟨isDigit_ne hdigit (by decide), isDigit_ne hdigit (by decide),
      isDigit_ne hdigit (by decide), isBlank_of_isDigit hdigit⟩

theorem WordDenotes.exists_cons {text : List Char} {v : Value} (h : WordDenotes text v) :
    ∃ c tail, text = c :: tail ∧ StartsWord c ∧ Text.isBlank c = false ∧ c ≠ ']' := by
  have hstart {c : Char} (hc : c = 'n' ∨ c = 't' ∨ c = 'f') :
      StartsWord c ∧ Text.isBlank c = false ∧ c ≠ ']' := by
    rcases hc with rfl | rfl | rfl
    all_goals exact ⟨⟨by decide, by decide, by decide⟩, by decide, by decide⟩
  cases h with
  | null => exact ⟨'n', _, rfl, hstart (.inl rfl)⟩
  | boolFalse => exact ⟨'f', _, rfl, hstart (.inr (.inr rfl))⟩
  | boolTrue | nan | infinity | negativeInfinity => exact ⟨'t', _, rfl, hstart (.inr (.inl rfl))⟩

end Literal

end AnnotationQuery
