import AnnotationQuery.Value.LiteralReader
import AnnotationQuery.Proofs.NumberText

/-!
# Literals read back

The reader takes a literal back to the value that it was written for, whatever text follows, as long
as that text does not go on with a number. No character of a string ends its literal early, since
quotes and backslashes inside it are escaped; no number token ends early, since the reader takes
every character that a written number holds.

* `Literal.readString?_escapedChars`: a string is read up to its closing quote.
* `NumberForm.scans_text`: a number token is taken whole.
* `Value.readAt_literalChars`: a value is read and the rest of the text left alone.
* `Value.readLiteral_literal`: a literal is read as the value that it was written for.
-/

namespace AnnotationQuery

namespace Literal

/-! ## Strings -/

theorem readString?_quote (rest : List Char) : readString? (quote :: rest) = some ([], rest) := by
  cases rest with
  | nil => rfl
  | cons c cs => rfl

theorem readString?_plain {c : Char} (hquote : c ≠ quote) (hbackslash : c ≠ backslash)
    (cs : List Char) :
    readString? (c :: cs) = (readString? cs).map fun (s, rest) => (c :: s, rest) := by
  cases cs with
  | nil => simp only [readString?, if_neg hquote, if_neg hbackslash]
  | cons d ds => simp only [readString?, if_neg hquote, if_neg hbackslash]

theorem readString?_escapedChar (c : Char) (cs : List Char) :
    readString? (escapedChar c ++ cs) = (readString? cs).map fun (s, rest) => (c :: s, rest) := by
  unfold escapedChar
  by_cases hbackslash : c = backslash
  · rw [if_pos hbackslash, hbackslash]
    rfl
  by_cases hquote : c = quote
  · rw [if_neg hbackslash, if_pos hquote, hquote]
    rfl
  by_cases hnewline : c = '\n'
  · rw [hnewline]
    rfl
  by_cases hreturn : c = '\r'
  · rw [hreturn]
    rfl
  by_cases htab : c = '\t'
  · rw [htab]
    rfl
  rw [if_neg hbackslash, if_neg hquote, if_neg hnewline, if_neg hreturn, if_neg htab]
  exact readString?_plain hquote hbackslash cs

theorem readString?_escapedChars (cs rest : List Char) :
    readString? (escapedChars cs ++ quote :: rest) = some (cs, rest) := by
  induction cs with
  | nil =>
    exact readString?_quote rest
  | cons c cs ih =>
    have hescaped : escapedChars (c :: cs) = escapedChar c ++ escapedChars cs := List.flatMap_cons
    rw [hescaped, List.append_assoc, readString?_escapedChar, ih]
    rfl

/-! ## Number tokens -/

/-- No number token goes on with the text. A sign may stand in front of it: a token takes one only
behind an exponent letter. -/
def Stops (rest : List Char) : Prop :=
  ∀ c ∈ rest.head?, c.isDigit = false ∧ c ≠ '.' ∧ c ≠ 'e' ∧ c ≠ 'E'

/-- The text is taken as one token whatever follows it. -/
def Scans (signed : Bool) (text : List Char) : Prop :=
  ∀ rest, Stops rest → splitNumber signed (text ++ rest) = (text, rest)

theorem splitNumber_of_stops {rest : List Char} (h : Stops rest) :
    splitNumber false rest = ([], rest) := by
  cases rest with
  | nil => rfl
  | cons c cs =>
    obtain ⟨hdigit, hpoint, hlower, hupper⟩ := h c rfl
    simp [splitNumber, hdigit, hpoint, hlower, hupper]

theorem splitNumber_cons {c : Char} (hc : c.isDigit = true ∨ c = '.') (signed : Bool)
    (cs : List Char) :
    splitNumber signed (c :: cs) = (c :: (splitNumber false cs).1, (splitNumber false cs).2) := by
  rw [splitNumber.eq_2, if_pos hc]

theorem scans_nil : Scans false [] :=
  fun _ h => splitNumber_of_stops h

theorem Scans.cons {c : Char} {cs : List Char} (hc : c.isDigit = true ∨ c = '.')
    (h : Scans false cs) (signed : Bool) : Scans signed (c :: cs) := by
  intro rest hrest
  rw [List.cons_append, splitNumber_cons hc, h rest hrest]

theorem Scans.append {ds text : List Char} (hds : ∀ c ∈ ds, c.isDigit = true ∨ c = '.')
    (h : Scans false text) : Scans false (ds ++ text) := by
  induction ds with
  | nil => exact h
  | cons c ds ih =>
    have hrest : Scans false (ds ++ text) := ih fun d hd => hds d (List.mem_cons_of_mem c hd)
    exact hrest.cons (hds c List.mem_cons_self) false

theorem Scans.exponent {text : List Char} (h : Scans true text) : Scans false ('e' :: text) := by
  intro rest hrest
  have hread := h rest hrest
  simp [splitNumber, hread]

theorem Scans.signed {c : Char} {cs : List Char} (hc : c.isDigit = true)
    (h : Scans false (c :: cs)) (negative : Bool) :
    Scans true (signText negative ++ c :: cs) := by
  intro rest hrest
  have hread := h rest hrest
  cases negative with
  | true =>
    show splitNumber true ('-' :: (c :: cs ++ rest)) = _
    have hminus : splitNumber true ('-' :: (c :: cs ++ rest)) =
        ('-' :: (splitNumber false (c :: cs ++ rest)).1,
          (splitNumber false (c :: cs ++ rest)).2) := by
      rw [splitNumber.eq_2]
      rfl
    rw [hminus, hread]
    rfl
  | false =>
    show splitNumber true (c :: (cs ++ rest)) = _
    rw [splitNumber_cons (.inl hc), ← splitNumber_cons (.inl hc) false]
    exact hread

theorem scans_digits {ds : List Char} (h : AllDigits ds) : Scans false ds := by
  have hscans : Scans false (ds ++ []) := scans_nil.append fun c hc => .inl (h c hc)
  rwa [List.append_nil] at hscans

theorem scans_wholeText (n : Int) : Scans true (wholeText n) := by
  have hscans := scans_digits (allDigits_toDigits n.natAbs)
  obtain ⟨c, cs, hcs⟩ := List.exists_cons_of_ne_nil (Nat.toDigits_ne_nil (b := 10) (n := n.natAbs))
  have hc : c.isDigit = true :=
    allDigits_toDigits n.natAbs c (by rw [hcs]; exact List.mem_cons_self)
  unfold wholeText
  rw [hcs] at hscans ⊢
  exact hscans.signed hc _

theorem isFloatToken_of_mem {c : Char} {token : List Char} (hmem : c ∈ token)
    (hc : c = '.' ∨ c = 'e' ∨ c = 'E') : isFloatToken token = true :=
  List.any_eq_true.mpr ⟨c, hmem, decide_eq_true hc⟩

theorem isFloatToken_wholeText (n : Int) : isFloatToken (wholeText n) = false := by
  refine List.any_eq_false.mpr fun c hc => ?_
  have hplain : c = '-' ∨ c.isDigit = true := by
    rcases List.mem_append.mp hc with hsign | hdigit
    · unfold signText at hsign
      split at hsign
      · exact .inl (List.mem_singleton.mp hsign)
      · exact absurd hsign List.not_mem_nil
    · exact .inr (allDigits_toDigits n.natAbs c hdigit)
  rw [decide_eq_true_eq]
  rintro (rfl | rfl | rfl) <;> exact absurd hplain (by decide)

theorem readNumber_wholeText (n : Int64) : readNumber (wholeText n.toInt) = .ok (.int n) := by
  unfold readNumber
  rw [isFloatToken_wholeText, readInt64?_wholeText]
  rfl

end Literal

namespace NumberForm

open Literal

theorem scans_text (f : NumberForm) : Scans false f.text := by
  have hexponent : Scans false f.exponentText := by
    unfold exponentText
    cases f.exponent? with
    | none => exact scans_nil
    | some e => exact (scans_wholeText e).exponent
  have hfraction : ∀ c ∈ f.fractionText, c.isDigit = true ∨ c = '.' := by
    intro c hc
    unfold fractionText at hc
    cases hds : f.fraction? with
    | none =>
      rw [hds] at hc
      exact absurd hc List.not_mem_nil
    | some ds =>
      rw [hds] at hc
      rcases List.mem_cons.mp hc with hpoint | hdigit
      · exact .inr hpoint
      · exact .inl (f.fraction_digits ds hds c hdigit)
  exact (hexponent.append hfraction).append fun c hc => .inl (f.whole_digits c hc)

theorem isFloatToken_text {f : NumberForm} (h : f.fraction?.isSome ∨ f.exponent?.isSome) :
    isFloatToken f.text = true := by
  rcases h with hfraction | hexponent
  · obtain ⟨ds, hds⟩ := Option.isSome_iff_exists.mp hfraction
    refine isFloatToken_of_mem (c := '.') ?_ (.inl rfl)
    simp [text, fractionText, hds]
  · obtain ⟨e, he⟩ := Option.isSome_iff_exists.mp hexponent
    refine isFloatToken_of_mem (c := 'e') ?_ (.inr (.inl rfl))
    simp [text, exponentText, he]

theorem readNumber_text {f : NumberForm} {m : Magnitude} (hvalue : f.value.magnitude? = some m)
    (hfloat : f.fraction?.isSome ∨ f.exponent?.isSome) (negative : Bool) :
    readNumber (signText negative ++ f.text) = .ok (.float (.finite negative m)) := by
  have htoken : isFloatToken (signText negative ++ f.text) = true := by
    obtain ⟨c, hmem, hc⟩ := List.any_eq_true.mp (isFloatToken_text hfloat)
    exact isFloatToken_of_mem (List.mem_append_right _ hmem) (of_decide_eq_true hc)
  unfold readNumber
  rw [htoken, Binary64.read?_form hvalue]
  rfl

end NumberForm

/-! ## The first character -/

theorem isDigit_ne {c d : Char} (hc : c.isDigit = true) (hd : d.isDigit = false) : c ≠ d := by
  rintro rfl
  rw [hc] at hd
  exact absurd hd (by decide)

theorem isBlank_of_isDigit {c : Char} (hc : c.isDigit = true) : Text.isBlank c = false := by
  have hrange : 48 ≤ c.toNat ∧ c.toNat ≤ 57 := by
    simpa [Char.isDigit, UInt32.le_iff_toNat_le] using hc
  simp [Text.isBlank]
  omega

namespace Value

open Literal

/-- The literal is a number token that reads as the value. -/
structure IsNumber (v : Value) : Prop where
  head : ∃ negative c cs, v.literalChars = signText negative ++ c :: cs ∧ c.isDigit = true
  scans : Scans true v.literalChars
  reads : readNumber v.literalChars = .ok v

/-- The literal is a keyword that reads as the value. -/
structure IsWord (v : Value) : Prop where
  head : ∃ c cs, v.literalChars = c :: cs ∧ (c = 'n' ∨ c = 't' ∨ c = 'f')
  reads : ∀ rest, readKeyword? (v.literalChars ++ rest) = some (v, rest)

theorem isNumber_int (n : Int64) : IsNumber (.int n) := by
  have htext : (Value.int n).literalChars = wholeText n.toInt := toList_toString n.toInt
  obtain ⟨c, cs, hcs⟩ :=
    List.exists_cons_of_ne_nil (Nat.toDigits_ne_nil (b := 10) (n := n.toInt.natAbs))
  refine ⟨⟨decide (n.toInt < 0), c, cs, ?_, ?_⟩, ?_, ?_⟩
  · rw [htext, ← hcs]
    rfl
  · exact allDigits_toDigits n.toInt.natAbs c (by rw [hcs]; exact List.mem_cons_self)
  · rw [htext]
    exact scans_wholeText n.toInt
  · rw [htext]
    exact readNumber_wholeText n

theorem isNumber_finite (negative : Bool) (m : Magnitude) :
    IsNumber (.float (.finite negative m)) := by
  obtain ⟨f, hf, hfloat, hvalue⟩ := Style.exists_form m
  obtain ⟨c, cs, hcs, hc⟩ := f.exists_cons_text
  have htext : (Value.float (.finite negative m)).literalChars = signText negative ++ f.text := by
    rw [hf]
    cases negative <;> rfl
  refine ⟨⟨negative, c, cs, ?_, hc⟩, ?_, ?_⟩
  · rw [htext, hcs]
  · rw [htext, hcs]
    exact Scans.signed hc (hcs ▸ f.scans_text) negative
  · rw [htext]
    exact NumberForm.readNumber_text hvalue hfloat negative

theorem isWord_null : IsWord .null :=
  ⟨⟨'n', _, rfl, .inl rfl⟩, fun _ => rfl⟩

theorem isWord_bool (b : Bool) : IsWord (.bool b) := by
  cases b with
  | true => exact ⟨⟨'t', _, rfl, .inr (.inl rfl)⟩, fun _ => rfl⟩
  | false => exact ⟨⟨'f', _, rfl, .inr (.inr rfl)⟩, fun _ => rfl⟩

theorem isWord_nan : IsWord (.float .nan) :=
  ⟨⟨'t', _, rfl, .inr (.inl rfl)⟩, fun _ => rfl⟩

theorem isWord_infinity (negative : Bool) : IsWord (.float (.infinity negative)) := by
  cases negative with
  | true => exact ⟨⟨'t', _, rfl, .inr (.inl rfl)⟩, fun _ => rfl⟩
  | false => exact ⟨⟨'t', _, rfl, .inr (.inl rfl)⟩, fun _ => rfl⟩

/-- A literal is a number token, a keyword, a string or a list. -/
theorem literal_cases (v : Value) :
    IsNumber v ∨ IsWord v ∨ (∃ s, v = .string s) ∨ ∃ items, v = .list items := by
  cases v with
  | null => exact .inr (.inl isWord_null)
  | bool b => exact .inr (.inl (isWord_bool b))
  | int n => exact .inl (isNumber_int n)
  | string s => exact .inr (.inr (.inl ⟨s, rfl⟩))
  | list items => exact .inr (.inr (.inr ⟨items, rfl⟩))
  | float x =>
    cases x with
    | nan => exact .inr (.inl isWord_nan)
    | infinity negative => exact .inr (.inl (isWord_infinity negative))
    | finite negative m => exact .inl (isNumber_finite negative m)

/-- A literal starts with a character that is no blank and closes no list. -/
theorem exists_cons_literalChars (v : Value) :
    ∃ c cs, v.literalChars = c :: cs ∧ Text.isBlank c = false ∧ c ≠ ']' := by
  rcases v.literal_cases with hnumber | hword | ⟨s, rfl⟩ | ⟨items, rfl⟩
  · obtain ⟨negative, c, cs, htext, hc⟩ := hnumber.head
    cases negative with
    | true => exact ⟨'-', c :: cs, htext, by decide, by decide⟩
    | false => exact ⟨c, cs, htext, isBlank_of_isDigit hc, isDigit_ne hc (by decide)⟩
  · obtain ⟨c, cs, htext, rfl | rfl | rfl⟩ := hword.head <;>
      exact ⟨_, cs, htext, by decide, by decide⟩
  · exact ⟨quote, _, rfl, by decide, by decide⟩
  · exact ⟨'[', _, rfl, by decide, by decide⟩

/-! ## One value -/

theorem readAt_number {v : Value} (h : IsNumber v) {rest : List Char} (hrest : Stops rest)
    (fuel : Nat) : readAt (fuel + 1) (v.literalChars ++ rest) = .ok (v, rest) := by
  obtain ⟨negative, d, ds, htext, hd⟩ := h.head
  have hsplit := h.scans rest hrest
  -- The first character, a minus sign or a digit, sends the reader to numbers.
  obtain ⟨c, cs, hcs, hc⟩ : ∃ c cs, v.literalChars = c :: cs ∧ (c = '-' ∨ c.isDigit = true) := by
    cases negative with
    | true => exact ⟨'-', d :: ds, htext, .inl rfl⟩
    | false => exact ⟨d, ds, htext, .inr hd⟩
  have hblank : Text.isBlank c = false := by
    rcases hc with rfl | hdigit
    · decide
    · exact isBlank_of_isDigit hdigit
  have hquote : c ≠ quote := by
    rcases hc with rfl | hdigit
    · decide
    · exact isDigit_ne hdigit (by decide)
  have hbracket : c ≠ '[' := by
    rcases hc with rfl | hdigit
    · decide
    · exact isDigit_ne hdigit (by decide)
  rw [hcs, List.cons_append] at hsplit ⊢
  unfold readAt
  rw [Text.trimStart_eq_self hblank]
  simp only [if_neg hquote, if_neg hbracket, if_pos hc, hsplit]
  rw [← hcs, h.reads]
  rfl

theorem readAt_word {v : Value} (h : IsWord v) (fuel : Nat) (rest : List Char) :
    readAt (fuel + 1) (v.literalChars ++ rest) = .ok (v, rest) := by
  obtain ⟨c, cs, htext, hc⟩ := h.head
  have hread := h.reads rest
  have hblank : Text.isBlank c = false := by
    rcases hc with rfl | rfl | rfl <;> decide
  have hquote : c ≠ quote := by
    rcases hc with rfl | rfl | rfl <;> decide
  have hbracket : c ≠ '[' := by
    rcases hc with rfl | rfl | rfl <;> decide
  have hnumber : ¬ (c = '-' ∨ c.isDigit = true) := by
    rcases hc with rfl | rfl | rfl <;> decide
  rw [htext, List.cons_append] at hread ⊢
  unfold readAt
  rw [Text.trimStart_eq_self hblank]
  simp only [if_neg hquote, if_neg hbracket, if_neg hnumber, hread]

theorem readAt_string (s : String) (fuel : Nat) (rest : List Char) :
    readAt (fuel + 1) ((Value.string s).literalChars ++ rest) = .ok (.string s, rest) := by
  have htext : (Value.string s).literalChars ++ rest =
      quote :: (escapedChars s.toList ++ quote :: rest) := by
    simp [literalChars]
  rw [htext]
  unfold readAt
  rw [Text.trimStart_eq_self (by decide)]
  simp only [if_true, readString?_escapedChars, String.ofList_toList]

theorem readAt_nil (fuel : Nat) (rest : List Char) :
    readAt (fuel + 1) ((Value.list []).literalChars ++ rest) = .ok (.list [], rest) :=
  rfl

theorem readAt_blank (fuel : Nat) (cs : List Char) : readAt fuel (' ' :: cs) = readAt fuel cs := by
  cases fuel with
  | zero => rfl
  | succ fuel =>
    have htrim : Text.trimStart (' ' :: cs) = Text.trimStart cs := List.dropWhile_cons_of_pos rfl
    unfold readAt
    rw [htrim]

theorem readItems_blank (fuel : Nat) (cs : List Char) :
    readItems fuel (' ' :: cs) = readItems fuel cs := by
  cases fuel with
  | zero => rfl
  | succ fuel =>
    unfold readItems
    rw [readAt_blank]

/-! ## Lists -/

/-- The text of the items of a list. -/
def itemsText (items : List Value) : List Char :=
  [',', ' '].intercalate (literalAll items)

theorem itemsText_singleton (item : Value) : itemsText [item] = item.literalChars := by
  simp [itemsText, literalAll]

theorem itemsText_cons_cons (item next : Value) (more : List Value) :
    itemsText (item :: next :: more) =
      item.literalChars ++ ',' :: ' ' :: itemsText (next :: more) := by
  simp [itemsText, literalAll, List.intercalate]

theorem length_literalChars_pos (v : Value) : 0 < v.literalChars.length := by
  obtain ⟨c, cs, hcs, -⟩ := v.exists_cons_literalChars
  rw [hcs]
  exact Nat.succ_pos _

theorem readItems_last {fuel : Nat} {item : Value} {rest : List Char}
    (h : readAt fuel (item.literalChars ++ ']' :: rest) = .ok (item, ']' :: rest)) :
    readItems (fuel + 1) (itemsText [item] ++ ']' :: rest) = .ok ([item], rest) := by
  unfold readItems
  rw [itemsText_singleton, h]
  rfl

theorem readItems_next {fuel : Nat} {item next : Value} {more : List Value} {text rest : List Char}
    (hitem : readAt fuel (item.literalChars ++ ',' :: ' ' :: text) = .ok (item, ',' :: ' ' :: text))
    (hmore : readItems fuel text = .ok (next :: more, rest)) :
    readItems (fuel + 1) (item.literalChars ++ ',' :: ' ' :: text) =
      .ok (item :: next :: more, rest) := by
  have htrim : Text.trimStart (',' :: ' ' :: text) = ',' :: ' ' :: text :=
    Text.trimStart_eq_self (by decide) _
  simp only [readItems, hitem, bind, Except.bind, htrim, readItems_blank, hmore]
  rfl

theorem exists_cons_itemsText (item : Value) (more : List Value) :
    ∃ c cs, itemsText (item :: more) = c :: cs ∧ Text.isBlank c = false ∧ c ≠ ']' := by
  obtain ⟨c, cs, hcs, hblank, hbracket⟩ := item.exists_cons_literalChars
  cases more with
  | nil => exact ⟨c, cs, by rw [itemsText_singleton, hcs], hblank, hbracket⟩
  | cons next more =>
    refine ⟨c, cs ++ ',' :: ' ' :: itemsText (next :: more), ?_, hblank, hbracket⟩
    rw [itemsText_cons_cons, hcs, List.cons_append]

theorem literalChars_list (items : List Value) :
    (Value.list items).literalChars = '[' :: (itemsText items ++ [']']) :=
  rfl

theorem readAt_list {fuel : Nat} {item : Value} {more : List Value} {rest : List Char}
    (h : readItems fuel (itemsText (item :: more) ++ ']' :: rest) = .ok (item :: more, rest)) :
    readAt (fuel + 1) ((Value.list (item :: more)).literalChars ++ rest) =
      .ok (.list (item :: more), rest) := by
  obtain ⟨c, cs, hcs, hblank, hbracket⟩ := exists_cons_itemsText item more
  have htrim : Text.trimStart (itemsText (item :: more) ++ ']' :: rest) =
      c :: (cs ++ ']' :: rest) := by
    rw [hcs, List.cons_append, Text.trimStart_eq_self hblank]
  rw [hcs, List.cons_append] at h
  rw [literalChars_list, List.cons_append, List.append_assoc, List.singleton_append]
  unfold readAt
  rw [Text.trimStart_eq_self (by decide)]
  simp only [htrim, if_neg (show '[' ≠ quote by decide), if_true]
  split
  · rename_i heq
    exact absurd (List.cons.inj heq).1 hbracket
  · rw [h]
    rfl

mutual

/-- A value is read from its literal, and the text behind it is left alone. -/
theorem readAt_literalChars (v : Value) {rest : List Char} (hrest : Stops rest) {fuel : Nat}
    (hfuel : v.literalChars.length ≤ fuel) :
    readAt fuel (v.literalChars ++ rest) = .ok (v, rest) := by
  have hpos := v.length_literalChars_pos
  obtain ⟨fuel, rfl⟩ : ∃ n, fuel = n + 1 := ⟨fuel - 1, by omega⟩
  match v with
  | .list [] => exact readAt_nil fuel rest
  | .list (item :: more) =>
    have hlength : (itemsText (item :: more)).length < fuel := by
      rw [literalChars_list, List.length_cons, List.length_append, List.length_singleton] at hfuel
      omega
    exact readAt_list (readItems_itemsText item more rest hlength)
  | .null => exact readAt_word isWord_null fuel rest
  | .bool b => exact readAt_word (isWord_bool b) fuel rest
  | .int n => exact readAt_number (isNumber_int n) hrest fuel
  | .string s => exact readAt_string s fuel rest
  | .float .nan => exact readAt_word isWord_nan fuel rest
  | .float (.infinity negative) => exact readAt_word (isWord_infinity negative) fuel rest
  | .float (.finite negative m) => exact readAt_number (isNumber_finite negative m) hrest fuel

/-- The items of a list are read from their literals up to the closing bracket. -/
theorem readItems_itemsText (item : Value) (more : List Value) (rest : List Char) {fuel : Nat}
    (hfuel : (itemsText (item :: more)).length < fuel) :
    readItems fuel (itemsText (item :: more) ++ ']' :: rest) = .ok (item :: more, rest) := by
  obtain ⟨fuel, rfl⟩ : ∃ n, fuel = n + 1 := ⟨fuel - 1, by omega⟩
  have hstop : ∀ (c : Char) (text : List Char), c = ',' ∨ c = ']' → Stops (c :: text) := by
    intro c text hc d hd
    obtain rfl : c = d := Option.some.inj hd
    rcases hc with rfl | rfl <;> decide
  match more with
  | [] =>
    rw [itemsText_singleton] at hfuel
    exact readItems_last (readAt_literalChars item (hstop ']' rest (.inr rfl)) (by omega))
  | next :: more =>
    have hlength : (itemsText (item :: next :: more)).length =
        item.literalChars.length + 2 + (itemsText (next :: more)).length := by
      rw [itemsText_cons_cons, List.length_append, List.length_cons, List.length_cons]
      omega
    rw [itemsText_cons_cons, List.append_assoc]
    exact readItems_next (readAt_literalChars item (hstop ',' _ (.inl rfl)) (by omega))
      (readItems_itemsText next more rest (by omega))

end

/-! ## Whole literals -/

mutual

/-- Is some float of the value, at any depth, not a number? -/
def hasNaN : Value → Bool
  | float x => x.isNaN
  | list items => anyNaN items
  | _ => false

/-- Is some float of the values not a number? -/
def anyNaN : List Value → Bool
  | [] => false
  | item :: items => item.hasNaN || anyNaN items

end

mutual

theorem equals_self (v : Value) : v.equals v = !v.hasNaN := by
  match v with
  | .null => rfl
  | .string s => exact beq_self_eq_true s
  | .bool b => exact beq_self_eq_true b
  | .int n => exact beq_self_eq_true n
  | .float .nan => rfl
  | .float (.infinity negative) => exact beq_self_eq_true negative
  | .float (.finite negative m) => simp [equals, hasNaN, Binary64.equals, Binary64.isNaN]
  | .list items => exact equalsAll_self items

theorem equalsAll_self (items : List Value) : equalsAll items items = !anyNaN items := by
  match items with
  | [] => rfl
  | item :: items =>
    show (item.equals item && equalsAll items items) = !(item.hasNaN || anyNaN items)
    rw [equals_self item, equalsAll_self items, Bool.not_or]

end

/-- Every literal is read as the value that it was written for, also in front of a text that does
not go on with a number; there the reader stops where that text begins. Read and written value are
equal as values just when no float in them is NaN, which differs from itself. -/
theorem readLiteral_literal (v : Value) :
    readLiteral v.literal = .ok v ∧ (v.equals v = true ↔ v.hasNaN = false) ∧
      ∀ rest, Stops rest → ∀ fuel, v.literalChars.length ≤ fuel →
        readAt fuel (v.literalChars ++ rest) = .ok (v, rest) := by
  refine ⟨?_, ?_, fun rest hrest fuel hfuel => v.readAt_literalChars hrest hfuel⟩
  · have hread : readAt (2 * v.literalChars.length + 2) (v.literalChars ++ []) = .ok (v, []) :=
      v.readAt_literalChars (by simp [Stops]) (by omega)
    rw [List.append_nil] at hread
    unfold readLiteral literal
    simp only [String.toList_ofList, hread]
    rfl
  · rw [equals_self, Bool.not_eq_true']

/-- A string that holds a quote, a comma and a backslash, an empty list, a float that is not a
number and a negative number. -/
def nested : Value :=
  .list [.string "it's ', \\", .list [], .float .nan, .int (-3)]

example : nested.literal = "['it\\'s \\', \\\\', [], toFloat('NaN'), -3]" := by decide

theorem readLiteral_literal_nested :
    readLiteral nested.literal = .ok nested ∧
      (nested.equals nested = true ↔ nested.hasNaN = false) ∧
      Stops ['-', '1', ']'] ∧ nested.literalChars.length ≤ 64 ∧
      readAt 64 (nested.literalChars ++ ['-', '1', ']']) = .ok (nested, ['-', '1', ']']) := by
  have hstops : Stops ['-', '1', ']'] := by
    intro c hc
    obtain rfl : '-' = c := Option.some.inj hc
    decide
  have hlength : nested.literalChars.length ≤ 64 := by decide
  obtain ⟨hread, hequals, hbehind⟩ := readLiteral_literal nested
  exact ⟨hread, hequals, hstops, hlength, hbehind _ hstops 64 hlength⟩

end Value

end AnnotationQuery
