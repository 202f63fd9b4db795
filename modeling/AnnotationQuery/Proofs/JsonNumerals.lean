import Mathlib.Tactic.Common
import AnnotationQuery.Json.Numeral
import AnnotationQuery.Proofs.LiteralRoundTrip

/-!
# Numbers in JSON texts

The grammar of JSON allows no zero in front of other digits and asks for a digit on both sides of a
point. `Numeral.Proper` are the numbers that keep to it, and `Numeral.text` is how they are written.
Whole numbers and floats are written as proper numbers, so that a number is split off its text
again and the text behind it is left alone.

* `Numeral.split?_text`: a proper number is split off.
* `Numeral.proper_ofInt`, `Numeral.exists_text_finiteText`: what is written is proper.
* `Numeral.int64?_ofInt`: a 64-bit integer reads back.
-/

namespace AnnotationQuery

/-- A positive number starts with a digit other than zero. -/
theorem exists_cons_toDigits {n : Nat} (hn : n ≠ 0) :
    ∃ c cs, Nat.toDigits 10 n = c :: cs ∧ c ≠ '0' := by
  induction n using Nat.strongRecOn with
  | ind n ih =>
    by_cases hlt : n < 10
    · refine ⟨n.digitChar, [], Nat.toDigits_of_lt_base hlt, ?_⟩
      rwa [Ne, Nat.digitChar_eq_zero]
    · obtain ⟨c, cs, hcs, hc⟩ := ih (n / 10) (by omega) (by omega)
      refine ⟨c, cs ++ [(n % 10).digitChar], ?_, hc⟩
      rw [Nat.toDigits_of_base_le (by decide) (Nat.not_lt.mp hlt), hcs, List.cons_append]

namespace Numeral

/-! ## The text of a number -/

/-- The point and the digits behind it, if there are any. -/
def fractionText (n : Numeral) : List Char :=
  if n.fraction = [] then [] else '.' :: n.fraction

/-- The exponent, with its sign also when it is positive. -/
def exponentText (n : Numeral) : List Char :=
  match n.exponent with
  | some e => 'e' :: (if e < 0 then '-' else '+') :: Nat.toDigits 10 e.natAbs
  | none => []

def text (n : Numeral) : List Char :=
  signText n.negative ++ (n.whole ++ (n.fractionText ++ n.exponentText))

/-- The digits are as the grammar wants them. -/
structure Proper (n : Numeral) : Prop where
  whole_ne_nil : n.whole ≠ []
  whole_digits : AllDigits n.whole
  /-- A zero in front stands alone. -/
  whole_zero : n.whole.head? = some '0' → n.whole = ['0']
  fraction_digits : AllDigits n.fraction

/-! ## Splitting the parts off -/

theorem splitWhole?_append {ds : List Char} (hne : ds ≠ []) (hds : AllDigits ds)
    (hzero : ds.head? = some '0' → ds = ['0']) {rest : List Char}
    (hrest : ∀ c ∈ rest.head?, c.isDigit = false) :
    splitWhole? (ds ++ rest) = some (ds, rest) := by
  obtain ⟨htake, hdrop⟩ := takeWhile_append_of_all hds rest hrest
  unfold splitWhole?
  rw [htake, hdrop]
  obtain ⟨c, cs, rfl⟩ := List.exists_cons_of_ne_nil hne
  by_cases hc : c = '0'
  · subst hc
    obtain rfl : cs = [] := (List.cons.inj (hzero rfl)).2
    rfl
  · split
    · contradiction
    · rename_i heq
      exact absurd (List.cons.inj heq).1 hc
    · rename_i heq
      exact absurd (List.cons.inj heq).1 hc
    · rfl

theorem splitFraction?_none {rest : List Char} (hrest : ∀ c ∈ rest.head?, c ≠ '.') :
    splitFraction? rest = some ([], rest) := by
  unfold splitFraction?
  split
  · exact absurd rfl (hrest '.' rfl)
  · rfl

theorem splitFraction?_point {ds : List Char} (hne : ds ≠ []) (hds : AllDigits ds)
    {rest : List Char} (hrest : ∀ c ∈ rest.head?, c.isDigit = false) :
    splitFraction? ('.' :: (ds ++ rest)) = some (ds, rest) := by
  obtain ⟨htake, hdrop⟩ := takeWhile_append_of_all hds rest hrest
  unfold splitFraction?
  simp only [htake, hdrop]

theorem splitExponent?_none {rest : List Char} (hrest : Literal.Stops rest) :
    splitExponent? rest = some (none, rest) := by
  cases rest with
  | nil => rfl
  | cons c cs =>
    obtain ⟨-, -, hlower, hupper⟩ := hrest c rfl
    exact if_neg (by simp [hlower, hupper])

theorem splitExponent?_signed (e : Int) {rest : List Char}
    (hrest : ∀ c ∈ rest.head?, c.isDigit = false) :
    splitExponent? ('e' :: (if e < 0 then '-' else '+') :: (Nat.toDigits 10 e.natAbs ++ rest)) =
      some (some e, rest) := by
  obtain ⟨htake, hdrop⟩ := takeWhile_append_of_all (allDigits_toDigits e.natAbs) rest hrest
  have hsign : ∀ cs, splitSign ((if e < 0 then '-' else '+') :: cs) = (decide (e < 0), cs) := by
    intro cs
    by_cases hneg : e < 0
    · simp [hneg, splitSign]
    · simp [hneg, splitSign]
  have hvalue : (if e < 0 then -(e.natAbs : Int) else e.natAbs) = e := by split <;> omega
  simp only [splitExponent?, true_or, if_true, hsign, htake, hdrop]
  split
  · rename_i heq
    exact absurd heq Nat.toDigits_ne_nil
  · simp only [digitsValue_toDigits, decide_eq_true_eq, hvalue]

/-! ## Splitting a number off -/

theorem isDigit_head?_exponentText (n : Numeral) {rest : List Char} (hrest : Literal.Stops rest) :
    ∀ c ∈ (n.exponentText ++ rest).head?, c.isDigit = false ∧ c ≠ '.' := by
  intro c hc
  unfold exponentText at hc
  cases hexponent : n.exponent with
  | none =>
    rw [hexponent] at hc
    exact ⟨(hrest c hc).1, (hrest c hc).2.1⟩
  | some e =>
    rw [hexponent] at hc
    obtain rfl : 'e' = c := Option.some.inj hc
    decide

theorem isDigit_head?_fractionText (n : Numeral) {rest : List Char}
    (hrest : Literal.Stops rest) :
    ∀ c ∈ (n.fractionText ++ (n.exponentText ++ rest)).head?, c.isDigit = false := by
  intro c hc
  unfold fractionText at hc
  by_cases hfraction : n.fraction = []
  · rw [if_pos hfraction] at hc
    exact (n.isDigit_head?_exponentText hrest c hc).1
  · rw [if_neg hfraction] at hc
    obtain rfl : '.' = c := Option.some.inj hc
    rfl

theorem splitFraction?_fractionText {n : Numeral} (h : n.Proper) {rest : List Char}
    (hrest : Literal.Stops rest) :
    splitFraction? (n.fractionText ++ (n.exponentText ++ rest)) =
      some (n.fraction, n.exponentText ++ rest) := by
  have hexponent := n.isDigit_head?_exponentText hrest
  unfold fractionText
  by_cases hfraction : n.fraction = []
  · rw [if_pos hfraction, hfraction]
    exact splitFraction?_none fun c hc => (hexponent c hc).2
  · rw [if_neg hfraction]
    exact splitFraction?_point hfraction h.fraction_digits fun c hc => (hexponent c hc).1

theorem splitExponent?_exponentText (n : Numeral) {rest : List Char} (hrest : Literal.Stops rest) :
    splitExponent? (n.exponentText ++ rest) = some (n.exponent, rest) := by
  unfold exponentText
  cases n.exponent with
  | none => exact splitExponent?_none hrest
  | some e => exact splitExponent?_signed e fun c hc => (hrest c hc).1

theorem split?_signText (negative : Bool) {c : Char} (hc : c.isDigit = true) (cs : List Char) :
    split? (signText negative ++ c :: cs) =
      (splitWhole? (c :: cs)).bind fun whole => (splitFraction? whole.2).bind fun fraction =>
        (splitExponent? fraction.2).bind fun exponent =>
          some (⟨negative, whole.1, fraction.1, exponent.1⟩, exponent.2) := by
  cases negative with
  | true => rfl
  | false =>
    have hminus : c ≠ '-' := isDigit_ne hc rfl
    show split? (c :: cs) = _
    unfold split?
    split
    rename_i heq
    split at heq
    · rename_i htext
      exact absurd (List.cons.inj htext).1 hminus
    · obtain ⟨rfl, rfl⟩ := Prod.mk.inj heq
      rfl

/-- A proper number is split off its text, whatever follows that does not go on with a number. -/
theorem split?_text {n : Numeral} (h : n.Proper) {rest : List Char} (hrest : Literal.Stops rest) :
    split? (n.text ++ rest) = some (n, rest) := by
  obtain ⟨c, cs, hcs⟩ := List.exists_cons_of_ne_nil h.whole_ne_nil
  have hc : c.isDigit = true := h.whole_digits c (by rw [hcs]; exact List.mem_cons_self)
  have hwhole := splitWhole?_append h.whole_ne_nil h.whole_digits h.whole_zero
    (n.isDigit_head?_fractionText hrest)
  have htext : n.text ++ rest =
      signText n.negative ++ (n.whole ++ (n.fractionText ++ (n.exponentText ++ rest))) := by
    simp [text, List.append_assoc]
  rw [htext]
  rw [hcs, List.cons_append] at hwhole ⊢
  rw [split?_signText n.negative hc, hwhole, Option.bind_some, splitFraction?_fractionText h hrest,
    Option.bind_some, n.splitExponent?_exponentText hrest, Option.bind_some, ← hcs]

theorem exists_cons_text {n : Numeral} (h : n.Proper) :
    ∃ c cs, n.text = c :: cs ∧ (c = '-' ∨ c.isDigit = true) := by
  obtain ⟨c, cs, hcs⟩ := List.exists_cons_of_ne_nil h.whole_ne_nil
  unfold text
  cases n.negative with
  | true => exact ⟨'-', _, rfl, .inl rfl⟩
  | false =>
    refine ⟨c, cs ++ (n.fractionText ++ n.exponentText), ?_, .inr (h.whole_digits c ?_)⟩
    · rw [hcs]
      rfl
    · rw [hcs]
      exact List.mem_cons_self

/-! ## Whole numbers -/

/-- The digits of a whole number. -/
def ofInt (i : Int) : Numeral :=
  ⟨i < 0, Nat.toDigits 10 i.natAbs, [], none⟩

theorem text_ofInt (i : Int) : (ofInt i).text = wholeText i := by
  simp [text, ofInt, fractionText, exponentText, wholeText]

theorem proper_ofInt (i : Int) : (ofInt i).Proper where
  whole_ne_nil := Nat.toDigits_ne_nil
  whole_digits := allDigits_toDigits i.natAbs
  whole_zero := by
    intro hhead
    by_cases hzero : i.natAbs = 0
    · show Nat.toDigits 10 i.natAbs = ['0']
      rw [hzero]
      rfl
    · obtain ⟨c, cs, hcs, hc⟩ := exists_cons_toDigits hzero
      have hhead : (Nat.toDigits 10 i.natAbs).head? = some '0' := hhead
      rw [hcs] at hhead
      exact absurd (Option.some.inj hhead) hc
  fraction_digits := by simp [ofInt, AllDigits]

theorem int?_ofInt (i : Int) : (ofInt i).int? = some i := by
  unfold int? ofInt
  simp only [digitsValue_toDigits, and_self, if_true, decide_eq_true_eq]
  by_cases hneg : i < 0
  · have hne : i.natAbs ≠ 0 := by omega
    have hvalue : -(i.natAbs : Int) = i := by omega
    rw [if_pos hneg, if_neg hne, hvalue]
  · have hvalue : (i.natAbs : Int) = i := by omega
    rw [if_neg hneg, hvalue]

/-- A 64-bit integer reads back from its digits. -/
theorem int64?_ofInt (n : Int64) : (ofInt n.toInt).int64? = some n := by
  have hrange : Int64.minValue.toInt ≤ n.toInt ∧ n.toInt ≤ Int64.maxValue.toInt :=
    ⟨Int64.minValue_le_toInt n, Int64.toInt_le n⟩
  unfold int64?
  rw [int?_ofInt, Option.bind_some]
  unfold AnnotationQuery.int64?
  rw [if_pos hrange, Int64.ofInt_toInt]

/-! ## Floats -/

/-- Digits that start with a digit other than zero are written positionally as a proper number. -/
theorem exists_text_positional (negative : Bool) {c : Char} {cs : List Char}
    (hds : AllDigits (c :: cs)) (hc : c ≠ '0') (e : Int) :
    ∃ n : Numeral, n.Proper ∧
      n.text = signText negative ++ Style.positionalText true (c :: cs) e := by
  have hlead : ∀ ds : List Char, (c :: ds).head? = some '0' → c :: ds = ['0'] :=
    fun ds hhead => absurd (Option.some.inj hhead) hc
  unfold Style.positionalText
  by_cases hnonneg : 0 ≤ e
  · refine ⟨⟨negative, c :: cs ++ List.replicate e.toNat '0', ['0'], none⟩,
      ⟨by simp, hds.append (allDigits_zeros _), hlead _, allDigits_zeros 1⟩, ?_⟩
    simp [text, fractionText, exponentText, hnonneg]
  · obtain ⟨places, hplaces, hpos⟩ : ∃ k, (-e).toNat = k ∧ 0 < k := ⟨_, rfl, by omega⟩
    rw [if_neg hnonneg, hplaces]
    by_cases hlt : places < (c :: cs).length
    · obtain ⟨k, hk⟩ : ∃ k, (c :: cs).length - places = k + 1 := ⟨cs.length - places, by
        rw [List.length_cons] at hlt ⊢
        omega⟩
      have hfraction : (c :: cs).drop (k + 1) ≠ [] := by
        rw [List.length_cons] at hk
        simp only [List.drop_succ_cons, ne_eq, List.drop_eq_nil_iff]
        omega
      refine ⟨⟨negative, (c :: cs).take (k + 1), (c :: cs).drop (k + 1), none⟩,
        ⟨by simp, fun d hd => hds d (List.mem_of_mem_take hd), hlead _,
          fun d hd => hds d (List.mem_of_mem_drop hd)⟩, ?_⟩
      simp only [text, fractionText, exponentText, if_neg hfraction, if_pos hlt, hk,
        List.append_nil]
    · refine ⟨⟨negative, ['0'],
          List.replicate (places - (c :: cs).length) '0' ++ c :: cs, none⟩,
        ⟨by simp, allDigits_zeros 1, fun _ => rfl, (allDigits_zeros _).append hds⟩, ?_⟩
      rw [if_neg hlt]
      simp [text, fractionText, exponentText]

/-- With an exponent as well. -/
theorem exists_text_exponent (negative : Bool) {c : Char} {cs : List Char}
    (hds : AllDigits (c :: cs)) (hc : c ≠ '0') (lead : Int) :
    ∃ n : Numeral, n.Proper ∧
      n.text = signText negative ++ Style.exponentText true (c :: cs) lead := by
  refine ⟨⟨negative, [c], cs, some lead⟩, ⟨by simp, ?_, ?_, ?_⟩, ?_⟩
  · exact fun d hd => hds d (by simp [List.mem_singleton.mp hd])
  · exact fun hhead => absurd (Option.some.inj hhead) hc
  · exact fun d hd => hds d (List.mem_cons_of_mem c hd)
  · have hsign : (if lead < 0 then ['-'] else ['+']) = [if lead < 0 then '-' else '+'] := by
      split <;> rfl
    cases cs with
    | nil => simp [text, fractionText, exponentText, Style.exponentText, hsign]
    | cons d ds => simp [text, fractionText, exponentText, Style.exponentText, hsign]

/-- Every finite float is written as a proper number. -/
theorem exists_text_finiteText (negative : Bool) (m : Magnitude) :
    ∃ n : Numeral, n.Proper ∧ n.text = Style.json.finiteText negative m := by
  have hfinite : Style.json.finiteText negative m =
      signText negative ++ Style.json.magnitudeText m := by
    cases negative <;> rfl
  rw [hfinite]
  by_cases hzero : m.isZero = true
  · refine ⟨⟨negative, ['0'], ['0'], none⟩, ⟨by simp, allDigits_zeros 1, fun _ => rfl,
      allDigits_zeros 1⟩, ?_⟩
    have htext : Style.json.magnitudeText m = ['0', '.', '0'] := if_pos hzero
    rw [htext]
    rfl
  · have hdigits : (m.shortest Style.json.tie).digits ≠ 0 := by
      intro hnone
      have hback := m.magnitude?_shortest Style.json.tie
      rw [Decimal.magnitude?_of_zero hnone] at hback
      exact hzero (by rw [← Option.some.inj hback]; rfl)
    obtain ⟨c, cs, hcs, hc⟩ := exists_cons_toDigits hdigits
    have hds : AllDigits (c :: cs) := by
      rw [← hcs]
      exact allDigits_toDigits _
    rw [Style.magnitudeText_of_ne_zero Style.json hzero, hcs]
    split
    · exact exists_text_positional negative hds hc _
    · exact exists_text_exponent negative hds hc _

/-- The number that a float is written as. -/
def ofFinite (negative : Bool) (m : Magnitude) : Numeral :=
  ((split? (Style.json.finiteText negative m)).map Prod.fst).getD (ofInt 0)

theorem ofFinite_eq {negative : Bool} {m : Magnitude} {n : Numeral} (h : n.Proper)
    (htext : n.text = Style.json.finiteText negative m) : ofFinite negative m = n := by
  have hsplit : split? (n.text ++ []) = some (n, []) := split?_text h (by simp [Literal.Stops])
  rw [List.append_nil, htext] at hsplit
  simp [ofFinite, hsplit]

end Numeral

end AnnotationQuery
