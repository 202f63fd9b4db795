import AnnotationQuery.Number.Style
import AnnotationQuery.Number.Reader
import AnnotationQuery.Proofs.Rounding

/-!
# Numbers written and read

A written number is a sign and a `NumberForm`: digits, digits behind a point and an exponent, the
last two optional. Whole numbers are forms without the two, and the floats in statements are forms
with one of them. The readers give back what a form stands for.

* `NumberForm.read?_text`: a form reads as the decimal number that it stands for.
* `Style.exists_form`: a float is written as a form that reads back as it.
* `Binary64.read?_form`, `readInt64?_wholeText`: every form reads as the double that it stands for,
  and every 64-bit integer reads back.
-/

namespace AnnotationQuery

/-! ## Digits -/

/-- Only ASCII digits. -/
def AllDigits (cs : List Char) : Prop :=
  ∀ c ∈ cs, c.isDigit = true

theorem AllDigits.append {cs ds : List Char} (hcs : AllDigits cs) (hds : AllDigits ds) :
    AllDigits (cs ++ ds) := by
  intro c hc
  rcases List.mem_append.mp hc with h | h
  · exact hcs c h
  · exact hds c h

theorem allDigits_zeros (n : Nat) : AllDigits (List.replicate n '0') := by
  intro c hc
  rw [(List.mem_replicate.mp hc).2]
  rfl

theorem allDigits_toDigits (n : Nat) : AllDigits (Nat.toDigits 10 n) :=
  fun _ hc => Nat.isDigit_of_mem_toDigits (by decide) (by decide) hc

theorem takeWhile_append_of_all {ds : List Char} (hds : AllDigits ds) (rest : List Char)
    (hrest : ∀ c ∈ rest.head?, c.isDigit = false) :
    (ds ++ rest).takeWhile Char.isDigit = ds ∧ (ds ++ rest).dropWhile Char.isDigit = rest := by
  rw [List.takeWhile_append_of_pos hds, List.dropWhile_append_of_pos hds]
  cases rest with
  | nil => simp
  | cons c cs => simp [hrest c rfl]

theorem digitsValue_eq (ds : List Char) : digitsValue ds = Nat.ofDigitChars 10 ds 0 := by
  have hstep : (fun (n : Nat) (c : Char) => n * 10 + (c.toNat - '0'.toNat)) =
      fun n c => 10 * n + (c.toNat - '0'.toNat) := by
    funext n c
    rw [Nat.mul_comm]
  unfold digitsValue
  rw [hstep, Nat.ofDigitChars_eq_foldl]

theorem digitsValue_append (cs ds : List Char) :
    digitsValue (cs ++ ds) = Nat.ofDigitChars 10 ds (digitsValue cs) := by
  rw [digitsValue_eq, digitsValue_eq, Nat.ofDigitChars_append]

theorem digitsValue_toDigits (n : Nat) : digitsValue (Nat.toDigits 10 n) = n := by
  rw [digitsValue_eq, Nat.ofDigitChars_ten_toDigits]

theorem digitsValue_append_zeros (ds : List Char) (zeros : Nat) :
    digitsValue (ds ++ List.replicate zeros '0') = digitsValue ds * Nat.pow 10 zeros := by
  rw [digitsValue_append, Nat.ofDigitChars_replicate_zero, Nat.mul_comm]
  rfl

theorem digitsValue_zeros_append (zeros : Nat) (ds : List Char) :
    digitsValue (List.replicate zeros '0' ++ ds) = digitsValue ds := by
  have hzeros : digitsValue (List.replicate zeros '0') = 0 := by
    rw [digitsValue_eq, Nat.ofDigitChars_replicate_zero, Nat.mul_zero]
  rw [digitsValue_append, hzeros, digitsValue_eq]

theorem readDigits?_toDigits (n : Nat) : readDigits? (Nat.toDigits 10 n) = some n := by
  have hdigits : (Nat.toDigits 10 n).all Char.isDigit = true :=
    List.all_eq_true.mpr (allDigits_toDigits n)
  unfold readDigits?
  rw [if_pos ⟨Nat.toDigits_ne_nil, hdigits⟩, digitsValue_toDigits]

/-! ## Whole numbers -/

/-- The sign in front of a number. -/
def signText (negative : Bool) : List Char :=
  if negative then ['-'] else []

/-- The text of a whole number. -/
def wholeText (n : Int) : List Char :=
  signText (n < 0) ++ Nat.toDigits 10 n.natAbs

theorem toList_toString (n : Int) : (toString n).toList = wholeText n := by
  rw [Int.toString_eq_repr, Int.repr_eq_if]
  unfold wholeText signText
  by_cases hneg : n < 0
  · have habs : (-n).toNat = n.natAbs := by omega
    rw [if_neg (Int.not_le.mpr hneg), habs, decide_eq_true hneg, Nat.repr_eq_ofList_toDigits]
    simp
  · have habs : n.toNat = n.natAbs := by omega
    rw [if_pos (Int.not_lt.mp hneg), habs, decide_eq_false hneg, Nat.repr_eq_ofList_toDigits]
    simp

/-- A sign is split off a text that starts with a digit. -/
theorem splitSign_signText (negative : Bool) {c : Char} (hc : c.isDigit = true) (cs : List Char) :
    splitSign (signText negative ++ c :: cs) = (negative, c :: cs) := by
  cases negative with
  | true => rfl
  | false =>
    have hminus : c ≠ '-' := by
      rintro rfl
      exact absurd hc (by decide)
    have hplus : c ≠ '+' := by
      rintro rfl
      exact absurd hc (by decide)
    show splitSign (c :: cs) = (false, c :: cs)
    unfold splitSign
    split <;> simp_all

theorem readInt?_wholeText (n : Int) : readInt? (wholeText n) = some n := by
  obtain ⟨c, cs, hcs⟩ := List.exists_cons_of_ne_nil (Nat.toDigits_ne_nil (b := 10) (n := n.natAbs))
  have hc : c.isDigit = true :=
    allDigits_toDigits n.natAbs c (by rw [hcs]; exact List.mem_cons_self)
  have hsplit : splitSign (wholeText n) = (decide (n < 0), Nat.toDigits 10 n.natAbs) := by
    unfold wholeText
    rw [hcs]
    exact splitSign_signText _ hc cs
  unfold readInt?
  rw [hsplit, readDigits?_toDigits]
  show some (if decide (n < 0) = true then -(n.natAbs : Int) else (n.natAbs : Int)) = some n
  by_cases hneg : n < 0
  · have habs : -(n.natAbs : Int) = n := by omega
    rw [decide_eq_true hneg, if_pos rfl, habs]
  · have habs : (n.natAbs : Int) = n := by omega
    rw [decide_eq_false hneg, if_neg Bool.false_ne_true, habs]

theorem readInt64?_wholeText (n : Int64) : readInt64? (wholeText n.toInt) = some n := by
  have hrange : Int64.minValue.toInt ≤ n.toInt ∧ n.toInt ≤ Int64.maxValue.toInt :=
    ⟨Int64.minValue_le_toInt n, Int64.toInt_le n⟩
  unfold readInt64?
  rw [readInt?_wholeText]
  show int64? n.toInt = some n
  unfold int64?
  rw [if_pos hrange, Int64.ofInt_toInt]

/-! ## Unsigned numbers -/

namespace Decimal

theorem read?_whole {whole tail : List Char} (hwhole : AllDigits whole) (hne : whole ≠ [])
    (htail : ∀ c ∈ tail.head?, c = 'e') :
    read? (whole ++ tail) = (readExponent? tail).map fun e => ⟨digitsValue whole, e⟩ := by
  have hsplit := takeWhile_append_of_all hwhole tail (by
    intro c hc
    rw [htail c hc]
    rfl)
  unfold read?
  rw [hsplit.1, hsplit.2]
  cases tail with
  | nil => simp [hne]
  | cons c cs =>
    obtain rfl : c = 'e' := htail c rfl
    simp [hne]

theorem read?_fraction {whole fraction tail : List Char} (hwhole : AllDigits whole)
    (hne : whole ≠ []) (hfraction : AllDigits fraction) (htail : ∀ c ∈ tail.head?, c = 'e') :
    read? (whole ++ '.' :: (fraction ++ tail)) =
      (readExponent? tail).map fun e =>
        ⟨digitsValue (whole ++ fraction), e - fraction.length⟩ := by
  have hpoint := takeWhile_append_of_all hwhole ('.' :: (fraction ++ tail)) (by
    intro c hc
    obtain rfl : '.' = c := Option.some.inj hc
    rfl)
  have hsplit := takeWhile_append_of_all hfraction tail (by
    intro c hc
    rw [htail c hc]
    rfl)
  unfold read?
  rw [hpoint.1, hpoint.2]
  simp [hne, hsplit]

end Decimal

/-! ## Forms -/

/-- A number without its sign, as it is written. -/
structure NumberForm where
  whole : List Char
  fraction? : Option (List Char)
  exponent? : Option Int
  whole_ne_nil : whole ≠ []
  whole_digits : AllDigits whole
  fraction_digits : ∀ ds ∈ fraction?, AllDigits ds

namespace NumberForm

/-- The point and the digits behind it. -/
def fractionText (f : NumberForm) : List Char :=
  match f.fraction? with
  | some ds => '.' :: ds
  | none => []

/-- The exponent letter and the exponent. -/
def exponentText (f : NumberForm) : List Char :=
  match f.exponent? with
  | some e => 'e' :: wholeText e
  | none => []

def text (f : NumberForm) : List Char :=
  f.whole ++ (f.fractionText ++ f.exponentText)

/-- The digits behind the point. -/
def fraction (f : NumberForm) : List Char :=
  f.fraction?.getD []

/-- The decimal number that a form stands for. -/
def value (f : NumberForm) : Decimal :=
  ⟨digitsValue (f.whole ++ f.fraction), f.exponent?.getD 0 - f.fraction.length⟩

theorem readExponent?_exponentText (f : NumberForm) :
    readExponent? f.exponentText = some (f.exponent?.getD 0) := by
  unfold exponentText
  cases f.exponent? with
  | none => rfl
  | some e => exact readInt?_wholeText e

theorem head?_exponentText (f : NumberForm) : ∀ c ∈ f.exponentText.head?, c = 'e' := by
  unfold exponentText
  cases f.exponent? with
  | none => simp
  | some e => simp

theorem read?_text (f : NumberForm) : Decimal.read? f.text = some f.value := by
  have hread := f.readExponent?_exponentText
  have htail := f.head?_exponentText
  unfold text value fraction fractionText
  cases hfraction : f.fraction? with
  | some ds =>
    have hds : AllDigits ds := f.fraction_digits ds hfraction
    show Decimal.read? (f.whole ++ ('.' :: ds ++ f.exponentText)) = _
    rw [List.cons_append, Decimal.read?_fraction f.whole_digits f.whole_ne_nil hds htail, hread]
    rfl
  | none =>
    show Decimal.read? (f.whole ++ f.exponentText) = _
    rw [Decimal.read?_whole f.whole_digits f.whole_ne_nil htail, hread]
    simp

/-! ## What a form starts with and holds -/

theorem exists_cons_text (f : NumberForm) :
    ∃ c cs, f.text = c :: cs ∧ c.isDigit = true := by
  obtain ⟨c, cs, hcs⟩ := List.exists_cons_of_ne_nil f.whole_ne_nil
  refine ⟨c, cs ++ (f.fractionText ++ f.exponentText), ?_, f.whole_digits c ?_⟩
  · unfold text
    rw [hcs, List.cons_append]
  · rw [hcs]
    exact List.mem_cons_self

/-- The form of digits alone. -/
def ofDigits (n : Nat) : NumberForm where
  whole := Nat.toDigits 10 n
  fraction? := none
  exponent? := none
  whole_ne_nil := Nat.toDigits_ne_nil
  whole_digits := allDigits_toDigits n
  fraction_digits := by simp

/-- The form of digits on both sides of a point. -/
def ofParts (whole fraction : List Char) (hne : whole ≠ []) (hwhole : AllDigits whole)
    (hfraction : AllDigits fraction) : NumberForm where
  whole := whole
  fraction? := some fraction
  exponent? := none
  whole_ne_nil := hne
  whole_digits := hwhole
  fraction_digits := by
    intro ds hds
    obtain rfl : fraction = ds := Option.some.inj hds
    exact hfraction

theorem text_ofParts {whole fraction : List Char} (hne : whole ≠ []) (hwhole : AllDigits whole)
    (hfraction : AllDigits fraction) :
    (ofParts whole fraction hne hwhole hfraction).text = whole ++ '.' :: fraction := by
  simp [text, ofParts, fractionText, exponentText]

theorem value_ofParts {whole fraction : List Char} (hne : whole ≠ []) (hwhole : AllDigits whole)
    (hfraction : AllDigits fraction) :
    (ofParts whole fraction hne hwhole hfraction).value =
      ⟨digitsValue (whole ++ fraction), 0 - fraction.length⟩ :=
  rfl

end NumberForm

/-! ## Floats -/

namespace Style

/-- The positional text of a decimal number is a form for it, with zeros behind its digits when it
has no fraction. -/
theorem exists_form_positional (n : Nat) (e : Int) :
    ∃ f : NumberForm, f.text = positionalText true (Nat.toDigits 10 n) e ∧
      f.fraction?.isSome ∧ ∃ zeros, f.value = Decimal.padded ⟨n, e⟩ zeros := by
  have hdigits : AllDigits (Nat.toDigits 10 n) := allDigits_toDigits n
  have hne : Nat.toDigits 10 n ≠ [] := Nat.toDigits_ne_nil
  have hvalue : digitsValue (Nat.toDigits 10 n) = n := digitsValue_toDigits n
  generalize Nat.toDigits 10 n = ds at hdigits hne hvalue ⊢
  unfold positionalText
  by_cases hnonneg : 0 ≤ e
  · obtain ⟨k, rfl⟩ := Int.eq_ofNat_of_zero_le hnonneg
    have hzeros : digitsValue (ds ++ List.replicate k '0' ++ ['0']) = n * Nat.pow 10 (k + 1) := by
      rw [List.append_assoc, ← List.replicate_succ', digitsValue_append_zeros, hvalue]
    refine ⟨.ofParts (ds ++ List.replicate k '0') ['0'] (by simp [hne])
      (hdigits.append (allDigits_zeros k)) (allDigits_zeros 1), ?_, rfl, k + 1, ?_⟩
    · rw [NumberForm.text_ofParts, if_pos hnonneg]
      rfl
    · show Decimal.mk (digitsValue (ds ++ List.replicate k '0' ++ ['0'])) (0 - 1) = _
      have hexponent : (0 : Int) - 1 = k - (k + 1 : Nat) := by omega
      rw [hzeros, hexponent]
      rfl
  · obtain ⟨k, rfl⟩ : ∃ k : Nat, e = -(k : Int) := ⟨(-e).toNat, by omega⟩
    have hexponent : Decimal.padded ⟨n, -k⟩ 0 = ⟨n, 0 - k⟩ := by
      simp [Decimal.padded]
    rw [if_neg hnonneg, Int.neg_neg, Int.toNat_natCast]
    by_cases hplaces : k < ds.length
    · have hwhole : AllDigits (ds.take (ds.length - k)) :=
        fun c hc => hdigits c (List.mem_of_mem_take hc)
      have hfraction : AllDigits (ds.drop (ds.length - k)) :=
        fun c hc => hdigits c (List.mem_of_mem_drop hc)
      have hlength : (ds.drop (ds.length - k)).length = k := by
        rw [List.length_drop]
        omega
      have hwholeNe : ds.take (ds.length - k) ≠ [] :=
        List.ne_nil_of_length_pos (by rw [List.length_take]; omega)
      refine ⟨.ofParts _ _ hwholeNe hwhole hfraction, ?_, rfl, 0, ?_⟩
      · rw [NumberForm.text_ofParts, if_pos hplaces]
      · rw [NumberForm.value_ofParts, List.take_append_drop, hvalue, hlength, hexponent]
    · have hfraction : AllDigits (List.replicate (k - ds.length) '0' ++ ds) :=
        (allDigits_zeros _).append hdigits
      refine ⟨.ofParts ['0'] _ (by simp) (allDigits_zeros 1) hfraction, ?_, rfl, 0, ?_⟩
      · rw [NumberForm.text_ofParts, if_neg hplaces]
        rfl
      · have hlength : (List.replicate (k - ds.length) '0' ++ ds).length = k := by
          rw [List.length_append, List.length_replicate]
          omega
        have hzeros : digitsValue (['0'] ++ (List.replicate (k - ds.length) '0' ++ ds)) = n := by
          rw [← List.replicate_one, digitsValue_zeros_append, digitsValue_zeros_append, hvalue]
        rw [NumberForm.value_ofParts, hzeros, hlength, hexponent]

theorem exponentText_cons (c : Char) (cs : List Char) (lead : Int) :
    exponentText false (c :: cs) lead =
      [c] ++ ((if cs = [] then [] else '.' :: cs) ++ 'e' :: wholeText lead) := by
  unfold exponentText wholeText signText
  cases cs with
  | nil => simp
  | cons d ds => simp

/-- The text of a decimal number with an exponent is a form for it. -/
theorem exists_form_exponent (n : Nat) (e : Int) :
    ∃ f : NumberForm,
      f.text = exponentText false (Nat.toDigits 10 n) (Decimal.pointAt ⟨n, e⟩ - 1) ∧
      f.exponent?.isSome ∧ f.value = ⟨n, e⟩ := by
  have hdigits : AllDigits (Nat.toDigits 10 n) := allDigits_toDigits n
  have hvalue : digitsValue (Nat.toDigits 10 n) = n := digitsValue_toDigits n
  obtain ⟨c, cs, hcs⟩ := List.exists_cons_of_ne_nil (Nat.toDigits_ne_nil (b := 10) (n := n))
  have hlead : Decimal.pointAt ⟨n, e⟩ - 1 = cs.length + e := by
    show ((Nat.toDigits 10 n).length : Int) + e - 1 = cs.length + e
    rw [hcs, List.length_cons]
    omega
  rw [hlead, hcs, exponentText_cons]
  rw [hcs] at hdigits hvalue
  have hfirst : AllDigits [c] := by
    intro d hd
    exact hdigits d (by simp [List.mem_singleton.mp hd])
  have hrest : AllDigits cs := fun d hd => hdigits d (List.mem_cons_of_mem c hd)
  by_cases hone : cs = []
  · refine ⟨⟨[c], none, some (cs.length + e), by simp, hfirst, by simp⟩, ?_, rfl, ?_⟩
    · rw [if_pos hone]
      rfl
    · rw [← hvalue, hone]
      simp [NumberForm.value, NumberForm.fraction]
  · refine ⟨⟨[c], some cs, some (cs.length + e), by simp, hfirst, ?_⟩, ?_, rfl, ?_⟩
    · rintro ds hds
      obtain rfl : cs = ds := Option.some.inj hds
      exact hrest
    · rw [if_neg hone]
      rfl
    · have hexponent : (cs.length : Int) + e - cs.length = e := by omega
      show Decimal.mk (digitsValue ([c] ++ cs)) (cs.length + e - cs.length) = _
      rw [hexponent, ← hvalue]
      rfl

/-- The layout of a number other than zero. -/
theorem magnitudeText_of_ne_zero (style : Style) {m : Magnitude} (h : ¬ m.isZero = true) :
    style.magnitudeText m =
      if style.isPositional ((m.shortest style.tie).pointAt - 1) then
        positionalText style.keepsPoint (Nat.toDigits 10 (m.shortest style.tie).digits)
          (m.shortest style.tie).exponent
      else
        exponentText style.signsExponent (Nat.toDigits 10 (m.shortest style.tie).digits)
          ((m.shortest style.tie).pointAt - 1) :=
  if_neg h

/-- A magnitude is written as a form with a fraction or an exponent that reads back as it. -/
theorem exists_form (m : Magnitude) :
    ∃ f : NumberForm, f.text = literal.magnitudeText m ∧
      (f.fraction?.isSome ∨ f.exponent?.isSome) ∧ f.value.magnitude? = some m := by
  by_cases hzero : m.isZero = true
  · have hm : m = .zero := Magnitude.eq_zero_of_mantissa (eq_of_beq hzero)
    refine ⟨.ofParts ['0'] ['0'] (by simp) (allDigits_zeros 1) (allDigits_zeros 1), ?_, .inl rfl,
      ?_⟩
    · have hzeroText : literal.magnitudeText .zero = ['0', '.', '0'] := if_pos rfl
      rw [NumberForm.text_ofParts, hm, hzeroText]
      rfl
    · have hdigits : digitsValue (['0'] ++ ['0']) = 0 := by decide
      rw [NumberForm.value_ofParts, hm, Decimal.magnitude?_of_zero hdigits]
  · have hback := m.magnitude?_shortest literal.tie
    rw [magnitudeText_of_ne_zero literal hzero]
    generalize m.shortest literal.tie = d at hback ⊢
    obtain ⟨n, e⟩ := d
    have hkeeps : literal.keepsPoint = true := rfl
    have hsigns : literal.signsExponent = false := rfl
    rw [hkeeps, hsigns]
    generalize literal.isPositional ((Decimal.mk n e).pointAt - 1) = positional
    cases positional with
    | true =>
      rw [if_pos rfl]
      obtain ⟨f, htext, hfraction, zeros, hvalue⟩ := exists_form_positional n e
      refine ⟨f, htext, .inl hfraction, ?_⟩
      rw [hvalue, Decimal.magnitude?_padded]
      exact hback
    | false =>
      rw [if_neg Bool.false_ne_true]
      obtain ⟨f, htext, hexponent, hvalue⟩ := exists_form_exponent n e
      refine ⟨f, htext, .inr hexponent, ?_⟩
      rw [hvalue]
      exact hback

end Style

/-! ## Reading floats back -/

theorem toLower_of_isDigit {c : Char} (hc : c.isDigit = true) : c.toLower = c := by
  have hupper : ¬ (c.val ≥ 'A'.val ∧ c.val ≤ 'Z'.val) := by
    rintro ⟨hle, -⟩
    have hnine : c.val ≤ '9'.val := by
      simp only [Char.isDigit, Bool.and_eq_true, decide_eq_true_eq] at hc
      exact hc.2
    exact absurd (UInt32.le_trans hle hnine) (by decide)
  exact dif_neg hupper

/-- No word for a number starts with a digit. -/
theorem lower_ne_word {c : Char} (hc : c.isDigit = true) (cs : List Char) (word : String)
    (hword : word.toList.head?.any Char.isDigit = false) :
    String.ofList ((c :: cs).map Char.toLower) ≠ word := by
  rintro rfl
  rw [String.toList_ofList, List.map_cons, List.head?_cons, Option.any_some,
    toLower_of_isDigit hc, hc] at hword
  cases hword

namespace Binary64

theorem read?_form {f : NumberForm} {m : Magnitude} (h : f.value.magnitude? = some m)
    (negative : Bool) : read? (signText negative ++ f.text) = some (.finite negative m) := by
  obtain ⟨c, cs, hcs, hc⟩ := f.exists_cons_text
  have hread : Decimal.read? (c :: cs) = some f.value := by
    rw [← hcs]
    exact f.read?_text
  have hinf := lower_ne_word hc cs "inf" (by decide)
  have hinfinity := lower_ne_word hc cs "infinity" (by decide)
  have hnan := lower_ne_word hc cs "nan" (by decide)
  unfold read? readWith?
  rw [hcs, splitSign_signText negative hc cs]
  simp only [hinf, hinfinity, hnan, or_self, if_false, hread, Option.map_some, h]
  rfl

end Binary64

end AnnotationQuery
