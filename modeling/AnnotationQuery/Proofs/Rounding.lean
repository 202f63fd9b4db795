import AnnotationQuery.Number.Shortest

/-!
# Rounding and reading back

A decimal number is read by rounding the quotient that it stands for, so two ways to write one
quotient are read alike, and a quotient that is a double already is read as itself. From the second
fact every double has a decimal number that reads back as it, its exact value, and hence the
shortest one does too. The powers are too large to be written out: that a unit is `2 ^ -1074` is
used only where the lengths of two powers are compared.

* `Magnitude.nearest?_congr`: equal quotients round to the same double.
* `Magnitude.nearest?_units`: a double rounds to itself.
* `Decimal.magnitude?_padded`: zeros added to the digits and taken off the exponent change nothing.
* `Magnitude.magnitude?_shortest`: the shortest decimal number reads back.
-/

namespace AnnotationQuery

/-! ## Rounding a quotient -/

theorem roundHalfEven_mul {c : Nat} (hc : 0 < c) (num den : Nat) :
    roundHalfEven (num * c) (den * c) = roundHalfEven num den := by
  have hfloor : num * c / (den * c) = num / den := Nat.mul_div_mul_right num den hc
  have hrest : num * c % (den * c) = num % den * c := Nat.mul_mod_mul_right c num den
  unfold roundHalfEven
  simp only [hfloor, hrest, ← Nat.mul_assoc, Nat.mul_lt_mul_right hc]

theorem roundHalfEven_exact {den : Nat} (hden : 0 < den) (n : Nat) :
    roundHalfEven (n * den) den = n := by
  have hfloor : n * den / den = n := Nat.mul_div_cancel n hden
  have hrest : n * den % den = 0 := Nat.mul_mod_left n den
  simp [roundHalfEven, hfloor, hrest, hden]

namespace Format

theorem round_mul {c : Nat} (hc : 0 < c) (format : Format) (num den : Nat) :
    format.round (num * c) (den * c) = format.round num den := by
  have hscaled : num * c * Nat.pow 2 format.unitBits = num * Nat.pow 2 format.unitBits * c :=
    Nat.mul_right_comm num c _
  have hfloor : num * c * Nat.pow 2 format.unitBits / (den * c) =
      num * Nat.pow 2 format.unitBits / den := by
    rw [hscaled, Nat.mul_div_mul_right _ _ hc]
  have hround : ∀ e, roundHalfEven (num * c * Nat.pow 2 format.unitBits)
      (den * c * Nat.pow 2 e) =
      roundHalfEven (num * Nat.pow 2 format.unitBits) (den * Nat.pow 2 e) := by
    intro e
    rw [hscaled, Nat.mul_right_comm den c, roundHalfEven_mul hc]
  simp only [round, hfloor, hround]

/-- A quotient whose significand fits at the exponent that the format chooses is not changed. -/
theorem round_eq_of_fits {format : Format} {num den mantissa exponent : Nat}
    (hexponent : Nat.log2 (num * Nat.pow 2 format.unitBits / den) - (format.precision - 1) =
      exponent)
    (hexact : num * Nat.pow 2 format.unitBits = mantissa * (den * Nat.pow 2 exponent))
    (hden : 0 < den) (hlt : mantissa < Nat.pow 2 format.precision) :
    format.round num den = (mantissa, exponent) := by
  have hpos : 0 < den * Nat.pow 2 exponent := Nat.mul_pos hden (Nat.pow_pos (by decide))
  have hround : roundHalfEven (num * Nat.pow 2 format.unitBits) (den * Nat.pow 2 exponent) =
      mantissa := by
    rw [hexact]
    exact roundHalfEven_exact hpos mantissa
  unfold round
  simp only [hexponent, hround]
  exact if_neg (Nat.ne_of_lt hlt)

end Format

namespace Magnitude

theorem nearest?_mul {c : Nat} (hc : 0 < c) (num den : Nat) :
    nearest? (num * c) (den * c) = nearest? num den := by
  unfold nearest?
  rw [Format.round_mul hc]

theorem nearest?_congr {num den num' den' : Nat} (hden : 0 < den) (hden' : 0 < den')
    (h : num * den' = num' * den) : nearest? num den = nearest? num' den' := by
  calc nearest? num den
      = nearest? (num * den') (den * den') := (nearest?_mul hden' num den).symm
    _ = nearest? (num' * den) (den' * den) := by rw [h, Nat.mul_comm den den']
    _ = nearest? num' den' := nearest?_mul hden num' den'

theorem ofParts?_self (m : Magnitude) : ofParts? m.mantissa m.exponent = some m :=
  dif_pos ⟨m.mantissa_lt, m.exponent_le, m.normal⟩

theorem eq_zero_of_mantissa {m : Magnitude} (h : m.mantissa = 0) : m = zero := by
  have hexponent : m.exponent = 0 := by
    rcases m.normal with hzero | hnormal
    · exact hzero
    · rw [h] at hnormal
      exact absurd hnormal (by decide)
  cases m
  simp_all [zero]

theorem units_pos {m : Magnitude} (h : m ≠ zero) : 0 < m.units := by
  have hmantissa : m.mantissa ≠ 0 := fun hzero => h (eq_zero_of_mantissa hzero)
  exact Nat.mul_pos (Nat.pos_of_ne_zero hmantissa) (Nat.pow_pos (by decide))

/-- The normal form is the one that `Format.round` chooses: its exponent is read off the length of
the number of units. -/
theorem log2_units (m : Magnitude) : Nat.log2 m.units - 52 = m.exponent := by
  by_cases hzero : m = zero
  · rw [hzero]
    decide
  · have hunits : m.units ≠ 0 := Nat.ne_of_gt (units_pos hzero)
    have hupper : Nat.log2 m.units < 53 + m.exponent := by
      rw [Nat.log2_lt hunits, Nat.pow_add]
      exact Nat.mul_lt_mul_of_pos_right m.mantissa_lt (Nat.pow_pos (by decide))
    rcases m.normal with h | h
    · rw [h] at hupper ⊢
      omega
    · have hlower : 52 + m.exponent ≤ Nat.log2 m.units := by
        rw [Nat.le_log2 hunits, Nat.pow_add]
        exact Nat.mul_le_mul_right _ h
      omega

/-- A number of units is rounded to itself, however small a unit is. -/
theorem round_units (m : Magnitude) (unitBits : Nat) :
    Format.round ⟨53, unitBits⟩ m.units (Nat.pow 2 unitBits) = (m.mantissa, m.exponent) := by
  have hden : 0 < Nat.pow 2 unitBits := Nat.pow_pos (by decide)
  refine Format.round_eq_of_fits ?_ ?_ hden m.mantissa_lt
  · have hfloor : m.units * Nat.pow 2 unitBits / Nat.pow 2 unitBits = m.units :=
      Nat.mul_div_cancel _ hden
    rw [hfloor]
    exact m.log2_units
  · rw [units, Nat.mul_assoc, Nat.mul_comm (Nat.pow 2 m.exponent)]

theorem nearest?_units (m : Magnitude) {unitBits : Nat} (h : unitBits = Format.double.unitBits) :
    nearest? m.units (Nat.pow 2 unitBits) = some m := by
  have hround : Format.double.round m.units (Nat.pow 2 unitBits) = (m.mantissa, m.exponent) := by
    have hformat : Format.double = ⟨53, unitBits⟩ := h ▸ rfl
    rw [hformat]
    exact m.round_units unitBits
  unfold nearest?
  rw [hround]
  exact m.ofParts?_self

end Magnitude

/-! ## Decimal numbers -/

namespace Decimal

/-- The same number with zeros behind its digits. -/
def padded (d : Decimal) (zeros : Nat) : Decimal :=
  ⟨d.digits * Nat.pow 10 zeros, d.exponent - zeros⟩

theorem length_toDigits_mul_pow {n : Nat} (hn : 0 < n) (k : Nat) :
    (Nat.toDigits 10 (n * Nat.pow 10 k)).length = (Nat.toDigits 10 n).length + k := by
  induction k with
  | zero => rw [show n * Nat.pow 10 0 = n from Nat.mul_one n, Nat.add_zero]
  | succ k ih =>
    have hpos : 0 < n * Nat.pow 10 k := Nat.mul_pos hn (Nat.pow_pos (by decide))
    have hstep : n * Nat.pow 10 (k + 1) = 10 * (n * Nat.pow 10 k) + 0 := by
      rw [Nat.add_zero, Nat.mul_comm 10, Nat.mul_assoc]
      rfl
    have hzero : Nat.toDigits 10 0 = ['0'] := by decide
    rw [hstep, ← Nat.toDigits_append_toDigits (by decide) hpos (by decide), List.length_append, ih,
      hzero]
    rfl

/-- How many digits a product has. -/
theorem length_toDigits_mul {n bound factor : Nat} (least greatest : Nat) (hpos : 0 < least)
    (hpos' : 0 < greatest) (hn : 0 < n) (hlt : n < bound) (hleast : Nat.pow 10 least ≤ factor)
    (hgreatest : bound * factor ≤ Nat.pow 10 greatest) :
    least < (Nat.toDigits 10 (n * factor)).length ∧
      (Nat.toDigits 10 (n * factor)).length ≤ greatest := by
  have hlength : ∀ k, 0 < k →
      ((Nat.toDigits 10 (n * factor)).length ≤ k ↔ n * factor < Nat.pow 10 k) :=
    fun k hk => Nat.length_toDigits_le_iff (by decide) hk
  have hfactor : 0 < factor := Nat.lt_of_lt_of_le (Nat.pow_pos (by decide)) hleast
  rw [← Nat.not_le, hlength least hpos, hlength greatest hpos', Nat.not_lt]
  exact ⟨Nat.le_trans hleast (Nat.le_mul_of_pos_left factor hn),
    Nat.lt_of_lt_of_le (Nat.mul_lt_mul_of_pos_right hlt hfactor) hgreatest⟩

theorem pointAt_padded {d : Decimal} (h : 0 < d.digits) (zeros : Nat) :
    (d.padded zeros).pointAt = d.pointAt := by
  have hlength := length_toDigits_mul_pow h zeros
  show ((Nat.toDigits 10 (d.digits * Nat.pow 10 zeros)).length : Int) + (d.exponent - zeros) =
    (Nat.toDigits 10 d.digits).length + d.exponent
  omega

theorem quotient_of_neg (n : Nat) {k : Nat} (hk : 0 < k) :
    quotient ⟨n, -k⟩ = (n, Nat.pow 10 k) := by
  have hneg : ¬ (0 : Int) ≤ -(k : Int) := by omega
  unfold quotient
  rw [if_neg hneg, Int.neg_neg, Int.toNat_natCast]

theorem quotient_of_nonneg (n k : Nat) : quotient ⟨n, k⟩ = (n * Nat.pow 10 k, 1) := by
  unfold quotient
  rw [if_pos (Int.natCast_nonneg k), Int.toNat_natCast]

theorem quotient_pos (d : Decimal) : 0 < d.quotient.2 := by
  unfold quotient
  split
  · exact Nat.one_pos
  · exact Nat.pow_pos (by decide)

theorem quotient_padded (d : Decimal) (zeros : Nat) :
    (d.padded zeros).quotient.1 * d.quotient.2 = d.quotient.1 * (d.padded zeros).quotient.2 := by
  obtain ⟨n, e⟩ := d
  have hadd : ∀ i j, Nat.pow 10 (i + j) = Nat.pow 10 i * Nat.pow 10 j := Nat.pow_add 10
  rcases Int.lt_or_le e 0 with hneg | hnonneg
  · obtain ⟨k, rfl⟩ : ∃ k : Nat, e = -((k + 1 : Nat) : Int) := ⟨(-e - 1).toNat, by omega⟩
    have hexponent : -((k + 1 : Nat) : Int) - zeros = -((zeros + (k + 1) : Nat) : Int) := by omega
    rw [padded, hexponent, quotient_of_neg _ (Nat.succ_pos k), quotient_of_neg _ (by omega), hadd]
    exact Nat.mul_assoc n _ _
  · obtain ⟨k, rfl⟩ := Int.eq_ofNat_of_zero_le hnonneg
    by_cases hle : zeros ≤ k
    · obtain ⟨j, rfl⟩ := Nat.exists_eq_add_of_le hle
      have hexponent : ((zeros + j : Nat) : Int) - zeros = (j : Nat) := by omega
      rw [padded, hexponent, quotient_of_nonneg, quotient_of_nonneg, hadd]
      show n * Nat.pow 10 zeros * Nat.pow 10 j * 1 = n * (Nat.pow 10 zeros * Nat.pow 10 j) * 1
      rw [Nat.mul_assoc n]
    · obtain ⟨j, rfl⟩ := Nat.exists_eq_add_of_lt (Nat.lt_of_not_le hle)
      have hexponent : (k : Int) - (k + j + 1 : Nat) = -((j + 1 : Nat) : Int) := by omega
      rw [padded, hexponent, quotient_of_neg _ (Nat.succ_pos j), quotient_of_nonneg,
        Nat.add_assoc, hadd]
      show n * (Nat.pow 10 k * Nat.pow 10 (j + 1)) * 1 = n * Nat.pow 10 k * Nat.pow 10 (j + 1)
      rw [Nat.mul_one, Nat.mul_assoc n]

theorem magnitude?_of_zero {d : Decimal} (h : d.digits = 0) :
    d.magnitude? = some Magnitude.zero := by
  simp [magnitude?, isTiny, h]

theorem magnitude?_padded (d : Decimal) (zeros : Nat) :
    (d.padded zeros).magnitude? = d.magnitude? := by
  by_cases hdigits : d.digits = 0
  · have hpadded : (d.padded zeros).digits = 0 := by rw [padded, hdigits, Nat.zero_mul]
    rw [magnitude?_of_zero hdigits, magnitude?_of_zero hpadded]
  · have hpos : 0 < d.digits := Nat.pos_of_ne_zero hdigits
    have hpadded : (d.padded zeros).digits ≠ 0 :=
      Nat.mul_ne_zero hdigits (Nat.ne_of_gt (Nat.pow_pos (by decide)))
    have hnearest := Magnitude.nearest?_congr (quotient_pos _) (quotient_pos _)
      (quotient_padded d zeros)
    unfold magnitude? isTiny isHuge
    rw [pointAt_padded hpos, beq_eq_false_iff_ne.mpr hpadded, beq_eq_false_iff_ne.mpr hdigits,
      hnearest]

end Decimal

/-! ## The shortest decimal number -/

namespace Magnitude

theorem units_lt (m : Magnitude) {k : Nat} (hk : m.exponent ≤ k) :
    m.units < Nat.pow 2 53 * Nat.pow 2 k := by
  have hmantissa : m.units < Nat.pow 2 53 * Nat.pow 2 m.exponent :=
    Nat.mul_lt_mul_of_pos_right m.mantissa_lt (Nat.pow_pos (by decide))
  have hmono : Nat.pow 2 m.exponent ≤ Nat.pow 2 k := Nat.pow_le_pow_right (by decide) hk
  exact Nat.lt_of_lt_of_le hmantissa (Nat.mul_le_mul_left _ hmono)

/-- The exact value has at least 744 digits and at most 1384, so it is neither tiny nor huge. -/
theorem length_units_mul {m : Magnitude} (hm : m ≠ zero) {unitBits : Nat}
    (h : unitBits = Format.double.unitBits) :
    743 < (Nat.toDigits 10 (m.units * Nat.pow 5 unitBits)).length ∧
      (Nat.toDigits 10 (m.units * Nat.pow 5 unitBits)).length ≤ 1384 := by
  refine Decimal.length_toDigits_mul 743 1384 (by decide) (by decide) (units_pos hm)
    (m.units_lt m.exponent_le) ?_ ?_ <;> rw [h] <;> decide +kernel

/-- The exact value reads back. -/
theorem magnitude?_exact (m : Magnitude) {unitBits : Nat} (h : unitBits = Format.double.unitBits) :
    (⟨m.units * Nat.pow 5 unitBits, -unitBits⟩ : Decimal).magnitude? = some m := by
  have hbits : unitBits = 1074 := h
  by_cases hzero : m = zero
  · have hunits : m.units * Nat.pow 5 unitBits = 0 := by
      rw [hzero, show zero.units = 0 by decide, Nat.zero_mul]
    rw [Decimal.magnitude?_of_zero hunits, hzero]
  · obtain ⟨hleast, hgreatest⟩ := length_units_mul hzero h
    have hdigits : m.units * Nat.pow 5 unitBits ≠ 0 := by
      intro hnone
      rw [hnone] at hleast
      exact absurd hleast (by decide)
    have hpoint : (⟨m.units * Nat.pow 5 unitBits, -unitBits⟩ : Decimal).pointAt =
        (Nat.toDigits 10 (m.units * Nat.pow 5 unitBits)).length - (unitBits : Int) := rfl
    have htiny : (⟨m.units * Nat.pow 5 unitBits, -unitBits⟩ : Decimal).isTiny = false := by
      simp only [Decimal.isTiny, hpoint, beq_eq_false_iff_ne.mpr hdigits, Bool.false_or,
        decide_eq_false_iff_not]
      omega
    have hhuge : (⟨m.units * Nat.pow 5 unitBits, -unitBits⟩ : Decimal).isHuge = false := by
      simp only [Decimal.isHuge, hpoint, decide_eq_false_iff_not]
      omega
    have hpos : ∀ b, 0 < b → 0 < Nat.pow b unitBits := fun b => Nat.pow_pos
    have hten : Nat.pow 10 unitBits = Nat.pow 5 unitBits * Nat.pow 2 unitBits := Nat.mul_pow 5 2 _
    have hcross : m.units * Nat.pow 5 unitBits * Nat.pow 2 unitBits =
        m.units * Nat.pow 10 unitBits := by
      rw [hten, Nat.mul_assoc]
    unfold Decimal.magnitude?
    rw [htiny, hhuge, Decimal.quotient_of_neg _ (by omega),
      nearest?_congr (hpos 10 (by decide)) (hpos 2 (by decide)) hcross, m.nearest?_units h]
    rfl

theorem magnitude?_exactDecimal (m : Magnitude) : m.exactDecimal.magnitude? = some m := by
  unfold exactDecimal
  generalize hbits : 1074 = unitBits
  have hexponent : (-1074 : Int) = -(unitBits : Int) := by omega
  rw [hexponent]
  exact m.magnitude?_exact hbits.symm

theorem magnitude?_shortest (tie : Tie) (m : Magnitude) :
    (m.shortest tie).magnitude? = some m := by
  unfold shortest
  cases hfound : (List.range 17).findSome? fun n =>
      candidate? tie m (m.pointAt - (n + 1 : Nat)) with
  | none => exact m.magnitude?_exactDecimal
  | some d =>
    obtain ⟨n, -, hcandidate⟩ := List.exists_of_findSome?_eq_some hfound
    exact eq_of_beq (candidate?_readsBack hcandidate)

end Magnitude

end AnnotationQuery
