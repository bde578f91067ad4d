/-
The doubles that have no size: what is no number is one double, and there is one infinity of either
sign. The two zeros are the doubles that are equal to zero, and doubles that are the same but for the
sign of a zero are equal as numbers.
-/
import FormBuilder.Proofs.Decimal.Comparison
import FormBuilder.Proofs.Decimal.Notation

namespace FormBuilder.Decimal

open Float.Model Float.Model.UnpackedFloat

variable {x y : Float}

/-! ## No number, and infinities -/

/-- What is no number has one bit pattern. -/
theorem eq_nan (hexponent : exponentBits x = 2047) (hfraction : fractionBits x ≠ 0) : x = nan := by
  have hones := (unpackExponent_eq_ones_iff x).2 hexponent
  have hsome := mt (unpackMantissa_eq_zero_iff x).1 hfraction
  have hbits : pattern x = packedNaN .binary64 := x.toModel.valid.eq_packedNaN hones hsome
  exact eq_of_toNat_toBits (congrArg BitVec.toNat hbits)

theorem eq_infinity (hexponent : exponentBits x = 2047) (hfraction : fractionBits x = 0) :
    x = withSign (isNegative x) infinity := by
  have hbits := toNat_toBits_eq x
  rw [hexponent, hfraction] at hbits
  refine eq_of_toNat_toBits (hbits.trans ?_)
  unfold signOf
  cases isNegative x <;> decide

/-- A double that is not finite is no number or an infinity. -/
theorem eq_nan_or_infinite (h : isFinite x = false) :
    x = nan ∨ ∃ negative, x = withSign negative infinity := by
  have hexponent : exponentBits x = 2047 := by simpa [isFinite] using h
  by_cases hfraction : fractionBits x = 0
  · exact .inr ⟨_, eq_infinity hexponent hfraction⟩
  · exact .inl (eq_nan hexponent hfraction)

theorem isNaN_iff : x.isNaN = true ↔ x = nan := by
  constructor
  · intro h
    by_contra hne
    have hnumber : x.isNaN = false :=
      isNaN_eq_false fun hexponent => by_contra fun hfraction => hne (eq_nan hexponent hfraction)
    cases h.symm.trans hnumber
  · rintro rfl
    decide

/-- Nothing is equal to what is no number. -/
theorem beq_nan (x : Float) : (x == nan) = false := by
  have hnan : nan.toModel.unpack = .notANumber := rfl
  show (x.toModel.unpack.compare nan.toModel.unpack == some .eq) = false
  rw [hnan]
  cases x.toModel.unpack <;> rfl

/-! ## Zeros -/

theorem beq_zero_iff : (x == 0.0) = true ↔ (Binary.ofFloat x).mantissa = 0 := by
  constructor
  · intro h
    by_contra hsize
    cases hfinite : isFinite x with
    | true =>
      have hzero : (0.0 : Float).toModel.unpack = .zero .positive := rfl
      have hcompare : (x.toModel.unpack.compare (0.0 : Float).toModel.unpack == some .eq) = true := h
      rw [unpack_ofFloat hfinite hsize, hzero] at hcompare
      cases hsign : signOf x with
      | negative | positive =>
        rw [hsign] at hcompare
        cases hcompare
    | false =>
      rcases eq_nan_or_infinite hfinite with rfl | ⟨negative, rfl⟩
      · exact absurd h (by decide)
      · cases negative <;> exact absurd h (by decide)
  · intro hsize
    rw [← withSign_zero hsize]
    cases isNegative x <;> decide

/-- Two zeros are equal, whatever their signs. -/
theorem beq_of_zeros (hx : (x == 0.0) = true) (hy : (y == 0.0) = true) : (x == y) = true := by
  rw [← withSign_zero (beq_zero_iff.1 hx), ← withSign_zero (beq_zero_iff.1 hy)]
  cases isNegative x <;> cases isNegative y <;> decide

/-- The double with the sign taken from a zero. -/
def dropZeroSign (x : Float) : Float := if x == 0.0 then 0.0 else x

theorem dropZeroSign_of_zero (h : (x == 0.0) = true) : dropZeroSign x = 0.0 := if_pos h

theorem dropZeroSign_of_ne_zero (h : (x == 0.0) = false) : dropZeroSign x = x :=
  if_neg (Bool.eq_false_iff.1 h)

theorem dropZeroSign_dropZeroSign (x : Float) : dropZeroSign (dropZeroSign x) = dropZeroSign x := by
  cases h : x == 0.0 with
  | true =>
    rw [dropZeroSign_of_zero h]
    decide
  | false => rw [dropZeroSign_of_ne_zero h, dropZeroSign_of_ne_zero h]

@[simp] theorem isNaN_dropZeroSign (x : Float) : (dropZeroSign x).isNaN = x.isNaN := by
  cases h : x == 0.0 with
  | true =>
    have hnumber : x.isNaN = false := by
      rw [← Bool.not_eq_true', ← beq_self]
      exact beq_of_zeros h h
    rw [dropZeroSign_of_zero h, hnumber]
    decide
  | false => rw [dropZeroSign_of_ne_zero h]

/-- Doubles that are the same but for the sign of a zero are equal, unless they are no number. -/
theorem beq_of_dropZeroSign (h : dropZeroSign x = dropZeroSign y) : (x == y) = !y.isNaN := by
  have hzero : ((0.0 : Float) == 0.0) = true := by decide
  rw [← beq_self]
  cases hx : x == 0.0 with
  | true =>
    cases hy : y == 0.0 with
    | true => rw [beq_of_zeros hx hy, beq_of_zeros hy hy]
    | false =>
      rw [dropZeroSign_of_zero hx, dropZeroSign_of_ne_zero hy] at h
      rw [← h, hzero] at hy
      cases hy
  | false =>
    cases hy : y == 0.0 with
    | true =>
      rw [dropZeroSign_of_ne_zero hx, dropZeroSign_of_zero hy] at h
      rw [h, hzero] at hx
      cases hx
    | false =>
      rw [dropZeroSign_of_ne_zero hx, dropZeroSign_of_ne_zero hy] at h
      rw [h]

end FormBuilder.Decimal
