/-
The product of two doubles above zero is the double closest to the product of the numbers that they are.
-/
import FormBuilder.Proofs.Decimal.Order

namespace FormBuilder.Decimal

open Float.Model Float.Model.UnpackedFloat

/-- A product that a size covers is the double of that size. One of the factors has a mantissa of full
length, so no digit is lost before rounding. -/
theorem ofSize_mul {b c d : Binary} (hb : b.Canonical) (hc : c.Canonical) (hd : d.Canonical)
    (hble : b.exponent ≤ 971) (hcle : c.exponent ≤ 971) (hfull : 2 ^ 52 ≤ c.mantissa)
    (hcovers : d.Covers (b.mantissa * 2 ^ b.exponent * (c.mantissa * 2 ^ c.exponent))) :
    ofSize .positive b hb * ofSize .positive c hc = ofSize .positive d hd := by
  have hlong : 2 ^ 52 ≤ b.mantissa * c.mantissa := hfull.trans (Nat.le_mul_of_pos_left _ hb.pos)
  show Float.ofModel (.pack (UnpackedFloat.mul .binary64 _ _)) = _
  rw [unpack_ofSize hb hble, unpack_ofSize hc hcle, mul_eq hd hcovers hb.pos hc.pos hlong]
  rfl

theorem closest_mul {b c : Binary} (hb : b.Canonical) (hc : c.Canonical) (hble : b.exponent ≤ 971)
    (hcle : c.exponent ≤ 971) (hfull : 2 ^ 52 ≤ c.mantissa) {v : ℚ}
    (hv : (b.mantissa : ℚ) * 2 ^ b.exponent * (c.mantissa * 2 ^ c.exponent) = v)
    (hlow : (2 : ℚ) ^ (-1074 : Int) ≤ v) (hhigh : v < 2 ^ (1023 : Int)) :
    Closest (ofSize .positive b hb * ofSize .positive c hc) v := by
  obtain ⟨d, hd, hdle, hcovers⟩ := exists_covers hlow hhigh
  rw [ofSize_mul hb hc hd hble hcle hfull (hv ▸ hcovers)]
  exact hcovers.closest hd hdle

/-- The least size is the unit of all others. -/
theorem Binary.Canonical.least_le {b : Binary} (hb : b.Canonical) :
    (2 : ℚ) ^ (-1074 : Int) ≤ b.mantissa * 2 ^ b.exponent := by
  have hm : (1 : ℚ) ≤ b.mantissa := by exact_mod_cast hb.pos
  calc (2 : ℚ) ^ (-1074 : Int) ≤ 2 ^ b.exponent := zpow_le_zpow_right₀ (by norm_num) hb.least
    _ = 1 * 2 ^ b.exponent := (one_mul _).symm
    _ ≤ b.mantissa * 2 ^ b.exponent := mul_le_mul_of_nonneg_right hm (two_zpow_pos _).le

/-! ## A hundred times a double -/

theorem ofFloat_hundred : Binary.ofFloat 100.0 = ⟨100 * 2 ^ 46, -46, false⟩ := by decide

theorem isFinite_hundred : isFinite 100.0 = true := by decide

theorem ofSize_hundred (hc : (Binary.ofFloat 100.0).Canonical) :
    ofSize .positive (Binary.ofFloat 100.0) hc = 100.0 := by
  have hnegative : isNegative 100.0 = false := by decide
  have hsign : signOf 100.0 = .positive := by
    rw [signOf, hnegative]
    rfl
  rw [← hsign]
  exact ofSize_ofFloat isFinite_hundred hc.pos.ne'

theorem closest_hundredfold {x : Float} (h : isFinite x = true) (hlt : |value x| < 10 ^ 15) :
    Closest (magnitude x * 100.0) (100 * |value x|) := by
  by_cases hsize : (Binary.ofFloat x).mantissa = 0
  · have hzero : (0.0 : Float) * 100.0 = Float.ofNat 0 := by decide
    rw [magnitude_of_zero hsize, hzero, value_of_zero hsize, abs_zero, mul_zero]
    exact_mod_cast closest_ofNat (n := 0) (by norm_num)
  · have hb := canonical_ofFloat hsize
    have hc : (Binary.ofFloat 100.0).Canonical := canonical_ofFloat (by rw [ofFloat_hundred]; decide)
    have hleast := hb.least_le
    rw [← abs_value] at hleast
    have hnonneg := abs_nonneg (value x)
    rw [magnitude_eq_ofSize h hsize, ← ofSize_hundred hc]
    refine closest_mul hb hc (exponent_ofFloat_le h) (exponent_ofFloat_le isFinite_hundred) ?_ ?_
      (hleast.trans (by linarith)) ?_
    · rw [ofFloat_hundred]
      decide
    · rw [ofFloat_hundred, abs_value]
      norm_num
      ring
    · calc 100 * |value x| < 2 ^ (57 : Int) := by
            norm_num
            linarith
        _ ≤ 2 ^ (1023 : Int) := zpow_le_zpow_right₀ (by norm_num) (by norm_num)

end FormBuilder.Decimal
