/-
Whole numbers of up to 64 bits as doubles: there is a size nearest to each of them, so the double
that stands for it is finite, whatever its sign.
-/
import FormBuilder.Proofs.Decimal.Covering
import FormBuilder.Proofs.Decimal.Notation

namespace FormBuilder.Decimal

/-- Every whole number above zero of up to 64 bits has a nearest size. -/
theorem exists_covers_natCast {n : Nat} (hn : 0 < n) (hlt : n < 2 ^ 64) :
    ∃ b : Binary, b.Canonical ∧ b.exponent ≤ 971 ∧ b.Covers n := by
  refine exists_covers ?_ ?_
  · refine (zpow_le_one_of_nonpos₀ (by norm_num) (by norm_num)).trans ?_
    exact_mod_cast hn
  · refine lt_of_lt_of_le ?_ (zpow_le_zpow_right₀ (by norm_num) (by norm_num : (64 : Int) ≤ 1023))
    exact_mod_cast hlt

/-! ## Finite doubles -/

/-- The sign of a double does not make it infinite. -/
theorem isFinite_withSign {x : Float} (h : isFinite x = true) (negative : Bool) :
    isFinite (withSign negative x) = true := by
  cases negative with
  | false => exact h
  | true =>
    by_cases hsize : (Binary.ofFloat x).mantissa = 0
    · have hx := pack_zero hsize
      rw [← hx]
      -- a zero keeps its size, whatever its sign
      cases signOf x <;> decide
    · have hneg : withSign true x
          = ofSize (-signOf x) (Binary.ofFloat x) (canonical_ofFloat hsize) := by
        show Float.ofModel (.pack x.toModel.unpack.neg) = _
        rw [unpack_ofFloat h hsize]
        rfl
      rw [hneg]
      exact isFinite_ofSize _ (exponent_ofFloat_le h) _

theorem ofNat_eq_ofSize {n : Nat} {b : Binary} (hn : 0 < n) (hb : b.Canonical) (hcovers : b.Covers n) :
    Float.ofNat n = ofSize .positive b hb := by
  have hvalue : (n : ℚ) * 10 ^ (0 : Int) = n := by rw [zpow_zero, mul_one]
  exact ofScientific_eq hb (hvalue ▸ hcovers) hn (by decide) (by omega)

theorem isFinite_ofNat {n : Nat} (h : n < 2 ^ 64) : isFinite (Float.ofNat n) = true := by
  rcases Nat.eq_zero_or_pos n with rfl | hn
  · decide
  · obtain ⟨b, hb, hle, hcovers⟩ := exists_covers_natCast hn h
    rw [ofNat_eq_ofSize hn hb hcovers]
    exact isFinite_ofSize hb hle .positive

/-- A whole number that a text can hold is a finite double. -/
theorem isFinite_ofInt {n : Int} (hlow : -(Nat.pow 2 63 : Int) ≤ n) (hhigh : n < (Nat.pow 2 64 : Int)) :
    isFinite (Float.ofInt n) = true := by
  cases n with
  | ofNat n => exact isFinite_ofNat (Int.ofNat_lt.1 hhigh)
  | negSucc n =>
    have hlt : n.succ < 2 ^ 64 := by
      have : (n : Int) < Nat.pow 2 63 := by omega
      have : n < 2 ^ 63 := Int.ofNat_lt.1 this
      omega
    exact isFinite_withSign (isFinite_ofNat hlt) true

end FormBuilder.Decimal
