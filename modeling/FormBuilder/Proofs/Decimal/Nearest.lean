/-
The double nearest to a decimal: a decimal of the interval that a double stands for is read as that
double, on the short way of two exact doubles and on the long way of whole numbers.
-/
import Mathlib.Tactic.FieldSimp
import Mathlib.Tactic.ByContra
import FormBuilder.Decimal.Literal
import FormBuilder.Proofs.Decimal.Bits

namespace FormBuilder.Decimal

open Float.Model Float.Model.UnpackedFloat

variable {b : Binary} {v : ℚ} {m₁ m₂ : Nat} {e₁ e₂ : Int}

/-! ## Products and quotients -/

/-- A product that a size covers is rounded to that size. -/
theorem mul_eq (hb : b.Canonical) (hv : b.Covers (m₁ * 2 ^ e₁ * (m₂ * 2 ^ e₂)))
    (hm₁ : 0 < m₁) (hm₂ : 0 < m₂) (hlong : 2 ^ 52 ≤ m₁ * m₂) :
    UnpackedFloat.mul .binary64 (.finite .positive m₁ e₁ hm₁) (.finite .positive m₂ e₂ hm₂)
      = .finite .positive b.mantissa b.exponent hb.pos := by
  have hlies : Lies (m₁ * m₂) ((m₁ * 2 ^ e₁ * (m₂ * 2 ^ e₂)) / 2 ^ (e₁ + e₂)) .exact := by
    show _ = _
    rw [zpow_add₀ (by norm_num), div_eq_iff (by positivity)]
    push_cast
    ring
  exact hv.roundWithAccuracy_eq hb hlies (.inr hlong) .positive

/-- The rest of a division says where the quotient lies. -/
theorem lies_div (n : Nat) {d : Nat} (hd : 0 < d) :
    Lies (n / d) ((n : ℚ) / d) (accuracyOfFraction (n % d) d) := by
  have hpos : (0 : ℚ) < d := by exact_mod_cast hd
  have hsplit : (n : ℚ) = d * (n / d : Nat) + (n % d : Nat) := by
    exact_mod_cast (Nat.div_add_mod n d).symm
  have hrest : (n : ℚ) / d = (n / d : Nat) + ((n % d : Nat) : ℚ) / d := by
    conv_lhs => rw [hsplit, add_div, mul_div_cancel_left₀ _ hpos.ne']
  rw [hrest]
  have hlt : ((n % d : Nat) : ℚ) / d < 1 := by
    rw [div_lt_one hpos]
    exact_mod_cast Nat.mod_lt n hd
  -- only the rest counts from here on, compared with half of the divisor
  generalize n % d = r at hlt ⊢
  unfold accuracyOfFraction
  by_cases hzero : r = 0
  · rw [if_pos hzero, hzero, Nat.cast_zero, zero_div, add_zero]
    rfl
  · have hr : 0 < (r : ℚ) / d := div_pos (by exact_mod_cast Nat.pos_of_ne_zero hzero) hpos
    rw [if_neg hzero]
    cases hcompare : compare (2 * r) d with
    | lt =>
      have h : (r : ℚ) / d < 1 / 2 := by
        have : ((2 * r : Nat) : ℚ) < d := by exact_mod_cast Nat.compare_eq_lt.1 hcompare
        push_cast at this
        rw [div_lt_div_iff₀ hpos (by norm_num)]
        linarith
      constructor <;> linarith
    | eq =>
      have h : (r : ℚ) / d = 1 / 2 := by
        have : ((2 * r : Nat) : ℚ) = d := by exact_mod_cast Nat.compare_eq_eq.1 hcompare
        push_cast at this
        rw [div_eq_div_iff hpos.ne' (by norm_num)]
        linarith
      show _ = _
      linarith
    | gt =>
      have h : 1 / 2 < (r : ℚ) / d := by
        have : (d : ℚ) < (2 * r : Nat) := by exact_mod_cast Nat.compare_eq_gt.1 hcompare
        push_cast at this
        rw [div_lt_div_iff₀ (by norm_num) hpos]
        linarith
      constructor <;> linarith

/-- The exponent that a quotient is taken at: far enough below for a mantissa of full length, unless
it is the least one. -/
def divTarget (m₁ : Nat) (e₁ : Int) (m₂ : Nat) (e₂ : Int) : Int :=
  min (e₁ - e₂) (max (m₁.log2 + e₁ - (m₂.log2 + e₂) - 53) (-1074))

theorem divCore_eq : divCore .binary64 m₁ e₁ m₂ e₂
    = (m₁ <<< (e₁ - e₂ - divTarget m₁ e₁ m₂ e₂).toNat / m₂, divTarget m₁ e₁ m₂ e₂,
        accuracyOfFraction (m₁ <<< (e₁ - e₂ - divTarget m₁ e₁ m₂ e₂).toNat % m₂) m₂) := by
  have htarget : min (e₁ - e₂) (Format.binary64.targetExponent
      (totalExponent m₁ e₁ - totalExponent m₂ e₂)) = divTarget m₁ e₁ m₂ e₂ := by
    have hleast : Format.binary64.minExponent = -1074 := by decide
    have hbits : (Format.binary64.mantissaBits : Int) = 53 := by decide
    unfold Format.targetExponent totalExponent divTarget
    rw [hleast, hbits]
    congr 2
    omega
  unfold divCore
  simp only [htarget]

/-- The mantissa of a quotient is long enough. -/
theorem divTarget_room (hm₁ : 0 < m₁) (hm₂ : 0 < m₂) :
    divTarget m₁ e₁ m₂ e₂ ≤ -1074
      ∨ 2 ^ 52 ≤ m₁ <<< (e₁ - e₂ - divTarget m₁ e₁ m₂ e₂).toNat / m₂ := by
  by_cases hleast : divTarget m₁ e₁ m₂ e₂ ≤ -1074
  · exact .inl hleast
  · refine .inr ((Nat.le_div_iff_mul_le hm₂).2 ?_)
    have hlow : 2 ^ m₁.log2 ≤ m₁ := Nat.log2_self_le hm₁.ne'
    have hhigh : m₂ < 2 ^ (m₂.log2 + 1) := Nat.lt_log2_self
    -- the shift makes up for the length of the divisor
    have hshift : 52 + (m₂.log2 + 1) ≤ m₁.log2 + (e₁ - e₂ - divTarget m₁ e₁ m₂ e₂).toNat := by
      unfold divTarget at hleast ⊢
      omega
    rw [Nat.shiftLeft_eq]
    calc 2 ^ 52 * m₂ ≤ 2 ^ 52 * 2 ^ (m₂.log2 + 1) := Nat.mul_le_mul_left _ hhigh.le
      _ = 2 ^ (52 + (m₂.log2 + 1)) := (pow_add ..).symm
      _ ≤ 2 ^ (m₁.log2 + (e₁ - e₂ - divTarget m₁ e₁ m₂ e₂).toNat) :=
        Nat.pow_le_pow_right (by norm_num) hshift
      _ = 2 ^ m₁.log2 * 2 ^ (e₁ - e₂ - divTarget m₁ e₁ m₂ e₂).toNat := pow_add ..
      _ ≤ m₁ * 2 ^ (e₁ - e₂ - divTarget m₁ e₁ m₂ e₂).toNat := Nat.mul_le_mul_right _ hlow

/-- A quotient that a size covers is rounded to that size. -/
theorem div_eq (hb : b.Canonical) (hv : b.Covers (m₁ * 2 ^ e₁ / (m₂ * 2 ^ e₂)))
    (hm₁ : 0 < m₁) (hm₂ : 0 < m₂) :
    UnpackedFloat.div .binary64 (.finite .positive m₁ e₁ hm₁) (.finite .positive m₂ e₂ hm₂)
      = .finite .positive b.mantissa b.exponent hb.pos := by
  have hlies := lies_div (m₁ <<< (e₁ - e₂ - divTarget m₁ e₁ m₂ e₂).toNat) hm₂
  -- the shifted quotient is the number measured at the exponent of the quotient
  have hscale : ((m₁ <<< (e₁ - e₂ - divTarget m₁ e₁ m₂ e₂).toNat : Nat) : ℚ) / m₂
      = m₁ * 2 ^ e₁ / (m₂ * 2 ^ e₂) / 2 ^ divTarget m₁ e₁ m₂ e₂ := by
    have hpos : (m₂ : ℚ) ≠ 0 := by exact_mod_cast hm₂.ne'
    have hexp : ((e₁ - e₂ - divTarget m₁ e₁ m₂ e₂).toNat : Int)
        = e₁ - e₂ - divTarget m₁ e₁ m₂ e₂ := by
      unfold divTarget
      omega
    rw [Nat.shiftLeft_eq]
    push_cast
    rw [← zpow_natCast, hexp, zpow_sub₀ (by norm_num), zpow_sub₀ (by norm_num)]
    field_simp
  rw [hscale] at hlies
  unfold UnpackedFloat.div
  dsimp only
  rw [divCore_eq]
  exact hv.roundWithAccuracy_eq hb hlies (divTarget_room hm₁ hm₂) .positive

/-! ## Exact doubles -/

/-- The size of a whole number of up to 53 bits. -/
def wholeSize (n : Nat) : Binary :=
  ⟨n * 2 ^ (52 - n.log2), (n.log2 : Int) - 52, n * 2 ^ (52 - n.log2) == 2 ^ 52⟩

theorem wholeSize_full {n : Nat} (hn : 0 < n) (hlt : n < 2 ^ 53) :
    2 ^ 52 ≤ n * 2 ^ (52 - n.log2) := by
  have hlog : n.log2 < 53 := (Nat.log2_lt hn.ne').2 hlt
  calc 2 ^ 52 = 2 ^ n.log2 * 2 ^ (52 - n.log2) := by
        rw [← pow_add]
        congr 1
        omega
    _ ≤ n * 2 ^ (52 - n.log2) := Nat.mul_le_mul_right _ (Nat.log2_self_le hn.ne')

theorem canonical_wholeSize {n : Nat} (hn : 0 < n) (hlt : n < 2 ^ 53) : (wholeSize n).Canonical := by
  have hlog : n.log2 < 53 := (Nat.log2_lt hn.ne').2 hlt
  have hhigh : n < 2 ^ (n.log2 + 1) := Nat.lt_log2_self
  have hfull := wholeSize_full hn hlt
  refine ⟨?_, ?_, ?_, .inl hfull, ?_⟩
  · exact lt_of_lt_of_le (by norm_num) hfull
  · calc n * 2 ^ (52 - n.log2) < 2 ^ (n.log2 + 1) * 2 ^ (52 - n.log2) :=
          Nat.mul_lt_mul_of_pos_right hhigh (by positivity)
      _ = 2 ^ 53 := by
          rw [← pow_add]
          congr 1
          omega
  · show -1074 ≤ (n.log2 : Int) - 52
    omega
  · show (n * 2 ^ (52 - n.log2) == 2 ^ 52) = true
      ↔ n * 2 ^ (52 - n.log2) = 2 ^ 52 ∧ -1074 < (n.log2 : Int) - 52
    rw [beq_iff_eq]
    exact ⟨fun h => ⟨h, by omega⟩, And.left⟩

theorem wholeSize_exponent_le {n : Nat} (hlt : n < 2 ^ 53) : (wholeSize n).exponent ≤ 971 := by
  have hlog : n.log2 < 53 := by
    by_cases hn : n = 0
    · rw [hn]
      decide
    · exact (Nat.log2_lt hn).2 hlt
  show (n.log2 : Int) - 52 ≤ 971
  omega

theorem wholeSize_value {n : Nat} (hn : 0 < n) (hlt : n < 2 ^ 53) :
    ((wholeSize n).mantissa : ℚ) * 2 ^ (wholeSize n).exponent = n := by
  have hlog : n.log2 < 53 := (Nat.log2_lt hn.ne').2 hlt
  have hexp : ((52 - n.log2 : Nat) : Int) = 52 - n.log2 := by omega
  unfold wholeSize
  push_cast
  rw [← zpow_natCast (2 : ℚ) (52 - n.log2), hexp, mul_assoc, ← zpow_add₀ (by norm_num)]
  simp

/-- A size covers its own value. -/
theorem Binary.covers_self (b : Binary) (h : v = b.mantissa * 2 ^ b.exponent) : b.Covers v := by
  have hpos := two_zpow_pos b.exponent
  subst h
  refine ⟨mul_le_mul_of_nonneg_right ?_ hpos.le, mul_le_mul_of_nonneg_right ?_ hpos.le, ?_⟩
  · split <;> linarith
  · linarith
  · rintro (h | h)
    · have := mul_right_cancel₀ hpos.ne' h
      linarith
    · have := mul_right_cancel₀ hpos.ne' h
      linarith

/-- A whole number of up to 53 bits is a double. -/
theorem toFloat_eq {n : Nat} (hn : 0 < n) (hlt : n < 2 ^ 53) :
    n.toUInt64.toFloat = ofSize .positive (wholeSize n) (canonical_wholeSize hn hlt) := by
  have hlog : n.log2 < 53 := (Nat.log2_lt hn.ne').2 hlt
  have hb := canonical_wholeSize hn hlt
  have hword : n.toUInt64.toNat = n := by
    rw [Nat.toUInt64_eq, UInt64.toNat_ofNat']
    omega
  have hcompare : compare (n : Int) 0 = .gt := by
    rw [compare_gt_iff_gt]
    omega
  have htarget : target n 0 = (n.log2 : Int) - 52 := by
    unfold target
    omega
  have hshift : (0 - ((n.log2 : Int) - 52)).toNat = 52 - n.log2 := by omega
  have hlies : Lies (n * 2 ^ (52 - n.log2)) ((n : ℚ) / 2 ^ (0 - ((52 - n.log2 : Nat) : Int)))
      .exact := by
    show _ = _
    rw [zero_sub, zpow_neg, div_inv_eq_mul, zpow_natCast]
    push_cast
    rfl
  -- the conversion shifts to the full length first, so that rounding changes nothing
  have hround : UnpackedFloat.ofNat .binary64 n
      = .finite .positive (wholeSize n).mantissa (wholeSize n).exponent hb.pos := by
    refine Eq.trans ?_ (Binary.Covers.roundWithAccuracy_eq hb
      (Binary.covers_self _ (wholeSize_value hn hlt).symm) hlies (.inr (wholeSize_full hn hlt)) .positive)
    unfold UnpackedFloat.ofNat UnpackedFloat.ofInt UnpackedFloat.normalize UnpackedFloat.round
    simp only [hcompare, Int.toNat_natCast, targetExponent_eq, htarget, decreaseExponent, hshift,
      Nat.shiftLeft_eq]
  show Float.ofModel (.pack (UnpackedFloat.ofNat .binary64 n.toUInt64.toNat)) = _
  rw [hword, hround]
  rfl

def powerOfTen (k : Nat) (hk : k < 23) : Float :=
  getElem Float.exactlyRepresentablePowersOfTen k hk

/-- The powers of ten up to `10^22` are doubles. -/
theorem powerOfTen_exact : ∀ k : Fin 23,
    let x := powerOfTen k.val k.isLt
    isFinite x = true ∧ isNegative x = false ∧ (Binary.ofFloat x).mantissa ≠ 0
      ∧ (Binary.ofFloat x).mantissa * Nat.pow 2 (Binary.ofFloat x).exponent.toNat
        = Nat.pow 10 k * Nat.pow 2 (-(Binary.ofFloat x).exponent).toNat := by
  decide

/-- A power with a whole exponent as a fraction of two powers. -/
theorem zpow_eq_div (c : ℚ) (hc : c ≠ 0) (i : Int) : c ^ i = c ^ i.toNat / c ^ (-i).toNat := by
  rw [← zpow_natCast c i.toNat, ← zpow_natCast c (-i).toNat, ← zpow_sub₀ hc]
  congr 1
  omega

theorem unpack_powerOfTen {k : Nat} (hk : k < 23) :
    ∃ p q hp, (powerOfTen k hk).toModel.unpack = .finite .positive p q hp
      ∧ (p : ℚ) * 2 ^ q = 10 ^ k := by
  have hexact := powerOfTen_exact ⟨k, hk⟩
  simp only at hexact
  generalize powerOfTen k hk = x at hexact ⊢
  obtain ⟨hfinite, hsign, hsize, hvalue⟩ := hexact
  refine ⟨(Binary.ofFloat x).mantissa, (Binary.ofFloat x).exponent, Nat.pos_of_ne_zero hsize, ?_, ?_⟩
  · exact (unpack_ofFloat hfinite hsize).trans (by rw [signOf, hsign]; rfl)
  · rw [zpow_eq_div 2 (by norm_num), mul_div_assoc', div_eq_iff (by positivity)]
    exact_mod_cast hvalue

/-! ## Decimals -/

variable {m : Nat} {x : Float}

theorem shortWay_mul {k : Nat} (hb : b.Canonical) (hv : b.Covers (m * 10 ^ k)) (hm : 0 < m)
    (hlt : m < 2 ^ 53) (hk : k < 23) :
    m.toUInt64.toFloat * powerOfTen k hk = ofSize .positive b hb := by
  obtain ⟨p, q, hp, hunpack, hvalue⟩ := unpack_powerOfTen hk
  have hwhole := canonical_wholeSize hm hlt
  rw [toFloat_eq hm hlt]
  show Float.ofModel (.pack (UnpackedFloat.mul .binary64 _ _)) = _
  rw [unpack_ofSize hwhole (wholeSize_exponent_le hlt), hunpack,
    mul_eq hb (by rw [wholeSize_value hm hlt, hvalue]; exact hv)]
  · rfl
  · exact (wholeSize_full hm hlt).trans (Nat.le_mul_of_pos_right _ hp)

theorem shortWay_div {k : Nat} (hb : b.Canonical) (hv : b.Covers (m / 10 ^ k)) (hm : 0 < m)
    (hlt : m < 2 ^ 53) (hk : k < 23) :
    m.toUInt64.toFloat / powerOfTen k hk = ofSize .positive b hb := by
  obtain ⟨p, q, hp, hunpack, hvalue⟩ := unpack_powerOfTen hk
  have hwhole := canonical_wholeSize hm hlt
  rw [toFloat_eq hm hlt]
  show Float.ofModel (.pack (UnpackedFloat.div .binary64 _ _)) = _
  rw [unpack_ofSize hwhole (wholeSize_exponent_le hlt), hunpack,
    div_eq hb (by rw [wholeSize_value hm hlt, hvalue]; exact hv)]
  rfl

theorem longWay {e : Int} (hb : b.Canonical) (hv : b.Covers (m * 10 ^ e)) (hm : 0 < m)
    (hhigh : e ≤ 2048) (hlow : -(2048 + (m.log2 : Int)) ≤ e) :
    UnpackedFloat.ofScientific .binary64 m e = .finite .positive b.mantissa b.exponent hb.pos := by
  have hbits : (2 : Int) ^ Format.binary64.exponentBits = 2048 := by decide
  unfold UnpackedFloat.ofScientific
  rw [dif_neg hm.ne', hbits, if_neg (by omega), if_neg (by omega)]
  by_cases hwhole : 0 ≤ e
  · rw [if_pos hwhole]
    have hmantissa : Format.binary64.mantissaBits = 53 := by decide
    have hlong : 2 ^ 52 ≤ m <<< 53 := by
      rw [Nat.shiftLeft_eq]
      omega
    refine mul_eq hb ?_ _ _ (hlong.trans (Nat.le_mul_of_pos_right _ (by positivity)))
    have hexp : (10 : ℚ) ^ e.toNat = 10 ^ e := by
      rw [← zpow_natCast, Int.toNat_of_nonneg hwhole]
    -- the long way makes the mantissa long enough and takes the shift back in the exponent
    have hvalue : ((m <<< 53 : Nat) : ℚ) * 2 ^ (-(53 : Nat) : Int) * ((10 ^ e.toNat : Nat) * 2 ^ (0 : Int))
        = m * 10 ^ e := by
      rw [Nat.shiftLeft_eq, zpow_neg, zpow_natCast, zpow_zero]
      push_cast
      rw [hexp]
      ring
    rw [hmantissa, hvalue]
    exact hv
  · rw [if_neg hwhole]
    refine div_eq hb ?_ _ _
    have hexp : (10 : ℚ) ^ e = (10 ^ (-e).toNat)⁻¹ := by
      rw [← zpow_natCast, ← zpow_neg]
      congr 1
      omega
    have hvalue : (m : ℚ) * 2 ^ (0 : Int) / ((10 ^ (-e).toNat : Nat) * 2 ^ (0 : Int)) = m * 10 ^ e := by
      rw [hexp, zpow_zero, mul_one, mul_one, div_eq_mul_inv]
      push_cast
      rfl
    rw [hvalue]
    exact hv

/-- A decimal of the interval of a size is read as the double of that size, on both ways, if no
power of ten grows too large. -/
theorem ofScientific_eq {e : Int} (hb : b.Canonical) (hv : b.Covers (m * 10 ^ e)) (hm : 0 < m)
    (hhigh : e ≤ 2048) (hlow : -(2048 + (m.log2 : Int)) ≤ e) :
    Float.ofScientific m (e < 0) e.natAbs = ofSize .positive b hb := by
  unfold Float.ofScientific
  split
  -- both numbers are exact doubles, and one operation rounds once
  · rename_i hshort
    obtain ⟨hlt, hk⟩ := hshort
    by_cases hnegative : e < 0
    · have hexp : (10 : ℚ) ^ e = (10 ^ e.natAbs)⁻¹ := by
        rw [← zpow_natCast, ← zpow_neg]
        congr 1
        omega
      rw [hexp] at hv
      simp only [decide_eq_true hnegative, if_true]
      exact shortWay_div hb hv hm hlt (by omega)
    · have hexp : (10 : ℚ) ^ e = 10 ^ e.natAbs := by
        rw [← zpow_natCast]
        congr 1
        omega
      rw [hexp] at hv
      simp only [decide_eq_false hnegative, Bool.false_eq_true, if_false]
      exact shortWay_mul hb hv hm hlt (by omega)
  · have hexp : (if decide (e < 0) = true then Int.negOfNat e.natAbs else Int.ofNat e.natAbs) = e := by
      by_cases hnegative : e < 0
      · rw [decide_eq_true hnegative, if_pos rfl, Int.negOfNat_eq]
        show -(e.natAbs : Int) = e
        omega
      · rw [decide_eq_false hnegative, if_neg Bool.false_ne_true]
        show (e.natAbs : Int) = e
        omega
    simp only [hexp]
    show Float.ofModel (.pack (UnpackedFloat.ofScientific .binary64 m e)) = _
    rw [longWay hb hv hm hhigh hlow]
    rfl

/-! ## The bounds -/

theorem Binary.Covers.zpow_le (hb : b.Canonical) (hv : b.Covers v) : (2 : ℚ) ^ (-1075 : Int) ≤ v := by
  refine le_trans ?_ hv.low
  have hm : (1 : ℚ) ≤ b.mantissa := by exact_mod_cast hb.pos
  have hleast : (2 : ℚ) ^ (-1074 : Int) ≤ 2 ^ b.exponent := zpow_le_zpow_right₀ (by norm_num) hb.least
  have hhalf : (1 / 2 : ℚ) ≤ b.mantissa - if b.narrowBelow then 1 / 4 else 1 / 2 := by
    split <;> linarith
  calc (2 : ℚ) ^ (-1075 : Int) = 1 / 2 * 2 ^ (-1074 : Int) := by
        rw [show (-1075 : Int) = -1 + -1074 by norm_num, zpow_add₀ (by norm_num)]
        norm_num
    _ ≤ _ := mul_le_mul hhalf hleast (two_zpow_pos _).le (by linarith)

/-- The number of digits gives the power of ten that a whole number is below. -/
theorem toDigits_bounds (hm : 0 < m) :
    (10 : ℚ) ^ (((Nat.toDigits 10 m).length : Int) - 1) ≤ m
      ∧ (m : ℚ) < 10 ^ ((Nat.toDigits 10 m).length : Int) := by
  have hpos : 0 < (Nat.toDigits 10 m).length := Nat.length_toDigits_pos
  refine ⟨?_, ?_⟩
  · by_cases hone : (Nat.toDigits 10 m).length = 1
    · rw [hone]
      norm_num
      exact hm
    · have hge : ¬ m < 10 ^ ((Nat.toDigits 10 m).length - 1) := fun h => by
        have := (Nat.length_toDigits_le_iff (by norm_num) (by omega)).2 h
        omega
      have hexp : ((Nat.toDigits 10 m).length : Int) - 1 = ((Nat.toDigits 10 m).length - 1 : Nat) := by
        omega
      rw [hexp, zpow_natCast]
      exact_mod_cast Nat.le_of_not_lt hge
  · rw [zpow_natCast]
    exact_mod_cast (Nat.length_toDigits_le_iff (by norm_num) hpos).1 le_rfl

theorem two_zpow_le_ten {i : Int} (h : 0 ≤ i) : (2 : ℚ) ^ (3 * i) ≤ 10 ^ i := by
  rw [zpow_mul]
  exact zpow_le_zpow_left₀ h (by norm_num) (by norm_num)

theorem ten_zpow_le_two {i : Int} (h : i ≤ 0) : (10 : ℚ) ^ i ≤ 2 ^ (3 * i) := by
  have hinv := inv_anti₀ (two_zpow_pos _) (two_zpow_le_ten (i := -i) (by omega))
  rw [← zpow_neg, ← zpow_neg, neg_neg] at hinv
  exact hinv.trans_eq (by congr 1; omega)

/-- The decimal nearest to a double is read as that double. -/
theorem nearest_eq {e : Int} (hb : b.Canonical) (hle : b.exponent ≤ 971)
    (hv : b.Covers (m * 10 ^ e)) : nearest m e = ofSize .positive b hb := by
  have hlow := hv.zpow_le hb
  have hhigh : (m : ℚ) * 10 ^ e < 2 ^ (1024 : Int) :=
    (hv.lt_zpow hb).trans_le (zpow_le_zpow_right₀ (by norm_num) (by omega))
  have hten : (0 : ℚ) < 10 ^ e := zpow_pos (by norm_num) e
  have hm : 0 < m := by
    rcases Nat.eq_zero_or_pos m with rfl | h
    · rw [Nat.cast_zero, zero_mul] at hlow
      exact absurd hlow (not_le.2 (two_zpow_pos _))
    · exact h
  obtain ⟨hdigits, hdigits'⟩ := toDigits_bounds hm
  have hpos : 0 < (Nat.toDigits 10 m).length := Nat.length_toDigits_pos
  -- the early exits for large and small decimals are not taken: the size bounds the digits
  have hlarge : ((Nat.toDigits 10 m).length : Int) + e ≤ 400 := by
    by_contra hlarge
    have hpow : (2 : ℚ) ^ (3 * ((Nat.toDigits 10 m).length - 1 + e)) ≤ m * 10 ^ e := by
      refine (two_zpow_le_ten (by omega)).trans ?_
      rw [zpow_add₀ (by norm_num)]
      exact mul_le_mul_of_nonneg_right hdigits hten.le
    have := lt_of_zpow_lt hpow hhigh
    omega
  have hsmall : -400 ≤ ((Nat.toDigits 10 m).length : Int) + e := by
    by_contra hsmall
    have hpow : (m : ℚ) * 10 ^ e < 2 ^ (3 * ((Nat.toDigits 10 m).length + e)) := by
      refine lt_of_lt_of_le ?_ (ten_zpow_le_two (by omega))
      rw [zpow_add₀ (by norm_num)]
      exact mul_lt_mul_of_pos_right hdigits' hten
    have := lt_of_zpow_lt hlow hpow
    omega
  -- nor does the power of ten grow too large for the mantissa
  have hlog : -(2048 + (m.log2 : Int)) ≤ e := by
    by_contra hlog
    have hpow : (m : ℚ) * 10 ^ e < 2 ^ ((m.log2 + 1 : Nat) + 3 * e) := by
      have hlt : (m : ℚ) < 2 ^ (m.log2 + 1) := by exact_mod_cast Nat.lt_log2_self
      rw [zpow_add₀ (by norm_num), zpow_natCast]
      exact mul_lt_mul hlt (ten_zpow_le_two (by omega)) hten (by positivity)
    have := lt_of_zpow_lt hlow hpow
    omega
  unfold nearest
  rw [if_neg hm.ne', if_neg (by omega), if_neg (by omega)]
  exact ofScientific_eq hb hv hm (by omega) hlog

end FormBuilder.Decimal
