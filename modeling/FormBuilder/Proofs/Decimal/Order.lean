/-
The order of finite doubles is that of the numbers they are: exponents are compared first, since a larger
one is that of a larger size, and mantissas after that.
-/
import FormBuilder.Proofs.Decimal.Closest

namespace FormBuilder.Decimal

open Float.Model Float.Model.UnpackedFloat

/-! ## Sizes -/

namespace Binary

variable {b c : Binary}

theorem Canonical.size_pos (hb : b.Canonical) : (0 : ℚ) < b.mantissa * 2 ^ b.exponent :=
  mul_pos (by exact_mod_cast hb.pos) (two_zpow_pos _)

/-- Of two sizes the one of the larger exponent is larger. -/
theorem Canonical.lt_of_exponent_lt (hb : b.Canonical) (hc : c.Canonical)
    (h : b.exponent < c.exponent) :
    (b.mantissa : ℚ) * 2 ^ b.exponent < c.mantissa * 2 ^ c.exponent := by
  have hleast := hb.least
  have hfull : 2 ^ 52 ≤ c.mantissa := hc.full.resolve_right (by omega)
  have hbelow : (b.mantissa : ℚ) < 2 ^ (53 : Int) := by exact_mod_cast hb.lt
  have habove : (2 : ℚ) ^ (52 : Int) ≤ c.mantissa := by exact_mod_cast hfull
  calc (b.mantissa : ℚ) * 2 ^ b.exponent
      < 2 ^ (53 : Int) * 2 ^ b.exponent := mul_lt_mul_of_pos_right hbelow (two_zpow_pos _)
    _ = 2 ^ (53 + b.exponent) := (zpow_add₀ (by norm_num) ..).symm
    _ ≤ 2 ^ (52 + c.exponent) := zpow_le_zpow_right₀ (by norm_num) (by omega)
    _ = 2 ^ (52 : Int) * 2 ^ c.exponent := zpow_add₀ (by norm_num) ..
    _ ≤ c.mantissa * 2 ^ c.exponent := mul_le_mul_of_nonneg_right habove (two_zpow_pos _).le

/-- Sizes are compared by their exponents, and those of one exponent by their mantissas. -/
theorem Canonical.compare_eq (hb : b.Canonical) (hc : c.Canonical) :
    (compare b.exponent c.exponent).then (compare b.mantissa c.mantissa)
      = compare ((b.mantissa : ℚ) * 2 ^ b.exponent) (c.mantissa * 2 ^ c.exponent) := by
  -- a greater exponent decides; the mantissas count where the exponents are equal
  rcases lt_trichotomy b.exponent c.exponent with h | h | h
  · rw [compare_lt_iff_lt.2 h, compare_lt_iff_lt.2 (hb.lt_of_exponent_lt hc h)]
    rfl
  · have hpos := two_zpow_pos c.exponent
    rw [h, Std.ReflOrd.compare_self]
    show compare b.mantissa c.mantissa = _
    rcases lt_trichotomy b.mantissa c.mantissa with hm | hm | hm
    · have hlt : (b.mantissa : ℚ) < c.mantissa := by exact_mod_cast hm
      rw [compare_lt_iff_lt.2 hm, compare_lt_iff_lt.2 (mul_lt_mul_of_pos_right hlt hpos)]
    · rw [hm, compare_eq_iff_eq.2 rfl, compare_eq_iff_eq.2 rfl]
    · have hlt : (c.mantissa : ℚ) < b.mantissa := by exact_mod_cast hm
      rw [compare_gt_iff_gt.2 hm, compare_gt_iff_gt.2 (mul_lt_mul_of_pos_right hlt hpos)]
  · rw [compare_gt_iff_gt.2 h, compare_gt_iff_gt.2 (hc.lt_of_exponent_lt hb h)]
    rfl

end Binary

/-! ## Doubles -/

/-- A finite double, unpacked, and the number that it is. -/
inductive Unpacks : UnpackedFloat → ℚ → Prop
  | zero (s : Sign) : Unpacks (.zero s) 0
  | positive {b : Binary} (hb : b.Canonical) :
    Unpacks (.finite .positive b.mantissa b.exponent hb.pos) (b.mantissa * 2 ^ b.exponent)
  | negative {b : Binary} (hb : b.Canonical) :
    Unpacks (.finite .negative b.mantissa b.exponent hb.pos) (-(b.mantissa * 2 ^ b.exponent))

variable {x y : Float}

theorem unpack_zero (h : (Binary.ofFloat x).mantissa = 0) : x.toModel.unpack = .zero (signOf x) := by
  have hx := pack_zero h
  generalize signOf x = s at hx ⊢
  subst hx
  cases s <;> rfl

theorem value_of_zero (h : (Binary.ofFloat x).mantissa = 0) : value x = 0 := by
  rw [value, h, Nat.cast_zero, zero_mul, mul_zero]

@[simp] theorem value_zero : value 0.0 = 0 := value_of_zero (by decide)

theorem unpacks_of_isFinite (h : isFinite x = true) : Unpacks x.toModel.unpack (value x) := by
  by_cases hzero : (Binary.ofFloat x).mantissa = 0
  · rw [unpack_zero hzero, value_of_zero hzero]
    exact .zero _
  · have hb := canonical_ofFloat hzero
    rw [unpack_ofFloat h hzero, signOf, value]
    cases isNegative x with
    | true =>
      rw [if_pos rfl, if_pos rfl, neg_one_mul]
      exact .negative hb
    | false =>
      rw [if_neg Bool.false_ne_true, if_neg Bool.false_ne_true, one_mul]
      exact .positive hb

theorem swap_compare (p q : ℚ) : (compare p q).swap = compare (-p) (-q) := by
  rw [← Std.OrientedOrd.eq_swap]
  rcases lt_trichotomy q p with h | h | h
  · rw [compare_lt_iff_lt.2 h, compare_lt_iff_lt.2 (neg_lt_neg h)]
  · rw [compare_eq_iff_eq.2 h, compare_eq_iff_eq.2 (neg_inj.2 h.symm)]
  · rw [compare_gt_iff_gt.2 h, compare_gt_iff_gt.2 (neg_lt_neg h)]

theorem Unpacks.compare_eq {u v : UnpackedFloat} {p q : ℚ} (hu : Unpacks u p) (hv : Unpacks v q) :
    u.compare v = some (compare p q) := by
  cases hu with
  | zero s =>
    cases hv with
    | zero t => exact congrArg some (compare_eq_iff_eq.2 rfl).symm
    | positive hc => exact congrArg some (compare_lt_iff_lt.2 hc.size_pos).symm
    | negative hc => exact congrArg some (compare_gt_iff_gt.2 (neg_lt_zero.2 hc.size_pos)).symm
  | positive hb =>
    cases hv with
    | zero t => exact congrArg some (compare_gt_iff_gt.2 hb.size_pos).symm
    | positive hc => exact congrArg some (hb.compare_eq hc)
    | negative hc =>
      exact congrArg some (compare_gt_iff_gt.2 ((neg_lt_zero.2 hc.size_pos).trans hb.size_pos)).symm
  | negative hb =>
    cases hv with
    | zero t => exact congrArg some (compare_lt_iff_lt.2 (neg_lt_zero.2 hb.size_pos)).symm
    | positive hc =>
      exact congrArg some (compare_lt_iff_lt.2 ((neg_lt_zero.2 hb.size_pos).trans hc.size_pos)).symm
    | negative hc =>
      refine congrArg some ?_
      rw [hb.compare_eq hc, swap_compare]

theorem lt_iff_compare : x < y ↔ x.toModel.unpack.compare y.toModel.unpack = some .lt := by
  show decide (x.toModel < y.toModel) = true ↔ _
  rw [decide_eq_true_iff]
  show (x.toModel.unpack.compare y.toModel.unpack == some .lt) = true ↔ _
  exact beq_iff_eq

/-- A finite double is less than another if it is the lesser number. -/
theorem lt_iff_value_lt (hx : isFinite x = true) (hy : isFinite y = true) :
    x < y ↔ value x < value y := by
  rw [lt_iff_compare, (unpacks_of_isFinite hx).compare_eq (unpacks_of_isFinite hy), Option.some.injEq,
    compare_lt_iff_lt]

/-! ## Sizes of doubles -/

theorem abs_value (x : Float) :
    |value x| = (Binary.ofFloat x).mantissa * 2 ^ (Binary.ofFloat x).exponent := by
  have hsize : (0 : ℚ) ≤ (Binary.ofFloat x).mantissa * 2 ^ (Binary.ofFloat x).exponent :=
    mul_nonneg (Nat.cast_nonneg _) (two_zpow_pos _).le
  unfold value
  cases isNegative x with
  | true => rw [if_pos rfl, neg_one_mul, abs_neg, abs_of_nonneg hsize]
  | false => rw [if_neg Bool.false_ne_true, one_mul, abs_of_nonneg hsize]

theorem magnitude_of_zero (h : (Binary.ofFloat x).mantissa = 0) : magnitude x = 0.0 := by
  have hx := pack_zero h
  have hsign : signOf x = if isNegative x then .negative else .positive := rfl
  unfold magnitude
  rw [hsign] at hx
  generalize isNegative x = negative at hx ⊢
  subst hx
  cases negative <;> decide

theorem magnitude_eq_ofSize (h : isFinite x = true) (hsize : (Binary.ofFloat x).mantissa ≠ 0) :
    magnitude x = ofSize .positive (Binary.ofFloat x) (canonical_ofFloat hsize) := by
  have hback := ofSize_ofFloat h hsize
  unfold magnitude
  cases hsign : isNegative x with
  | true =>
    rw [if_pos rfl]
    show Float.ofModel (.pack x.toModel.unpack.neg) = _
    rw [unpack_ofFloat h hsize, signOf, hsign]
    rfl
  | false =>
    have hpositive : signOf x = .positive := by
      rw [signOf, hsign]
      rfl
    rw [hpositive] at hback
    rw [if_neg Bool.false_ne_true]
    exact hback.symm

theorem isFinite_magnitude (h : isFinite x = true) : isFinite (magnitude x) = true :=
  isFinite_withSign h (isNegative x)

theorem value_magnitude (h : isFinite x = true) : value (magnitude x) = |value x| := by
  rw [abs_value]
  by_cases hsize : (Binary.ofFloat x).mantissa = 0
  · rw [magnitude_of_zero hsize, hsize, Nat.cast_zero, zero_mul, value_zero]
  · rw [magnitude_eq_ofSize h hsize, value_ofSize _ (exponent_ofFloat_le h)]

end FormBuilder.Decimal
