/-
The double closest to a number: the size whose interval holds the number lies no farther from it
than any other finite double, and of two that lie as far it has the even mantissa.
-/
import FormBuilder.Proofs.Decimal.Whole

namespace FormBuilder.Decimal

/-- The number that a finite double is. -/
def value (x : Float) : ℚ :=
  (if isNegative x then -1 else 1) * ((Binary.ofFloat x).mantissa * 2 ^ (Binary.ofFloat x).exponent)

/-- The finite double that a number is rounded to: none is closer to the number, and where another
one is as close, the mantissa is even. -/
structure Closest (x : Float) (v : ℚ) : Prop where
  finite : isFinite x = true
  le : ∀ y, isFinite y = true → |value x - v| ≤ |value y - v|
  even : ∀ y, isFinite y = true → value y ≠ value x → |value x - v| = |value y - v| →
    (Binary.ofFloat x).mantissa % 2 = 0

namespace Closest

variable {x y : Float} {v : ℚ}

/-- Rounding does not pass a double. -/
theorem value_le (h : Closest x v) (hy : isFinite y = true) (hv : v ≤ value y) : value x ≤ value y := by
  have hle := h.le y hy
  rw [abs_of_nonneg (sub_nonneg.2 hv)] at hle
  have := le_abs_self (value x - v)
  linarith

theorem le_value (h : Closest x v) (hy : isFinite y = true) (hv : value y ≤ v) : value y ≤ value x := by
  have hle := h.le y hy
  rw [abs_of_nonpos (sub_nonpos.2 hv)] at hle
  have := neg_abs_le (value x - v)
  linarith

/-- A number that a double stands for is not rounded. -/
theorem value_eq (h : Closest x v) (hy : isFinite y = true) (hv : value y = v) : value x = v :=
  le_antisymm ((h.value_le hy hv.ge).trans hv.le) (hv.ge.trans (h.le_value hy hv.le))

end Closest

/-! ## The neighbours of a size -/

namespace Binary

variable {b c : Binary}

/-- The distance to the next smaller size, in units of the last place. -/
def stepDown (b : Binary) : ℚ := if b.narrowBelow then 1 / 2 else 1

theorem stepDown_le (b : Binary) : b.stepDown ≤ 1 := by
  unfold stepDown
  split <;> norm_num

theorem stepDown_pos (b : Binary) : 0 < b.stepDown := by
  unfold stepDown
  split <;> norm_num

/-- A size whose units are no smaller is a whole number of units of the last place. -/
theorem separated_of_le (hle : b.exponent ≤ c.exponent) :
    (c.mantissa : ℚ) * 2 ^ c.exponent = b.mantissa * 2 ^ b.exponent
      ∨ (b.mantissa + 1 : ℚ) * 2 ^ b.exponent ≤ c.mantissa * 2 ^ c.exponent
      ∨ (c.mantissa : ℚ) * 2 ^ c.exponent ≤ (b.mantissa - b.stepDown) * 2 ^ b.exponent := by
  have hpos := two_zpow_pos b.exponent
  obtain ⟨k, hk⟩ := Int.le.dest hle
  have hvalue : (c.mantissa : ℚ) * 2 ^ c.exponent
      = (c.mantissa * 2 ^ k : Nat) * 2 ^ b.exponent := by
    rw [← hk, zpow_add₀ (by norm_num), zpow_natCast]
    push_cast
    ring
  rw [hvalue]
  generalize c.mantissa * 2 ^ k = n
  rcases lt_trichotomy n b.mantissa with hlt | rfl | hlt
  · have hn : (n : ℚ) + 1 ≤ b.mantissa := by exact_mod_cast hlt
    have := b.stepDown_le
    exact .inr (.inr (mul_le_mul_of_nonneg_right (by linarith) hpos.le))
  · exact .inl rfl
  · have hn : (b.mantissa : ℚ) + 1 ≤ n := by exact_mod_cast hlt
    exact .inr (.inl (mul_le_mul_of_nonneg_right hn hpos.le))

/-- The mantissa of the next smaller size is at least the largest one, in units twice as large. -/
theorem Canonical.le_sub_stepDown (hb : b.Canonical) (hfull : 2 ^ 52 ≤ b.mantissa)
    (hleast : -1074 < b.exponent) : (2 ^ 52 - 1 / 2 : ℚ) ≤ b.mantissa - b.stepDown := by
  have hnarrow := hb.narrow
  unfold stepDown
  by_cases hpower : b.mantissa = 2 ^ 52
  · rw [if_pos (hnarrow.2 ⟨hpower, hleast⟩), hpower]
    norm_num
  · have hlt : (2 : ℚ) ^ 52 + 1 ≤ b.mantissa := by
      exact_mod_cast Nat.lt_of_le_of_ne hfull (Ne.symm hpower)
    split <;> linarith

/-- A size with smaller units has no more of them than fit below the mantissa. -/
theorem Canonical.le_of_exponent_lt (hb : b.Canonical) (hc : c.Canonical)
    (hlt : c.exponent < b.exponent) :
    (c.mantissa : ℚ) * 2 ^ c.exponent ≤ (b.mantissa - b.stepDown) * 2 ^ b.exponent := by
  have hleast := hc.least
  have hfull : 2 ^ 52 ≤ b.mantissa := hb.full.resolve_right (by omega)
  have hc53 : (c.mantissa : ℚ) ≤ 2 ^ 53 - 1 := by
    have : (c.mantissa : ℚ) + 1 ≤ 2 ^ 53 := by exact_mod_cast hc.lt
    linarith
  have hhalf : (2 : ℚ) ^ c.exponent ≤ 2 ^ b.exponent / 2 := by
    have hpow : (2 : ℚ) ^ (b.exponent - 1) = 2 ^ b.exponent / 2 := by
      rw [zpow_sub₀ (by norm_num), zpow_one]
    rw [← hpow]
    exact zpow_le_zpow_right₀ (by norm_num) (by omega)
  calc (c.mantissa : ℚ) * 2 ^ c.exponent ≤ (2 ^ 53 - 1) * (2 ^ b.exponent / 2) :=
        mul_le_mul hc53 hhalf (two_zpow_pos _).le (by norm_num)
    _ = (2 ^ 52 - 1 / 2) * 2 ^ b.exponent := by ring
    _ ≤ _ := mul_le_mul_of_nonneg_right (hb.le_sub_stepDown hfull (by omega)) (two_zpow_pos _).le

/-- Between a size and the two next to it there is no other. -/
theorem Canonical.separated (hb : b.Canonical) (hc : c.Canonical) :
    (c.mantissa : ℚ) * 2 ^ c.exponent = b.mantissa * 2 ^ b.exponent
      ∨ (b.mantissa + 1 : ℚ) * 2 ^ b.exponent ≤ c.mantissa * 2 ^ c.exponent
      ∨ (c.mantissa : ℚ) * 2 ^ c.exponent ≤ (b.mantissa - b.stepDown) * 2 ^ b.exponent := by
  rcases le_or_gt b.exponent c.exponent with hle | hlt
  · exact separated_of_le hle
  · exact .inr (.inr (hb.le_of_exponent_lt hc hlt))

theorem Canonical.separated_value (hb : b.Canonical) {y : Float} :
    value y = b.mantissa * 2 ^ b.exponent
      ∨ (b.mantissa + 1 : ℚ) * 2 ^ b.exponent ≤ value y
      ∨ value y ≤ (b.mantissa - b.stepDown) * 2 ^ b.exponent := by
  have hpos := two_zpow_pos b.exponent
  have hm : (1 : ℚ) ≤ b.mantissa := by exact_mod_cast hb.pos
  by_cases hbelow : value y ≤ 0
  · have := b.stepDown_le
    exact .inr (.inr (hbelow.trans (mul_nonneg (by linarith) hpos.le)))
  -- a double above zero is a size
  have hsize := mul_nonneg (Nat.cast_nonneg (Binary.ofFloat y).mantissa)
    (two_zpow_pos (Binary.ofFloat y).exponent).le
  unfold value at hbelow ⊢
  cases hsign : isNegative y with
  | true =>
    rw [hsign, if_pos rfl] at hbelow
    exact absurd (by linarith) hbelow
  | false =>
    rw [hsign, if_neg Bool.false_ne_true, one_mul] at hbelow
    rw [if_neg Bool.false_ne_true, one_mul]
    refine hb.separated (canonical_ofFloat fun hzero => hbelow ?_)
    rw [hzero, Nat.cast_zero, zero_mul]

end Binary

/-! ## The closest double -/

section Closest

variable {b : Binary} {v : ℚ}

theorem value_ofSize (hb : b.Canonical) (hle : b.exponent ≤ 971) :
    value (ofSize .positive b hb) = b.mantissa * 2 ^ b.exponent := by
  have hsign : isNegative (ofSize .positive b hb) = false := by
    have hbits := (bits_ofSize hb hle .positive).1
    unfold signOf at hbits
    split at hbits
    · cases hbits
    · rwa [← Bool.not_eq_true]
  unfold value
  rw [hsign, ofFloat_ofSize hb hle, if_neg Bool.false_ne_true, one_mul]

/-- The interval below a size reaches half way down. -/
theorem Binary.Covers.low_step (hv : b.Covers v) :
    (b.mantissa - b.stepDown / 2) * 2 ^ b.exponent ≤ v := by
  have hlow := hv.low
  unfold stepDown
  split at hlow
  · rwa [if_pos ‹_›, show (1 / 2 / 2 : ℚ) = 1 / 4 by norm_num]
  · rwa [if_neg ‹_›]

/-- A number at the lower end of the interval is covered for an even mantissa only. -/
theorem Binary.Covers.even_of_low (hb : b.Canonical) (hv : b.Covers v)
    (h : v = (b.mantissa - b.stepDown / 2) * 2 ^ b.exponent) : b.mantissa % 2 = 0 := by
  unfold stepDown at h
  cases hnarrow : b.narrowBelow with
  | true =>
    -- the mantissa is a power of two
    have := (hb.narrow.1 hnarrow).1
    omega
  | false =>
    rw [hnarrow, if_neg Bool.false_ne_true] at h
    exact hv.ends (.inl h)

/-- A size that covers a number lies no farther from it than what is at its neighbours or beyond,
and only with an even mantissa as far. -/
theorem Binary.Covers.dist (hb : b.Canonical) (hv : b.Covers v) {w : ℚ}
    (hw : (b.mantissa + 1 : ℚ) * 2 ^ b.exponent ≤ w
      ∨ w ≤ (b.mantissa - b.stepDown) * 2 ^ b.exponent) :
    |b.mantissa * 2 ^ b.exponent - v| ≤ |w - v|
      ∧ (|b.mantissa * 2 ^ b.exponent - v| = |w - v| → b.mantissa % 2 = 0) := by
  have hlow := hv.low_step
  have hhigh := hv.high
  have heven := hv.even_of_low hb
  have hends := hv.ends
  have hstep := mul_pos b.stepDown_pos (two_zpow_pos b.exponent)
  have hpos := two_zpow_pos b.exponent
  -- in units of the last place all of this is linear
  generalize (2 : ℚ) ^ b.exponent = u at *
  rcases hw with hw | hw
  · have hfar : |w - v| = w - v := abs_of_nonneg (by linarith)
    rw [hfar]
    rcases le_total v (b.mantissa * u) with h | h
    · rw [abs_of_nonneg (by linarith)]
      exact ⟨by linarith, fun heq => by linarith⟩
    · rw [abs_of_nonpos (by linarith)]
      exact ⟨by linarith, fun heq => hends (.inr (by linarith))⟩
  · have hfar : |w - v| = v - w := by
      rw [abs_of_nonpos (by linarith), neg_sub]
    rw [hfar]
    rcases le_total v (b.mantissa * u) with h | h
    · rw [abs_of_nonneg (by linarith)]
      exact ⟨by linarith, fun heq => heven (by linarith)⟩
    · rw [abs_of_nonpos (by linarith)]
      exact ⟨by linarith, fun heq => by linarith⟩

/-- The double of a size is the closest one to every number that the size covers. -/
theorem Binary.Covers.closest (hb : b.Canonical) (hle : b.exponent ≤ 971) (hv : b.Covers v) :
    Closest (ofSize .positive b hb) v := by
  have hvalue := value_ofSize hb hle
  refine ⟨isFinite_ofSize hb hle .positive, fun y _ => ?_, fun y _ hne heq => ?_⟩
  · rw [hvalue]
    rcases hb.separated_value (y := y) with hsame | hother
    · rw [hsame]
    · exact (hv.dist hb hother).1
  · rw [hvalue] at hne heq
    rw [ofFloat_ofSize hb hle]
    exact (hv.dist hb (hb.separated_value.resolve_left hne)).2 heq

/-- A whole number of up to 64 bits is taken for the double closest to it. -/
theorem closest_ofNat {n : Nat} (h : n < 2 ^ 64) : Closest (Float.ofNat n) n := by
  rcases Nat.eq_zero_or_pos n with rfl | hn
  · have hzero : value (Float.ofNat 0) = 0 := by
      have hsize : (Binary.ofFloat (Float.ofNat 0)).mantissa = 0 := by decide
      rw [value, hsize, Nat.cast_zero, zero_mul, mul_zero]
    refine ⟨by decide, fun y _ => ?_, fun y _ _ _ => by decide⟩
    rw [hzero, Nat.cast_zero, sub_zero, abs_zero]
    exact abs_nonneg _
  · obtain ⟨b, hb, hle, hcovers⟩ := exists_covers_natCast hn h
    rw [ofNat_eq_ofSize hn hb hcovers]
    exact hcovers.closest hb hle

end Closest

end FormBuilder.Decimal
