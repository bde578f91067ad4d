/-
Whole numbers and doubles: the whole number next to a size, with a half going up or to the even
neighbour, and the whole numbers that are doubles, which have no more than 53 binary digits from the
first to the last one that is set.
-/
import FormBuilder.Proofs.Decimal.Order

namespace FormBuilder.Decimal

/-! ## Rounding to whole numbers -/

/-- The number lies no further from the whole number than a half, and above it less than that. -/
def RoundsHalfUp (v : ℚ) (n : Nat) : Prop := (n : ℚ) - 1 / 2 ≤ v ∧ v < n + 1 / 2

theorem RoundsHalfUp.eq_of_natCast {m n : Nat} (h : RoundsHalfUp m n) : n = m := by
  have hlow : (n : ℚ) < (m + 1 : Nat) := by
    have := h.1
    push_cast
    linarith
  have hhigh : (m : ℚ) < (n + 1 : Nat) := by
    have := h.2
    push_cast
    linarith
  have hle : n < m + 1 := by exact_mod_cast hlow
  have hge : m < n + 1 := by exact_mod_cast hhigh
  omega

/-- Of a fraction only the halves of the divisor matter. -/
theorem roundsHalfUp_div {m n d : Nat} (hd : 0 < d) (hlow : 2 * (m * d) ≤ 2 * n + d)
    (hhigh : 2 * n < 2 * (m * d) + d) : RoundsHalfUp (n / d) m := by
  have hpos : (0 : ℚ) < d := by exact_mod_cast hd
  have hlow : (2 * (m * d) : ℚ) ≤ 2 * n + d := by exact_mod_cast hlow
  have hhigh : (2 * n : ℚ) < 2 * (m * d) + d := by exact_mod_cast hhigh
  constructor
  · rw [le_div_iff₀ hpos]
    linarith
  · rw [div_lt_iff₀ hpos]
    linarith

theorem nearestTo_div {m n d : Nat} (hd : 0 < d) (hlow : 2 * (m * d) ≤ 2 * n + d)
    (hhigh : 2 * n ≤ 2 * (m * d) + d)
    (heven : 2 * (m * d) = 2 * n + d ∨ 2 * n = 2 * (m * d) + d → m % 2 = 0) : NearestTo m (n / d) := by
  have hpos : (0 : ℚ) < d := by exact_mod_cast hd
  have hlow : (2 * (m * d) : ℚ) ≤ 2 * n + d := by exact_mod_cast hlow
  have hhigh : (2 * n : ℚ) ≤ 2 * (m * d) + d := by exact_mod_cast hhigh
  refine ⟨?_, ?_, fun h => heven ?_⟩
  · rw [le_div_iff₀ hpos]
    linarith
  · rw [div_le_iff₀ hpos]
    linarith
  · rw [div_eq_iff hpos.ne', div_eq_iff hpos.ne'] at h
    refine h.imp (fun h => ?_) fun h => ?_
    · have : (2 * (m * d) : ℚ) = 2 * n + d := by linarith
      exact_mod_cast this
    · have : (2 * n : ℚ) = 2 * (m * d) + d := by linarith
      exact_mod_cast this

namespace Binary

/-- A size as a fraction of whole numbers. -/
theorem size_eq_div (b : Binary) : (b.mantissa : ℚ) * 2 ^ b.exponent
    = (b.mantissa * Nat.pow 2 b.exponent.toNat : Nat) / (Nat.pow 2 b.places : Nat) := by
  rw [zpow_eq_div 2 (by norm_num), mul_div_assoc']
  simp [places]

theorem roundHalfUp_spec (b : Binary) :
    RoundsHalfUp (b.mantissa * 2 ^ b.exponent) b.roundHalfUp := by
  rw [size_eq_div, roundHalfUp]
  have hd : 0 < Nat.pow 2 b.places := Nat.pow_pos (by decide)
  generalize b.mantissa * Nat.pow 2 b.exponent.toNat = n
  generalize Nat.pow 2 b.places = d at hd ⊢
  have hbelow := Nat.div_mul_le_self (2 * n + d) (2 * d)
  have habove := Nat.lt_div_mul_add (a := 2 * n + d) (b := 2 * d) (by omega)
  rw [Nat.mul_left_comm] at hbelow habove
  exact roundsHalfUp_div hd hbelow (by omega)

theorem roundHalfEven_spec (b : Binary) :
    NearestTo b.roundHalfEven (b.mantissa * 2 ^ b.exponent) := by
  rw [size_eq_div, roundHalfEven]
  have hd : 0 < Nat.pow 2 b.places := Nat.pow_pos (by decide)
  generalize b.mantissa * Nat.pow 2 b.exponent.toNat = n
  generalize Nat.pow 2 b.places = d at hd ⊢
  have hsplit := Nat.div_add_mod' n d
  have hrest := Nat.mod_lt n hd
  generalize n / d = k at hsplit ⊢
  generalize n % d = r at hsplit hrest ⊢
  split
  · rename_i hup
    rw [Bool.or_eq_true, Bool.and_eq_true, decide_eq_true_eq, beq_iff_eq, beq_iff_eq] at hup
    have hnext : (k + 1) * d = k * d + d := Nat.succ_mul k d
    refine nearestTo_div hd ?_ ?_ ?_ <;> omega
  · rename_i hdown
    rw [Bool.or_eq_true, Bool.and_eq_true, decide_eq_true_eq, beq_iff_eq, beq_iff_eq] at hdown
    refine nearestTo_div hd ?_ ?_ ?_ <;> omega

end Binary

/-! ## Whole numbers that are doubles -/

variable {x : Float} {n : Nat}

/-- A double as large as a power of two has an exponent to match. -/
theorem le_exponent {k : Int} (h : (2 : ℚ) ^ k ≤ |value x|) : k - 52 ≤ (Binary.ofFloat x).exponent := by
  have hsize : (Binary.ofFloat x).mantissa ≠ 0 := by
    intro hzero
    rw [value_of_zero hzero, abs_zero] at h
    exact absurd h (not_le.2 (two_zpow_pos k))
  have hb := canonical_ofFloat hsize
  have := lt_of_zpow_lt (abs_value x ▸ h) ((Binary.covers_self _ rfl).lt_zpow hb)
  omega

theorem abs_value_eq_natCast (h : 0 ≤ (Binary.ofFloat x).exponent) :
    |value x| = ((Binary.ofFloat x).mantissa * 2 ^ (Binary.ofFloat x).exponent.toNat : Nat) := by
  have hpow : (2 : ℚ) ^ (Binary.ofFloat x).exponent = 2 ^ (Binary.ofFloat x).exponent.toNat := by
    rw [← zpow_natCast, Int.toNat_of_nonneg h]
  rw [abs_value, hpow]
  push_cast
  rfl

/-- Of the binary digits of a double no more than 53 count. -/
theorem dvd_of_value_eq (h : value x = n) : 2 ^ (n.log2 - 52) ∣ n := by
  by_cases hshort : n.log2 ≤ 52
  · rw [Nat.sub_eq_zero_of_le hshort]
    exact one_dvd n
  · have hn : n ≠ 0 := by
      rintro rfl
      exact hshort (by decide)
    have habs : |value x| = n := by
      rw [h]
      exact abs_of_nonneg (Nat.cast_nonneg n)
    have hlow : (2 : ℚ) ^ (n.log2 : Int) ≤ |value x| := by
      rw [habs]
      exact_mod_cast Nat.log2_self_le hn
    -- the mantissa has at most 53 bits, so what is left of the number is a power of two
    have hexponent := le_exponent hlow
    have hwhole := (abs_value_eq_natCast (x := x) (by omega)).symm.trans habs
    have hwhole : (Binary.ofFloat x).mantissa * 2 ^ (Binary.ofFloat x).exponent.toNat = n := by
      exact_mod_cast hwhole
    rw [← hwhole]
    refine Dvd.dvd.mul_left (pow_dvd_pow 2 ?_) _
    rw [hwhole]
    omega

/-- Whole numbers without more than 53 binary digits that count are doubles. -/
theorem exists_value_eq (hlt : n < 2 ^ 64) (h : 2 ^ (n.log2 - 52) ∣ n) :
    ∃ y, isFinite y = true ∧ value y = n := by
  rcases Nat.eq_zero_or_pos n with rfl | hn
  · exact ⟨0.0, by decide, by simp⟩
  by_cases hshort : n < 2 ^ 53
  · have hb := canonical_wholeSize hn hshort
    have hle := wholeSize_exponent_le hshort
    exact ⟨ofSize .positive _ hb, isFinite_ofSize hb hle .positive,
      (value_ofSize hb hle).trans (wholeSize_value hn hshort)⟩
  · obtain ⟨q, hq⟩ := h
    have hlong : 53 ≤ n.log2 := (Nat.le_log2 hn.ne').2 (Nat.le_of_not_lt hshort)
    have hlog : n.log2 < 64 := (Nat.log2_lt hn.ne').2 hlt
    obtain ⟨k, hk⟩ : ∃ k, k = n.log2 - 52 := ⟨_, rfl⟩
    have hpow : 0 < 2 ^ k := by positivity
    -- without the zeros at the end the number is of full length
    have hfull : 2 ^ 52 ≤ q := by
      refine Nat.le_of_mul_le_mul_left ?_ hpow
      rw [← pow_add, hk, ← hq, show n.log2 - 52 + 52 = n.log2 by omega]
      exact Nat.log2_self_le hn.ne'
    have hbelow : q < 2 ^ 53 := by
      refine Nat.lt_of_mul_lt_mul_left (a := 2 ^ k) ?_
      rw [← pow_add, hk, ← hq, show n.log2 - 52 + 53 = n.log2 + 1 by omega]
      exact Nat.lt_log2_self
    have hb := canonical_mk (e := k) (by omega) hbelow (by omega) (.inl hfull)
    have hle : (k : Int) ≤ 971 := by omega
    refine ⟨ofSize .positive _ hb, isFinite_ofSize hb hle .positive, (value_ofSize hb hle).trans ?_⟩
    rw [← hk] at hq
    show (q : ℚ) * 2 ^ (k : Int) = n
    rw [hq, zpow_natCast]
    push_cast
    ring

/-- A whole number is rounded to a whole number. -/
theorem Closest.exists_natCast (h : Closest x n) : ∃ m : Nat, value x = m := by
  by_cases hshort : n < 2 ^ 53
  · have hdvd : 2 ^ (n.log2 - 52) ∣ n := by
      rcases Nat.eq_zero_or_pos n with rfl | hn
      · exact dvd_zero _
      · have hlog : n.log2 < 53 := (Nat.log2_lt hn.ne').2 hshort
        rw [Nat.sub_eq_zero_of_le (by omega)]
        exact one_dvd n
    obtain ⟨y, hy, hvalue⟩ := exists_value_eq (hshort.trans (by norm_num)) hdvd
    exact ⟨n, h.value_eq hy hvalue⟩
  · -- from here on doubles are whole numbers
    obtain ⟨y, hy, hvalue⟩ := exists_value_eq (n := 2 ^ 53) (by norm_num) (by decide +kernel)
    have hge : (2 : ℚ) ^ (53 : Int) ≤ value x := by
      have hle : value y ≤ n := by
        rw [hvalue]
        exact_mod_cast Nat.le_of_not_lt hshort
      refine le_trans (le_of_eq ?_) (h.le_value hy hle)
      rw [hvalue]
      norm_num
    have hpos : 0 ≤ value x := (two_zpow_pos 53).le.trans hge
    have hexponent := le_exponent (hge.trans (le_abs_self _))
    rw [← abs_of_nonneg hpos]
    exact ⟨_, abs_value_eq_natCast (by omega)⟩

end FormBuilder.Decimal
