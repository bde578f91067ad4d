/-
Every number of the range of doubles lies in the interval of some size: it is measured in the units of
the last place that its binary logarithm gives, and the whole number of units next to it is the mantissa.
-/
import Mathlib.Data.Int.Log
import Mathlib.Data.Rat.Floor
import FormBuilder.Proofs.Decimal.Rounding

namespace FormBuilder.Decimal

variable {v : ℚ} {q : Nat} {e : Int}

/-! ## The sizes next to a number -/

/-- The size at or below a number. -/
theorem covers_down {narrowBelow : Bool} (hlow : q * 2 ^ e ≤ v) (hhigh : v ≤ (q + 1 / 2) * 2 ^ e)
    (hhalf : v = (q + 1 / 2) * 2 ^ e → q % 2 = 0) : (⟨q, e, narrowBelow⟩ : Binary).Covers v := by
  have hpos := two_zpow_pos e
  refine ⟨?_, hhigh, ?_⟩
  · refine le_trans (mul_le_mul_of_nonneg_right ?_ hpos.le) hlow
    split <;> linarith
  · rintro (h | h)
    · dsimp only at h
      linarith
    · exact hhalf h

/-- The size above a number. -/
theorem covers_up (hlow : (q + 1 / 2) * 2 ^ e ≤ v) (hhigh : v < (q + 1) * 2 ^ e)
    (hhalf : v = (q + 1 / 2) * 2 ^ e → q % 2 = 1) : (⟨q + 1, e, false⟩ : Binary).Covers v := by
  have hpos := two_zpow_pos e
  refine ⟨?_, ?_, ?_⟩ <;> simp only [Bool.false_eq_true, if_false] <;> push_cast
  · linarith
  · linarith
  · rintro (h | h)
    · have hodd := hhalf (by linarith)
      omega
    · linarith

/-- The size above a number of the largest mantissa, which has a larger exponent. -/
theorem covers_carry (hlow : (q + 1 / 2) * 2 ^ e ≤ v) (hhigh : v < (q + 1) * 2 ^ e)
    (hfull : q + 1 = 2 ^ 53) : (⟨2 ^ 52, e + 1, true⟩ : Binary).Covers v := by
  have hpos := two_zpow_pos e
  have hq : (q : ℚ) = 2 ^ 53 - 1 := by
    have : (q : ℚ) + 1 = 2 ^ 53 := by exact_mod_cast hfull
    linarith
  have hdouble : (2 : ℚ) ^ (e + 1) = 2 * 2 ^ e := by
    rw [zpow_add_one₀ (by norm_num), mul_comm]
  rw [hq] at hlow hhigh
  refine ⟨?_, ?_, fun _ => by norm_num⟩
  · simp only [if_true, hdouble]
    push_cast
    linarith
  · simp only [hdouble]
    push_cast
    linarith

/-- A mantissa with an exponent, if one of them is as small or as large as it has to be. -/
theorem canonical_mk {m : Nat} (hpos : 0 < m) (hlt : m < 2 ^ 53) (hleast : -1074 ≤ e)
    (hfull : 2 ^ 52 ≤ m ∨ e = -1074) : (⟨m, e, m == 2 ^ 52 && decide (-1074 < e)⟩ : Binary).Canonical :=
  ⟨hpos, hlt, hleast, hfull, by rw [Bool.and_eq_true, beq_iff_eq, decide_eq_true_eq]⟩

/-! ## Existence -/

/-- In units of the last place a number has 53 binary digits, or fewer with the least exponent. -/
theorem exists_units (hlow : (2 : ℚ) ^ (-1074 : Int) ≤ v) (hhigh : v < 2 ^ (1023 : Int)) :
    ∃ (q : Nat) (e : Int), q * 2 ^ e ≤ v ∧ v < (q + 1) * 2 ^ e ∧ 0 < q ∧ q < 2 ^ 53 ∧
      -1074 ≤ e ∧ e ≤ 970 ∧ (2 ^ 52 ≤ q ∨ e = -1074) := by
  have hv : 0 < v := (two_zpow_pos _).trans_le hlow
  obtain ⟨l, hl⟩ : ∃ l, l = Int.log 2 v := ⟨_, rfl⟩
  have hself : (2 : ℚ) ^ l ≤ v := by
    rw [hl]
    exact_mod_cast Int.zpow_log_le_self (by norm_num) hv
  have hsucc : v < (2 : ℚ) ^ (l + 1) := by
    rw [hl]
    exact_mod_cast Int.lt_zpow_succ_log_self (by norm_num) v
  have hl1023 : l < 1023 := (zpow_lt_zpow_iff_right₀ (by norm_num)).1 (hself.trans_lt hhigh)
  obtain ⟨e, he⟩ : ∃ e, e = max (l - 52) (-1074) := ⟨_, rfl⟩
  have hpos := two_zpow_pos e
  -- bounds of the number of units, each from a bound of the number
  have hone : 1 ≤ v / 2 ^ e := by
    rw [le_div_iff₀ hpos, one_mul]
    rcases max_cases (l - 52) (-1074) with ⟨h, -⟩ | ⟨h, -⟩
    · exact (zpow_le_zpow_right₀ (by norm_num) (by omega)).trans hself
    · rwa [he, h]
  have hlt : v / 2 ^ e < (2 ^ 53 : Nat) := by
    rw [div_lt_iff₀ hpos]
    refine hsucc.trans_le ?_
    have hpow : ((2 ^ 53 : Nat) : ℚ) = 2 ^ (53 : Int) := by norm_num
    rw [hpow, ← zpow_add₀ (by norm_num)]
    exact zpow_le_zpow_right₀ (by norm_num) (by omega)
  have hfull : ((2 ^ 52 : Nat) : ℚ) ≤ v / 2 ^ e ∨ e = -1074 := by
    rcases max_cases (l - 52) (-1074) with ⟨h, -⟩ | ⟨h, -⟩
    · refine .inl ?_
      have hpow : ((2 ^ 52 : Nat) : ℚ) = 2 ^ (52 : Int) := by norm_num
      rw [le_div_iff₀ hpos, hpow, ← zpow_add₀ (by norm_num)]
      exact (zpow_le_zpow_right₀ (by norm_num) (by omega)).trans hself
    · exact .inr (he.trans h)
  have hnonneg : 0 ≤ v / 2 ^ e := by linarith
  refine ⟨⌊v / 2 ^ e⌋₊, e, ?_, ?_, Nat.floor_pos.2 hone, (Nat.floor_lt hnonneg).2 hlt, by omega, by omega,
    hfull.imp_left Nat.le_floor⟩
  · rw [← le_div_iff₀ hpos]
    exact Nat.floor_le hnonneg
  · rw [← div_lt_iff₀ hpos]
    exact Nat.lt_floor_add_one _

/-- Every number from the least size on, and not too large, is covered by a size. -/
theorem exists_covers (hlow : (2 : ℚ) ^ (-1074 : Int) ≤ v) (hhigh : v < 2 ^ (1023 : Int)) :
    ∃ b : Binary, b.Canonical ∧ b.exponent ≤ 971 ∧ b.Covers v := by
  obtain ⟨q, e, hbelow, habove, hq, hlt, hleast, hlargest, hfull⟩ := exists_units hlow hhigh
  by_cases hdown : v < (q + 1 / 2) * 2 ^ e ∨ v = (q + 1 / 2) * 2 ^ e ∧ q % 2 = 0
  · refine ⟨_, canonical_mk hq hlt hleast hfull, ?_, covers_down hbelow ?_ ?_⟩
    · show e ≤ 971
      omega
    · rcases hdown with h | h
      · exact h.le
      · exact h.1.le
    · intro heq
      rcases hdown with h | h
      · exact absurd heq h.ne
      · exact h.2
  · have hhalf : (q + 1 / 2) * 2 ^ e ≤ v := not_lt.1 fun h => hdown (.inl h)
    have hodd : v = (q + 1 / 2) * 2 ^ e → q % 2 = 1 := fun heq => by
      have : q % 2 ≠ 0 := fun h => hdown (.inr ⟨heq, h⟩)
      omega
    by_cases hcarry : q + 1 = 2 ^ 53
    · -- the mantissa is full, and the next size is a power of two
      refine ⟨_, ?_, ?_, covers_carry hhalf habove hcarry⟩
      · refine ⟨by norm_num, by norm_num, ?_, .inl le_rfl, ?_⟩
        · show -1074 ≤ e + 1
          omega
        · show true = true ↔ 2 ^ 52 = 2 ^ 52 ∧ -1074 < e + 1
          simp only [true_iff, true_and]
          omega
      · show e + 1 ≤ 971
        omega
    · have hcanonical := canonical_mk (Nat.succ_pos q) (by omega) hleast (by omega)
      have hnarrow : (q + 1 == 2 ^ 52 && decide (-1074 < e)) = false := by
        rw [Bool.and_eq_false_iff, beq_eq_false_iff_ne, decide_eq_false_iff_not]
        omega
      rw [hnarrow] at hcanonical
      refine ⟨_, hcanonical, ?_, covers_up hhalf habove hodd⟩
      show e ≤ 971
      omega

end FormBuilder.Decimal
