/-
The shortest digits of a size: whatever grid they were found on, they lie in the interval that the
size stands for, so they are read back as the double they were taken from.
-/
import FormBuilder.Decimal.Shortest
import FormBuilder.Proofs.Decimal.Nearest

namespace FormBuilder.Decimal

/-- The number that digits stand for. -/
def Digits.value (d : Digits) : ℚ := d.digits * 10 ^ d.exponent

/-! ## Exact comparison -/

/-- Both sides of a scaled comparison over one denominator. -/
theorem compareScaled_sides (a : Nat) (i : Int) (n : Nat) (j : Int) :
    (a * 10 ^ i : ℚ) * (10 ^ (-i).toNat * 2 ^ (-j).toNat)
        = (a * Nat.pow 10 i.toNat * Nat.pow 2 (-j).toNat : Nat)
      ∧ (n * 2 ^ j : ℚ) * (10 ^ (-i).toNat * 2 ^ (-j).toNat)
        = (n * Nat.pow 2 j.toNat * Nat.pow 10 (-i).toNat : Nat) := by
  rw [zpow_eq_div 10 (by norm_num) i, zpow_eq_div 2 (by norm_num) j]
  simp only [Nat.pow_eq]
  push_cast
  constructor
  · field_simp
  · field_simp

theorem compareScaled_spec (a : Nat) (i : Int) (n : Nat) (j : Int) :
    (compareScaled a i n j = .lt ↔ (a * 10 ^ i : ℚ) < n * 2 ^ j)
      ∧ (compareScaled a i n j = .eq ↔ (a * 10 ^ i : ℚ) = n * 2 ^ j)
      ∧ (compareScaled a i n j = .gt ↔ (n * 2 ^ j : ℚ) < a * 10 ^ i) := by
  obtain ⟨hleft, hright⟩ := compareScaled_sides a i n j
  have hscale : (0 : ℚ) < 10 ^ (-i).toNat * 2 ^ (-j).toNat := by positivity
  unfold compareScaled
  rw [Nat.compare_eq_lt, Nat.compare_eq_eq, Nat.compare_eq_gt, ← mul_lt_mul_iff_left₀ hscale,
    ← mul_lt_mul_iff_left₀ hscale (b := (n * 2 ^ j : ℚ)), ← mul_left_inj' hscale.ne', hleft, hright]
  refine ⟨?_, ?_, ?_⟩ <;> exact_mod_cast Iff.rfl

namespace Binary

variable {b : Binary} {d : Digits}

/-! ## Digits that read back -/

theorem quarter_value (b : Binary) (n : Nat) :
    (n : ℚ) * 2 ^ (b.exponent - 2) = n / 4 * 2 ^ b.exponent := by
  rw [zpow_sub₀ (by norm_num)]
  norm_num
  ring

/-- The lower end of the interval in quarters of the last place. -/
def lowQuarters (b : Binary) : Nat :=
  if b.narrowBelow then 4 * b.mantissa - 1 else 4 * b.mantissa - 2

theorem lowQuarters_value (hb : b.Canonical) :
    (b.lowQuarters : ℚ) / 4 = b.mantissa - if b.narrowBelow then 1 / 4 else 1 / 2 := by
  have hpos := hb.pos
  unfold lowQuarters
  split
  · rw [Nat.cast_sub (by omega)]
    push_cast
    ring
  · rw [Nat.cast_sub (by omega)]
    push_cast
    ring

/-- What the two comparisons of `readsBack` say. -/
theorem readsBack_iff : b.readsBack d = true
    ↔ (b.lowQuarters * 2 ^ (b.exponent - 2) < d.value
        ∨ b.mantissa % 2 = 0 ∧ d.value = b.lowQuarters * 2 ^ (b.exponent - 2))
      ∧ (d.value < (4 * b.mantissa + 2 : Nat) * 2 ^ (b.exponent - 2)
        ∨ b.mantissa % 2 = 0 ∧ d.value = (4 * b.mantissa + 2 : Nat) * 2 ^ (b.exponent - 2)) := by
  obtain ⟨-, hlowEq, hlowGt⟩ := compareScaled_spec d.digits d.exponent b.lowQuarters (b.exponent - 2)
  obtain ⟨hhighLt, hhighEq, -⟩ :=
    compareScaled_spec d.digits d.exponent (4 * b.mantissa + 2) (b.exponent - 2)
  unfold Digits.value
  rw [← hlowEq, ← hlowGt, ← hhighLt, ← hhighEq]
  unfold readsBack
  simp only [Bool.and_eq_true, Bool.or_eq_true, beq_iff_eq]
  rfl

/-- Digits that read back lie in the interval of the size. -/
theorem covers_of_readsBack (hb : b.Canonical) (h : b.readsBack d = true) : b.Covers d.value := by
  obtain ⟨hlow, hhigh⟩ := readsBack_iff.1 h
  have hpos := two_zpow_pos b.exponent
  -- both ends in units of the last place
  have htop : ((4 * b.mantissa + 2 : Nat) : ℚ) / 4 = b.mantissa + 1 / 2 := by
    push_cast
    ring
  rw [quarter_value, lowQuarters_value hb] at hlow
  rw [quarter_value, htop] at hhigh
  refine ⟨?_, ?_, ?_⟩
  · rcases hlow with h | ⟨-, h⟩
    · exact h.le
    · exact h.ge
  · rcases hhigh with h | ⟨-, h⟩
    · exact h.le
    · exact h.le
  · rintro (hend | hend)
    · rcases hlow with h | ⟨heven, -⟩
      · cases hnarrow : b.narrowBelow with
        | true =>
          -- the mantissa is a power of two, so it is even
          have := (hb.narrow.1 hnarrow).1
          omega
        | false =>
          rw [hnarrow, if_neg Bool.false_ne_true, hend] at h
          exact absurd h (lt_irrefl _)
      · exact heven
    · rcases hhigh with h | ⟨heven, -⟩
      · exact absurd hend h.ne
      · exact heven

theorem readsBack_of_pick {p : Int} (h : b.pick p = some d) : b.readsBack d = true := by
  unfold pick at h
  simp only at h
  split at h
  · rename_i hdown hup
    split at h
    · obtain rfl := Option.some.inj h
      exact hdown
    · obtain rfl := Option.some.inj h
      exact hup
  · rename_i hdown _
    obtain rfl := Option.some.inj h
    exact hdown
  · rename_i hup
    obtain rfl := Option.some.inj h
    exact hup
  · exact nomatch h

theorem exact_value (b : Binary) : b.exact.value = b.mantissa * 2 ^ b.exponent := by
  unfold exact Digits.value
  split
  · rename_i hwhole
    have hexp : (2 : ℚ) ^ b.exponent.toNat = 2 ^ b.exponent := by
      rw [← zpow_natCast, Int.toNat_of_nonneg hwhole]
    simp only [Nat.pow_eq]
    push_cast
    rw [hexp, mul_one]
  · rename_i hnegative
    have hten : (10 : ℚ) ^ b.exponent = (10 ^ (-b.exponent).toNat)⁻¹ := by
      rw [← zpow_natCast, ← zpow_neg]
      congr 1
      omega
    have htwo : (2 : ℚ) ^ b.exponent = (2 ^ (-b.exponent).toNat)⁻¹ := by
      rw [← zpow_natCast, ← zpow_neg]
      congr 1
      omega
    -- a power of two below one is a power of five over a power of ten
    have hsplit : (10 : ℚ) ^ (-b.exponent).toNat
        = 2 ^ (-b.exponent).toNat * 5 ^ (-b.exponent).toNat := by
      rw [← mul_pow]
      norm_num
    simp only [Nat.pow_eq]
    push_cast
    rw [hten, htwo, hsplit]
    field_simp

theorem strip_value : ∀ (fuel : Nat) (d : Digits), (d.strip fuel).value = d.value
  | 0, _ => rfl
  | fuel + 1, d => by
    unfold Digits.strip
    split
    · rename_i h
      have hdiv : (d.digits : ℚ) = 10 * (d.digits / 10 : Nat) := by
        exact_mod_cast (Nat.mul_div_cancel' (Nat.dvd_of_mod_eq_zero h.2)).symm
      rw [strip_value fuel]
      unfold Digits.value
      rw [zpow_add₀ (by norm_num), zpow_one]
      simp only
      rw [hdiv]
      ring
    · rfl

/-- The shortest digits of a size lie in its interval. -/
theorem covers_shortest (hb : b.Canonical) : b.Covers b.shortest.value := by
  unfold shortest
  simp only [strip_value]
  -- a grid on which nothing was found leaves the exact value, which the size covers too
  cases hfound : (List.range 17).findSome? fun n => b.pick (b.scale - (n + 1 : Nat)) with
  | none => exact b.covers_self b.exact_value
  | some d =>
    obtain ⟨n, -, hpick⟩ := List.exists_of_findSome?_eq_some hfound
    exact covers_of_readsBack hb (readsBack_of_pick hpick)

end Binary

/-- The shortest digits of a finite double above or below zero are read as its size. -/
theorem nearest_of_shortest {x : Float} (hfinite : isFinite x = true)
    (hsize : (Binary.ofFloat x).mantissa ≠ 0) {m : Nat} {e : Int}
    (hvalue : (m * 10 ^ e : ℚ) = (Binary.ofFloat x).shortest.value) :
    nearest m e = ofSize .positive (Binary.ofFloat x) (canonical_ofFloat hsize) := by
  refine nearest_eq _ (exponent_ofFloat_le hfinite) ?_
  rw [hvalue]
  exact Binary.covers_shortest (canonical_ofFloat hsize)

end FormBuilder.Decimal
