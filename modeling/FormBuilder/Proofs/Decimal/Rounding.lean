/-
Rounding to the nearest double. A mantissa that was cut off, with what is known of the rest, says
where a number lies between two mantissas; shifting keeps that exact, so the mantissa that rounding
ends with is the nearest one, ties going to the even one. A number of the interval that a size
stands for is therefore rounded to that size.
-/
import Mathlib.Algebra.Order.Field.Power
import Mathlib.Data.Rat.Cast.Order
import Mathlib.Tactic.Linarith
import Mathlib.Tactic.NormNum
import Mathlib.Tactic.Positivity
import Mathlib.Tactic.Ring
import FormBuilder.Decimal.Binary

namespace FormBuilder.Decimal

open Float.Model Float.Model.UnpackedFloat

/-! ## Where a number lies -/

/-- The number lies on the mantissa, or in a part of the gap to the next one. -/
def Lies (m : Nat) (t : ℚ) : Accuracy → Prop
  | .exact => t = m
  | .inexact .lt => m < t ∧ t < m + 1 / 2
  | .inexact .eq => t = m + 1 / 2
  | .inexact .gt => m + 1 / 2 < t ∧ t < m + 1

/-- The same for a mantissa with the bits that were shifted out of it. -/
def LiesAt (em : ExtendedMantissa) (t : ℚ) : Prop := Lies em.mantissa t em.accuracy

/-- The number lies no further from the mantissa than half the gap to the next one, and half the gap
only from an even one. -/
def NearestTo (m : Nat) (t : ℚ) : Prop :=
  (m : ℚ) - 1 / 2 ≤ t ∧ t ≤ m + 1 / 2 ∧ (t = m - 1 / 2 ∨ t = m + 1 / 2 → m % 2 = 0)

theorem Lies.bounds {m : Nat} {t : ℚ} : ∀ {a : Accuracy}, Lies m t a → (m : ℚ) ≤ t ∧ t < m + 1
  | .exact, h => by
    rw [Lies] at h
    constructor <;> linarith
  | .inexact .lt, h => by
    obtain ⟨h1, h2⟩ := h
    constructor <;> linarith
  | .inexact .eq, h => by
    rw [Lies] at h
    constructor <;> linarith
  | .inexact .gt, h => by
    obtain ⟨h1, h2⟩ := h
    constructor <;> linarith

theorem liesAt_ofMantissaAndAccuracy {m : Nat} {t : ℚ} {a : Accuracy} (h : Lies m t a) :
    LiesAt (.ofMantissaAndAccuracy m a) t := by
  cases a with
  | exact => exact h
  | inexact o => cases o <;> exact h

/-! ## Shifting -/

theorem LiesAt.shiftRightOne {em : ExtendedMantissa} {t : ℚ} (h : LiesAt em t) :
    LiesAt em.shiftRightOne (t / 2) := by
  obtain ⟨m, round, sticky⟩ := em
  -- the bit that is shifted out becomes the new round bit
  obtain ⟨half, hm⟩ : ∃ half, m = 2 * half ∨ m = 2 * half + 1 := ⟨m / 2, by omega⟩
  unfold LiesAt at h ⊢
  rcases hm with rfl | rfl
  · have hdiv : 2 * half / 2 = half := by omega
    have hmod : (2 * half % 2 != 0) = false := by simp
    simp only [ExtendedMantissa.shiftRightOne, hdiv, hmod]
    cases round <;> cases sticky <;>
      simp only [Lies, ExtendedMantissa.accuracy, Bool.or_self, Bool.or_true, Bool.true_or,
        Nat.cast_mul, Nat.cast_ofNat] at h ⊢
    · linarith
    · constructor <;> linarith
    · constructor <;> linarith
    · constructor <;> linarith
  · have hdiv : (2 * half + 1) / 2 = half := by omega
    have hmod : ((2 * half + 1) % 2 != 0) = true := by simp [Nat.add_mod]
    simp only [ExtendedMantissa.shiftRightOne, hdiv, hmod]
    cases round <;> cases sticky <;>
      simp only [Lies, ExtendedMantissa.accuracy, Bool.or_self, Bool.or_true, Bool.true_or,
        Nat.cast_add, Nat.cast_mul, Nat.cast_ofNat, Nat.cast_one] at h ⊢
    · linarith
    · constructor <;> linarith
    · constructor <;> linarith
    · constructor <;> linarith

theorem LiesAt.shiftRight {em : ExtendedMantissa} {t : ℚ} (h : LiesAt em t) (n : Nat) :
    LiesAt (em >>> n) (t / 2 ^ n) := by
  show LiesAt (n.repeat ExtendedMantissa.shiftRightOne em) _
  induction n with
  | zero => simpa [Nat.repeat] using h
  | succ n ih =>
    rw [Nat.repeat, pow_succ, ← div_div]
    exact ih.shiftRightOne

/-- The mantissa that a number lies nearest to is the one it is rounded to. -/
theorem LiesAt.roundedMantissa_eq {em : ExtendedMantissa} {t : ℚ} {m : Nat} (h : LiesAt em t)
    (hm : NearestTo m t) : em.roundedMantissa = m := by
  obtain ⟨hlow, hhigh, hties⟩ := hm
  obtain ⟨n, round, sticky⟩ := em
  have hle : (n : ℚ) < (m + 1 : Nat) := by
    have := h.bounds.1
    push_cast
    linarith
  have hlt : (m : ℚ) < (n + 2 : Nat) := by
    have := h.bounds.2
    push_cast
    linarith
  have hcases : m = n ∨ m = n + 1 := by
    have h1 : n < m + 1 := by exact_mod_cast hle
    have h2 : m < n + 2 := by exact_mod_cast hlt
    omega
  unfold LiesAt at h
  unfold ExtendedMantissa.roundedMantissa
  rcases hcases with rfl | rfl
  · -- the number lies in the lower half of the gap
    cases round <;> cases sticky <;>
      simp only [ExtendedMantissa.accuracy, Accuracy.roundToNearestEven] at h ⊢
    · rw [hties (.inr h), Nat.add_zero]
    · exact absurd h.1 (not_lt.2 hhigh)
  · -- it lies in the upper half
    push_cast at hlow hhigh hties
    cases round <;> cases sticky <;>
      simp only [ExtendedMantissa.accuracy, Accuracy.roundToNearestEven, Lies] at h ⊢
    · linarith
    · linarith [h.2]
    · have heven := hties (.inl (by linarith))
      omega

/-! ## Doubles -/

/-- A size as the bits of a double above zero hold it: a mantissa of 53 bits, or of fewer bits with
the least exponent. -/
structure Binary.Canonical (b : Binary) : Prop where
  pos : 0 < b.mantissa
  lt : b.mantissa < 2 ^ 53
  least : -1074 ≤ b.exponent
  full : 2 ^ 52 ≤ b.mantissa ∨ b.exponent = -1074
  narrow : b.narrowBelow = true ↔ b.mantissa = 2 ^ 52 ∧ -1074 < b.exponent

/-- The number is in the interval of the numbers that the size stands for: halfway to the neighbours,
and to the lower one only half as far when it is half as near. The ends count for an even mantissa. -/
structure Binary.Covers (b : Binary) (v : ℚ) : Prop where
  low : (b.mantissa - if b.narrowBelow then 1 / 4 else 1 / 2) * (2 : ℚ) ^ b.exponent ≤ v
  high : v ≤ (b.mantissa + 1 / 2) * (2 : ℚ) ^ b.exponent
  ends : v = (b.mantissa - 1 / 2) * (2 : ℚ) ^ b.exponent
    ∨ v = (b.mantissa + 1 / 2) * (2 : ℚ) ^ b.exponent → b.mantissa % 2 = 0

theorem two_zpow_pos (e : Int) : (0 : ℚ) < 2 ^ e := zpow_pos (by norm_num) e

/-- The exponent that a mantissa is shifted to. -/
def target (m : Nat) (e : Int) : Int := max (m.log2 + e - 52) (-1074)

theorem targetExponent_eq (m : Nat) (e : Int) :
    Format.binary64.targetExponent (totalExponent m e) = target m e := by
  have hleast : Format.binary64.minExponent = -1074 := by decide
  have hbits : (Format.binary64.mantissaBits : Int) = 53 := by decide
  unfold Format.targetExponent totalExponent target
  rw [hleast, hbits]
  omega

theorem shiftToTargetExponent_eq (m : Nat) (e : Int) (a : Accuracy) (he : e ≤ target m e) :
    shiftToTargetExponent .binary64 m e a
      = (ExtendedMantissa.ofMantissaAndAccuracy m a >>> (target m e - e).toNat, target m e) := by
  unfold shiftToTargetExponent shiftToExponent
  rw [targetExponent_eq]
  have hsum : e + ((target m e - e).toNat : Int) = target m e := by omega
  simp only [hsum]

/-- Where the number lies after the shift. -/
theorem liesAt_shifted {m : Nat} {e : Int} {a : Accuracy} {v : ℚ} (h : Lies m (v / 2 ^ e) a)
    (he : e ≤ target m e) :
    LiesAt (ExtendedMantissa.ofMantissaAndAccuracy m a >>> (target m e - e).toNat)
      (v / 2 ^ target m e) := by
  have hpow : (2 : ℚ) ^ target m e = 2 ^ e * 2 ^ (target m e - e).toNat := by
    rw [← zpow_natCast, ← zpow_add₀ (by norm_num)]
    congr 1
    omega
  rw [hpow, ← div_div]
  exact (liesAt_ofMantissaAndAccuracy h).shiftRight _

/-- The number is below the power of two that the mantissa with its exponent is below. -/
theorem Lies.lt_zpow {m : Nat} {e : Int} {a : Accuracy} {v : ℚ} (h : Lies m (v / 2 ^ e) a) :
    v < 2 ^ (m.log2 + 1 + e) := by
  have hm : (m : ℚ) + 1 ≤ 2 ^ (m.log2 + 1) := by
    exact_mod_cast (Nat.lt_log2_self (n := m))
  rw [zpow_add₀ (by norm_num)]
  have hv := (div_lt_iff₀ (two_zpow_pos e)).1 h.bounds.2
  refine hv.trans_le (mul_le_mul_of_nonneg_right ?_ (two_zpow_pos e).le)
  exact_mod_cast hm

theorem Lies.zpow_le {m : Nat} {e : Int} {a : Accuracy} {v : ℚ} (h : Lies m (v / 2 ^ e) a)
    (hm : m ≠ 0) : (2 : ℚ) ^ (m.log2 + e) ≤ v := by
  have hlog : (2 : ℚ) ^ m.log2 ≤ m := by
    exact_mod_cast Nat.log2_self_le hm
  rw [zpow_add₀ (by norm_num)]
  have hv := (le_div_iff₀ (two_zpow_pos e)).1 h.bounds.1
  refine (mul_le_mul_of_nonneg_right ?_ (two_zpow_pos e).le).trans hv
  exact_mod_cast hlog

theorem lt_of_zpow_lt {i j : Int} {v : ℚ} (hi : (2 : ℚ) ^ i ≤ v) (hj : v < 2 ^ j) : i < j :=
  (zpow_lt_zpow_iff_right₀ (by norm_num)).1 (hi.trans_lt hj)

theorem finite_eq {s s' : Sign} {m m' : Nat} {e e' : Int} (h : 0 < m) (h' : 0 < m') (hs : s = s')
    (hm : m = m') (he : e = e') : UnpackedFloat.finite s m e h = .finite s' m' e' h' := by
  subst hs hm he
  rfl

namespace Binary

variable {b : Binary} {v : ℚ} {m : Nat} {e : Int} {a : Accuracy}

theorem Covers.lt_zpow (hb : b.Canonical) (hv : b.Covers v) : v < 2 ^ (53 + b.exponent) := by
  have hm : (b.mantissa : ℚ) + 1 ≤ 2 ^ 53 := by
    exact_mod_cast hb.lt
  refine hv.high.trans_lt ?_
  rw [zpow_add₀ (by norm_num)]
  refine mul_lt_mul_of_pos_right ?_ (two_zpow_pos _)
  norm_num at hm ⊢
  linarith

/-- The number is shifted to the exponent of the size at most. -/
theorem Covers.target_le (hb : b.Canonical) (hv : b.Covers v) (hlies : Lies m (v / 2 ^ e) a)
    (hroom : e ≤ -1074 ∨ 2 ^ 52 ≤ m) : target m e ≤ b.exponent := by
  have hleast := hb.least
  unfold target
  by_cases hm : m = 0
  · subst hm
    have hlog : Nat.log2 0 = 0 := by decide
    rw [hlog]
    omega
  · have := lt_of_zpow_lt (hlies.zpow_le hm) (hv.lt_zpow hb)
    omega

theorem target_eq_of_le (hb : b.Canonical) (hv : b.Covers v) (hlies : Lies m (v / 2 ^ e) a)
    (hroom : e ≤ -1074 ∨ 2 ^ 52 ≤ m)
    (h : (2 : ℚ) ^ (52 + b.exponent) ≤ v ∨ b.exponent = -1074) : target m e = b.exponent := by
  refine le_antisymm (hv.target_le hb hlies hroom) ?_
  unfold target
  rcases h with h | h
  · have := lt_of_zpow_lt h hlies.lt_zpow
    omega
  · omega

/-- Only a size that is a power of two covers a number below its own power of two. -/
theorem Covers.narrow (hb : b.Canonical) (hv : b.Covers v) (hleast : b.exponent ≠ -1074)
    (h : v < 2 ^ (52 + b.exponent)) : b.mantissa = 2 ^ 52 ∧ b.narrowBelow = true := by
  have hlow := hv.low
  have hfull : 2 ^ 52 ≤ b.mantissa := hb.full.resolve_right hleast
  have hhalf : (if b.narrowBelow then 1 / 4 else 1 / 2 : ℚ) ≤ 1 / 2 := by
    split <;> norm_num
  have hlt : (b.mantissa : ℚ) < (2 ^ 52 + 1 : Nat) := by
    rw [zpow_add₀ (by norm_num)] at h
    have := lt_of_mul_lt_mul_right (hlow.trans_lt h) (two_zpow_pos _).le
    push_cast
    norm_num at this
    linarith
  have heq : b.mantissa = 2 ^ 52 := by
    have : b.mantissa < 2 ^ 52 + 1 := by exact_mod_cast hlt
    omega
  have := hb.least
  exact ⟨heq, hb.narrow.2 ⟨heq, by omega⟩⟩

theorem target_eq_of_lt (hb : b.Canonical) (hv : b.Covers v) (hlies : Lies m (v / 2 ^ e) a)
    (hroom : e ≤ -1074 ∨ 2 ^ 52 ≤ m) (hleast : b.exponent ≠ -1074)
    (h : v < 2 ^ (52 + b.exponent)) : target m e = b.exponent - 1 := by
  obtain ⟨heq, hnarrow⟩ := hv.narrow hb hleast h
  have hlow : (2 : ℚ) ^ (51 + b.exponent) ≤ v := by
    refine le_trans ?_ hv.low
    rw [zpow_add₀ (by norm_num), heq, hnarrow]
    refine mul_le_mul_of_nonneg_right ?_ (two_zpow_pos _).le
    norm_num
  have hlower := lt_of_zpow_lt hlow hlies.lt_zpow
  have hle := hb.least
  have hm : m ≠ 0 := by
    rintro rfl
    have hlog : Nat.log2 0 = 0 := by decide
    rw [hlog] at hlower
    omega
  have hupper := lt_of_zpow_lt (hlies.zpow_le hm) h
  unfold target
  omega

/-- The mantissa is the nearest one when the number is measured in units of its last place. -/
theorem Covers.nearestTo (hv : b.Covers v) : NearestTo b.mantissa (v / 2 ^ b.exponent) := by
  have hpos := two_zpow_pos b.exponent
  refine ⟨?_, (div_le_iff₀ hpos).2 hv.high, fun h => hv.ends ?_⟩
  · rw [le_div_iff₀ hpos]
    refine le_trans ?_ hv.low
    refine mul_le_mul_of_nonneg_right ?_ hpos.le
    split <;> linarith
  · rwa [div_eq_iff hpos.ne', div_eq_iff hpos.ne'] at h

/-- Below a power of two the places are half as large, and twice the mantissa is the nearest one. -/
theorem Covers.nearestTo_double (hv : b.Covers v) (heq : b.mantissa = 2 ^ 52)
    (hnarrow : b.narrowBelow = true) (h : v < 2 ^ (52 + b.exponent)) :
    NearestTo (2 ^ 53) (v / 2 ^ (b.exponent - 1)) := by
  have hpos := two_zpow_pos b.exponent
  have hlow := hv.low
  have hpow : (2 : ℚ) ^ (b.exponent - 1) = 2 ^ b.exponent / 2 := by
    rw [zpow_sub₀ (by norm_num), zpow_one]
  rw [zpow_add₀ (by norm_num)] at h
  rw [heq, hnarrow, if_pos rfl] at hlow
  refine ⟨?_, ?_, fun _ => by norm_num⟩
  · rw [hpow, le_div_iff₀ (by linarith)]
    push_cast at hlow ⊢
    linarith
  · rw [hpow, div_le_iff₀ (by linarith)]
    norm_num at h ⊢
    linarith

/-! ## The second shift -/

/-- A mantissa that is in its place is not shifted again. -/
theorem Canonical.settled (hb : b.Canonical) :
    shiftToTargetExponent .binary64 b.mantissa b.exponent .exact
      = (⟨b.mantissa, false, false⟩, b.exponent) := by
  have hlog : b.mantissa.log2 < 53 := (Nat.log2_lt hb.pos.ne').2 hb.lt
  have ht : target b.mantissa b.exponent = b.exponent := by
    have hleast := hb.least
    unfold target
    rcases hb.full with h | h
    · have := (Nat.le_log2 hb.pos.ne').2 h
      omega
    · omega
  rw [shiftToTargetExponent_eq _ _ _ ht.ge, ht, Int.sub_self]
  rfl

/-- A mantissa that became one bit too long is shifted by that bit. -/
theorem settled_double (hb : b.Canonical) :
    shiftToTargetExponent .binary64 (2 ^ 53) (b.exponent - 1) .exact
      = (⟨2 ^ 52, false, false⟩, b.exponent) := by
  have hlog : Nat.log2 (2 ^ 53) = 53 := Nat.log2_two_pow
  have ht : target (2 ^ 53) (b.exponent - 1) = b.exponent := by
    have hleast := hb.least
    unfold target
    rw [hlog]
    omega
  have hone : (b.exponent - (b.exponent - 1)).toNat = 1 := by omega
  rw [shiftToTargetExponent_eq _ _ _ (by omega), ht, hone]
  rfl

theorem roundWithAccuracy_of_shifts {s : Sign} {e₁ e₂ : Int} {first second : ExtendedMantissa}
    (hfirst : shiftToTargetExponent .binary64 m e a = (first, e₁))
    (hsecond : shiftToTargetExponent .binary64 first.roundedMantissa e₁ .exact = (second, e₂))
    (hpos : 0 < second.mantissa) :
    roundWithAccuracy .binary64 s m e a = .finite s second.mantissa e₂ hpos := by
  unfold roundWithAccuracy
  rw [hfirst]
  dsimp only
  rw [hsecond]
  exact dif_neg hpos.ne'

/-- A number of the interval that a size stands for is rounded to that size, whatever mantissa it
comes with, if that mantissa is long enough. -/
theorem Covers.roundWithAccuracy_eq (hb : b.Canonical) (hv : b.Covers v)
    (hlies : Lies m (v / 2 ^ e) a) (hroom : e ≤ -1074 ∨ 2 ^ 52 ≤ m) (s : Sign) :
    roundWithAccuracy .binary64 s m e a = .finite s b.mantissa b.exponent hb.pos := by
  have he : e ≤ target m e := by
    unfold target
    rcases hroom with h | h
    · omega
    · have := (Nat.le_log2 (by omega)).2 h
      omega
  have hfirst := shiftToTargetExponent_eq m e a he
  have hshifted := liesAt_shifted hlies he
  by_cases hbinade : (2 : ℚ) ^ (52 + b.exponent) ≤ v ∨ b.exponent = -1074
  · have ht := target_eq_of_le hb hv hlies hroom hbinade
    rw [ht] at hfirst hshifted
    have hsecond := (congrArg (shiftToTargetExponent .binary64 · b.exponent .exact)
      (hshifted.roundedMantissa_eq hv.nearestTo)).trans hb.settled
    exact roundWithAccuracy_of_shifts hfirst hsecond hb.pos
  · -- below its power of two the number is rounded up to twice the mantissa
    rw [not_or, not_le] at hbinade
    obtain ⟨hlt, hleast⟩ := hbinade
    have ht := target_eq_of_lt hb hv hlies hroom hleast hlt
    obtain ⟨heq, hnarrow⟩ := hv.narrow hb hleast hlt
    rw [ht] at hfirst hshifted
    have hsecond := settled_double hb
    rw [← hshifted.roundedMantissa_eq (hv.nearestTo_double heq hnarrow hlt)] at hsecond
    rw [roundWithAccuracy_of_shifts hfirst hsecond (by norm_num)]
    exact finite_eq _ _ rfl heq.symm rfl

end Binary

end FormBuilder.Decimal
