/-
Reading what numbers are written as: a literal is read as a number, without a sign as none below
zero, and the text of a finite number is read as that number.
-/
import FormBuilder.Value.Number
import FormBuilder.Proofs.Decimal.Whole
import FormBuilder.Proofs.Json.Number

namespace FormBuilder.Decimal

open Float.Model Float.Model.UnpackedFloat

/-! ## Signs -/

/-- A number that is not below zero, and is no negative zero. -/
def Unsigned : UnpackedFloat → Prop
  | .infinity s | .zero s | .finite s _ _ _ => s = .positive
  | .notANumber => False

theorem Unsigned.ne {u : UnpackedFloat} (h : Unsigned u) : u ≠ .notANumber := by
  rintro rfl
  exact h

theorem toNat_packComponents_lt (e : BitVec 11) (m : BitVec 52) :
    (packComponents .binary64 .positive e m).toNat < 2 ^ 63 := by
  have he := e.isLt
  have hm := m.isLt
  have hs : Sign.positive.toBitVec.toNat = 0 := rfl
  rw [toNat_packComponents, hs]
  omega

theorem isNegative_pack {u : UnpackedFloat} (h : Unsigned u) :
    isNegative (Float.ofModel (.pack u)) = false := by
  -- without a sign the packed fields leave the highest bit clear
  have hbits : (UnpackedFloat.pack .binary64 u).toNat < 2 ^ 63 := by
    cases u with
    | notANumber => cases h
    | infinity s =>
      cases h
      decide
    | zero s =>
      cases h
      decide
    | finite s m e hm =>
      cases h
      unfold UnpackedFloat.pack
      dsimp only
      split
      · decide
      · split <;> exact toNat_packComponents_lt _ _
  unfold isNegative
  rw [toBits_pack]
  exact decide_eq_false (Nat.not_le.2 hbits)

theorem Unsigned.dite {p : Prop} [Decidable p] {u : p → UnpackedFloat} {v : ¬ p → UnpackedFloat}
    (hu : ∀ h, Unsigned (u h)) (hv : ∀ h, Unsigned (v h)) :
    Unsigned (if h : p then u h else v h) := by
  by_cases h : p
  · rw [dif_pos h]
    exact hu h
  · rw [dif_neg h]
    exact hv h

theorem unsigned_roundWithAccuracy (m : Nat) (e : Int) (a : Accuracy) :
    Unsigned (roundWithAccuracy .binary64 .positive m e a) := by
  unfold roundWithAccuracy
  exact .dite (fun _ => rfl) fun _ => rfl

section Operations

variable {m₁ m₂ : Nat} {e₁ e₂ : Int} (h₁ : 0 < m₁) (h₂ : 0 < m₂)

theorem unsigned_mul : Unsigned
    (UnpackedFloat.mul .binary64 (.finite .positive m₁ e₁ h₁) (.finite .positive m₂ e₂ h₂)) :=
  unsigned_roundWithAccuracy ..

theorem unsigned_div : Unsigned
    (UnpackedFloat.div .binary64 (.finite .positive m₁ e₁ h₁) (.finite .positive m₂ e₂ h₂)) :=
  unsigned_roundWithAccuracy ..

end Operations

theorem unsigned_ofScientific (m : Nat) (e : Int) :
    Unsigned (UnpackedFloat.ofScientific .binary64 m e) := by
  unfold UnpackedFloat.ofScientific
  refine .dite (fun _ => rfl) fun hm => ?_
  by_cases hhigh : e > 2 ^ Format.binary64.exponentBits
  · rw [if_pos hhigh]
    exact rfl
  rw [if_neg hhigh]
  by_cases hlow : e < -(2 ^ Format.binary64.exponentBits + (m.log2 : Int))
  · rw [if_pos hlow]
    exact rfl
  rw [if_neg hlow]
  by_cases hwhole : 0 ≤ e
  · rw [if_pos hwhole]
    exact unsigned_mul _ _
  · rw [if_neg hwhole]
    exact unsigned_div _ _

theorem exists_unsigned_ofScientific {m : Nat} (hm : 0 < m) (negative : Bool) (e : Nat) :
    ∃ u, Unsigned u ∧ Float.ofScientific m negative e = .ofModel (.pack u) := by
  unfold Float.ofScientific
  split
  · rename_i hshort
    obtain ⟨hlt, hk⟩ := hshort
    obtain ⟨p, q, hp, hunpack, -⟩ := unpack_powerOfTen (k := e) (by omega)
    have hwhole := canonical_wholeSize hm hlt
    have hunpack' := unpack_ofSize hwhole (wholeSize_exponent_le hlt) .positive
    cases negative with
    | true =>
      refine ⟨_, @unsigned_div _ _ (wholeSize m).exponent q hwhole.pos hp, ?_⟩
      show Float.ofModel (.pack (UnpackedFloat.div .binary64
        (m.toUInt64.toFloat).toModel.unpack (powerOfTen e _).toModel.unpack)) = _
      rw [toFloat_eq hm hlt, hunpack', hunpack]
    | false =>
      refine ⟨_, @unsigned_mul _ _ (wholeSize m).exponent q hwhole.pos hp, ?_⟩
      show Float.ofModel (.pack (UnpackedFloat.mul .binary64
        (m.toUInt64.toFloat).toModel.unpack (powerOfTen e _).toModel.unpack)) = _
      rw [toFloat_eq hm hlt, hunpack', hunpack]
  · exact ⟨_, unsigned_ofScientific _ _, rfl⟩

/-- What a decimal without a sign is read as is a number, and not negative. -/
theorem exists_unsigned_nearest (m : Nat) (e : Int) :
    ∃ u, Unsigned u ∧ nearest m e = .ofModel (.pack u) := by
  have hzero : (0.0 : Float) = .ofModel (.pack (.zero .positive)) := by decide
  have hinfinity : infinity = .ofModel (.pack (.infinity .positive)) := by decide
  unfold nearest
  split
  · exact ⟨.zero .positive, rfl, hzero⟩
  rename_i hm
  dsimp only
  split
  · exact ⟨.infinity .positive, rfl, hinfinity⟩
  split
  · exact ⟨.zero .positive, rfl, hzero⟩
  · exact exists_unsigned_ofScientific (Nat.pos_of_ne_zero hm) _ _

theorem isNegative_nearest (m : Nat) (e : Int) : isNegative (nearest m e) = false := by
  obtain ⟨u, hu, hnearest⟩ := exists_unsigned_nearest m e
  rw [hnearest]
  exact isNegative_pack hu

theorem isNaN_nearest (m : Nat) (e : Int) : (nearest m e).isNaN = false := by
  obtain ⟨u, hu, hnearest⟩ := exists_unsigned_nearest m e
  rw [hnearest]
  exact isNaN_pack hu.ne

/-- A number with its sign turned is a number. -/
theorem isNaN_withSign {x : Float} (h : x.isNaN = false) (negative : Bool) :
    (withSign negative x).isNaN = false := by
  cases negative with
  | false => exact h
  | true =>
    have hne : x.toModel.unpack.neg ≠ .notANumber := by
      have h' : x.toModel.unpack.isNaN = false := h
      cases hu : x.toModel.unpack with
      | notANumber =>
        rw [hu] at h'
        cases h'
      | infinity | zero | finite => nofun
    exact isNaN_pack hne

theorem isNegative_of_unsigned? {cs : List Char} {x : Float} (h : unsigned? cs = some x) :
    isNegative x = false := by
  unfold unsigned? at h
  dsimp only at h
  -- the literal has a point or not, and digits or none
  split at h
  all_goals
    split at h
    · cases h
    · obtain ⟨e, -, rfl⟩ := Option.map_eq_some_iff.1 h
      exact isNegative_nearest _ _

/-! ## Shown numbers -/

/-- A whole size is that of the whole number below it. -/
theorem Binary.floor_value {b : Binary} (h : b.isWhole = true) :
    (b.floor : ℚ) = b.mantissa * 2 ^ b.exponent := by
  have hdvd : 2 ^ b.places ∣ b.mantissa := Nat.dvd_of_mod_eq_zero (beq_iff_eq.1 h)
  have hfloor : b.floor * 2 ^ b.places = b.mantissa * 2 ^ b.exponent.toNat :=
    Nat.div_mul_cancel (hdvd.mul_right _)
  rw [zpow_eq_div 2 (by norm_num), mul_div_assoc', eq_div_iff (by positivity)]
  exact_mod_cast hfloor

/-- A finite number is shown as a sign and a numeral, and the numeral is read as its size. No sign
stands before a zero. -/
theorem exists_numeral_formatNumber {x : Float} (hfinite : isFinite x = true) :
    ∃ l : Numeral, (formatNumber x).toList
        = (if isNegative x = true ∧ (Binary.ofFloat x).mantissa ≠ 0 then ['-'] else []) ++ l.text
      ∧ l.WellFormed ∧ withSign (isNegative x) (nearest l.digits l.place) = x := by
  have hform : Form.ofFloat x = .finite (isNegative x) (Binary.ofFloat x) :=
    if_neg (exponentBits_lt hfinite).ne
  unfold formatNumber
  rw [hform]
  dsimp only
  by_cases hsize : (Binary.ofFloat x).mantissa = 0
  · refine ⟨⟨['0'], none, none⟩, ?_, ⟨allDigits_zeros 1, by simp, fun _ => rfl, nofun, nofun⟩, ?_⟩
    · rw [if_pos hsize, if_neg (by simp [hsize])]
      rfl
    · exact withSign_zero hsize
  rw [if_neg hsize]
  -- the size is read back first; the sign is put on in the same way in both layouts
  have hb := canonical_ofFloat hsize
  have hle := exponent_ofFloat_le hfinite
  have hback : withSign (isNegative x) (ofSize .positive (Binary.ofFloat x) hb) = x := by
    rw [withSign_ofSize hb hle]
    exact ofSize_ofFloat hfinite hsize
  have hsign : ∀ digits : List Char,
      (String.ofList (if isNegative x = true then '-' :: digits else digits)).toList
        = (if isNegative x = true ∧ (Binary.ofFloat x).mantissa ≠ 0 then ['-'] else []) ++ digits := by
    intro digits
    cases isNegative x <;> simp [hsize]
  rw [hsign]
  by_cases hplain : ((Binary.ofFloat x).isWhole
      && decide ((Binary.ofFloat x).floor < 9 * Nat.pow 10 15)) = true
  · have hcovers : (Binary.ofFloat x).Covers ((Binary.ofFloat x).floor * 10 ^ (0 : Int)) := by
      refine Binary.covers_self _ ?_
      rw [zpow_zero, mul_one, Binary.floor_value (Bool.and_eq_true_iff.1 hplain).1]
    have hdigits : (Json.wholeNumeral (Binary.ofFloat x).floor).digits = (Binary.ofFloat x).floor := by
      simp [Json.wholeNumeral, Numeral.digits, Numeral.fractionDigits]
    refine ⟨Json.wholeNumeral (Binary.ofFloat x).floor, ?_, Json.wellFormed_wholeNumeral _, ?_⟩
    · rw [if_pos hplain]
      simp [Json.wholeNumeral, Numeral.text, Numeral.fractionText, Numeral.exponentText]
    · rw [hdigits]
      exact (congrArg _ (nearest_eq hb hle hcovers)).trans hback
  · obtain ⟨l, htext, hl, hvalue, -⟩ := exists_writes_size plainLayout hb
    refine ⟨l, ?_, hl, ?_⟩
    · rw [if_neg hplain, htext]
    · rw [nearest_of_shortest hfinite hsize hvalue, hback]

end FormBuilder.Decimal
