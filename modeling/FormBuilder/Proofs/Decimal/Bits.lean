/-
The bits of a double: a finite one is packed from its sign and its size, and its size is in the form
that rounding gives.
-/
import FormBuilder.Proofs.Decimal.Rounding

namespace FormBuilder.Decimal

open Float.Model Float.Model.UnpackedFloat

/-! ## Fields of a bit pattern -/

theorem toNat_append {n k : Nat} (a : BitVec n) (b : BitVec k) :
    (a ++ b).toNat = a.toNat * 2 ^ k + b.toNat := by
  rw [BitVec.toNat_append, ← Nat.shiftLeft_add_eq_or_of_lt b.isLt, Nat.shiftLeft_eq]

variable (b : BitVec Format.binary64.numBits)

theorem toNat_unpackMantissa : (unpackMantissa b).toNat = b.toNat % 2 ^ 52 := by
  unfold unpackMantissa
  rw [BitVec.toNat_cast, BitVec.extractLsb_toNat]
  rfl

theorem toNat_unpackExponent : (unpackExponent b).toNat = b.toNat / 2 ^ 52 % 2 ^ 11 := by
  unfold unpackExponent
  rw [BitVec.toNat_cast, BitVec.extractLsb_toNat, Nat.shiftRight_eq_div_pow]
  rfl

theorem toNat_unpackSign : (unpackSign b).toNat = b.toNat / 2 ^ 63 % 2 := by
  unfold unpackSign
  rw [BitVec.toNat_cast, BitVec.extractLsb_toNat, Nat.shiftRight_eq_div_pow]
  rfl

theorem toNat_packComponents (s : Sign) (e : BitVec 11) (m : BitVec 52) :
    (packComponents .binary64 s e m).toNat
      = s.toBitVec.toNat * 2 ^ 63 + e.toNat * 2 ^ 52 + m.toNat := by
  unfold packComponents
  rw [toNat_append, toNat_append]
  ring

theorem exponent_packComponents (s : Sign) (e : BitVec 11) (m : BitVec 52) :
    (packComponents .binary64 s e m).toNat / 2 ^ 52 % 2 ^ 11 = e.toNat := by
  have he := e.isLt
  have hm := m.isLt
  rw [toNat_packComponents]
  omega

/-! ## The parts of a double -/

def signOf (x : Float) : Sign := if isNegative x then .negative else .positive

theorem toNat_toBits_lt (x : Float) : x.toBits.toNat < 2 ^ 64 := x.toBits.toNat_lt

theorem toNat_signOf (x : Float) : (signOf x).toBitVec.toNat = x.toBits.toNat / 2 ^ 63 := by
  have hlt := toNat_toBits_lt x
  unfold signOf isNegative
  by_cases h : Nat.pow 2 63 ≤ x.toBits.toNat
  · rw [decide_eq_true h]
    show 1 = _
    have : 2 ^ 63 ≤ x.toBits.toNat := h
    omega
  · rw [decide_eq_false h]
    show 0 = _
    have : ¬ 2 ^ 63 ≤ x.toBits.toNat := h
    omega

/-- The bits of a double are those of its sign, its exponent and its fraction. -/
theorem toNat_toBits_eq (x : Float) :
    x.toBits.toNat
      = (signOf x).toBitVec.toNat * 2 ^ 63 + exponentBits x * 2 ^ 52 + fractionBits x := by
  have hlt := toNat_toBits_lt x
  rw [toNat_signOf]
  show _ = _ + x.toBits.toNat / 2 ^ 52 % 2 ^ 11 * 2 ^ 52 + x.toBits.toNat % 2 ^ 52
  omega

theorem eq_of_toNat_toBits {x y : Float} (h : x.toBits.toNat = y.toBits.toNat) : x = y := by
  obtain ⟨⟨a, ha⟩⟩ := x
  obtain ⟨⟨c, hc⟩⟩ := y
  obtain rfl : a = c := UInt64.toNat_inj.1 h
  rfl

theorem toBits_pack (u : UnpackedFloat) :
    (Float.ofModel (.pack u)).toBits.toNat = (UnpackedFloat.pack .binary64 u).toNat := rfl

/-! ## The size of a double -/

theorem fractionBits_lt (x : Float) : fractionBits x < 2 ^ 52 := Nat.mod_lt _ (by norm_num)

theorem exponentBits_lt {x : Float} (h : isFinite x = true) : exponentBits x < 2047 := by
  have hlt : exponentBits x < 2 ^ 11 := Nat.mod_lt _ (by norm_num)
  have hne : exponentBits x ≠ 2047 := by simpa [isFinite] using h
  omega

/-- What the exponent and the fraction say of the size. -/
theorem size_cases (x : Float) :
    (exponentBits x = 0 ∧ Binary.ofFloat x = ⟨fractionBits x, -1074, false⟩)
      ∨ (exponentBits x ≠ 0 ∧ Binary.ofFloat x
          = ⟨2 ^ 52 + fractionBits x, (exponentBits x : Int) - 1075,
              fractionBits x == 0 && 1 < exponentBits x⟩) := by
  unfold Binary.ofFloat
  by_cases h : exponentBits x = 0
  · exact .inl ⟨h, if_pos h⟩
  · exact .inr ⟨h, if_neg h⟩

theorem canonical_ofFloat {x : Float} (hsize : (Binary.ofFloat x).mantissa ≠ 0) :
    (Binary.ofFloat x).Canonical := by
  have hfraction := fractionBits_lt x
  rcases size_cases x with ⟨he, hb⟩ | ⟨he, hb⟩
  · rw [hb] at hsize ⊢
    refine ⟨Nat.pos_of_ne_zero hsize, ?_, le_rfl, .inr rfl, ?_⟩
    · show fractionBits x < 2 ^ 53
      omega
    · simp
  · rw [hb]
    refine ⟨?_, ?_, ?_, .inl (Nat.le_add_right ..), ?_⟩
    · show 0 < 2 ^ 52 + fractionBits x
      omega
    · show 2 ^ 52 + fractionBits x < 2 ^ 53
      omega
    · show -1074 ≤ (exponentBits x : Int) - 1075
      omega
    · show (fractionBits x == 0 && decide (1 < exponentBits x)) = true
        ↔ 2 ^ 52 + fractionBits x = 2 ^ 52 ∧ -1074 < (exponentBits x : Int) - 1075
      rw [Bool.and_eq_true, beq_iff_eq, decide_eq_true_eq]
      omega

theorem exponent_ofFloat_le {x : Float} (h : isFinite x = true) :
    (Binary.ofFloat x).exponent ≤ 971 := by
  have := exponentBits_lt h
  rcases size_cases x with ⟨he, hb⟩ | ⟨he, hb⟩
  · rw [hb]
    show (-1074 : Int) ≤ 971
    omega
  · rw [hb]
    show (exponentBits x : Int) - 1075 ≤ 971
    omega

/-! ## Packing -/

/-- The exponent field and the fraction of a canonical size. -/
theorem toNat_pack_canonical {b : Binary} (hb : b.Canonical) (hle : b.exponent ≤ 971) (s : Sign) :
    (UnpackedFloat.pack .binary64 (.finite s b.mantissa b.exponent hb.pos)).toNat
      = s.toBitVec.toNat * 2 ^ 63
        + (if 2 ^ 52 ≤ b.mantissa then (b.exponent + 1075).toNat * 2 ^ 52 + (b.mantissa - 2 ^ 52)
            else b.mantissa) := by
  have hleast := hb.least
  have hlt := hb.lt
  have hbias : (b.exponent + (Format.binary64.exponentBias : Nat)
      + (Format.binary64.mantissaBitsWithoutImplicit : Nat)).toNat = (b.exponent + 1075).toNat := by
    have : (Format.binary64.exponentBias : Int) = 1023 := by decide
    show (b.exponent + (Format.binary64.exponentBias : Int) + 52).toNat = _
    rw [this]
    omega
  have hbits : Format.binary64.mantissaBits = 53 := by decide
  unfold UnpackedFloat.pack
  simp only [hbias, hbits]
  rw [if_neg (by show ¬ 2 ^ 11 ≤ _; omega)]
  by_cases hfull : 2 ^ 52 ≤ b.mantissa
  · have hlog : b.mantissa.log2 + 1 = 53 := by
      have h1 := (Nat.le_log2 hb.pos.ne').2 hfull
      have h2 := (Nat.log2_lt hb.pos.ne').2 hlt
      omega
    rw [if_pos hlog, if_pos hfull, toNat_packComponents, BitVec.toNat_ofNat, BitVec.toNat_ofNat]
    omega
  · have hlog : b.mantissa.log2 + 1 ≠ 53 := by
      have h2 := (Nat.log2_lt hb.pos.ne').2 (Nat.lt_of_not_le hfull)
      omega
    rw [if_neg hlog, if_neg hfull, toNat_packComponents, BitVec.toNat_ofNat, BitVec.toNat_ofNat]
    omega

/-- A finite double above or below zero is packed from its sign and its size. -/
theorem pack_ofFloat {x : Float} (hfinite : isFinite x = true)
    (hsize : (Binary.ofFloat x).mantissa ≠ 0) :
    Float.ofModel (.pack (.finite (signOf x) (Binary.ofFloat x).mantissa (Binary.ofFloat x).exponent
      (Nat.pos_of_ne_zero hsize))) = x := by
  refine eq_of_toNat_toBits ?_
  rw [toBits_pack, toNat_pack_canonical (canonical_ofFloat hsize) (exponent_ofFloat_le hfinite),
    toNat_toBits_eq x]
  have hfraction := fractionBits_lt x
  rcases size_cases x with ⟨he, hb⟩ | ⟨he, hb⟩
  · rw [hb, he]
    simp only
    rw [if_neg (by omega)]
    omega
  · rw [hb]
    simp only
    rw [if_pos (by omega)]
    -- the packer adds the bias that reading the size took away
    have hback : ((exponentBits x : Int) - 1075 + 1075).toNat = exponentBits x := by omega
    rw [hback]
    omega

/-- A zero is packed from its sign. -/
theorem pack_zero {x : Float} (hsize : (Binary.ofFloat x).mantissa = 0) :
    Float.ofModel (.pack (.zero (signOf x))) = x := by
  refine eq_of_toNat_toBits ?_
  have hbits : exponentBits x = 0 ∧ fractionBits x = 0 := by
    rcases size_cases x with ⟨he, hb⟩ | ⟨he, hb⟩
    · rw [hb] at hsize
      exact ⟨he, hsize⟩
    · rw [hb] at hsize
      simp at hsize
  have hpack : UnpackedFloat.pack .binary64 (.zero (signOf x))
      = packComponents .binary64 (signOf x) 0 0 := rfl
  rw [toBits_pack, hpack, toNat_packComponents, toNat_toBits_eq x, hbits.1, hbits.2]
  rfl

/-! ## Unpacking -/

/-- The bits of a double in the width of the format. -/
def pattern (x : Float) : BitVec Format.binary64.numBits := x.toModel.toBits.toBitVec

theorem unpack_eq (x : Float) : x.toModel.unpack = UnpackedFloat.unpack .binary64 (pattern x) := rfl

theorem ofBitVec_unpackSign (x : Float) :
    Sign.ofBitVec (unpackSign (pattern x)) = signOf x := by
  have hsign := toNat_signOf x
  have hlt := toNat_toBits_lt x
  have heq : unpackSign (pattern x) = (signOf x).toBitVec := by
    refine BitVec.eq_of_toNat_eq ?_
    rw [toNat_unpackSign, hsign]
    show x.toBits.toNat / 2 ^ 63 % 2 = x.toBits.toNat / 2 ^ 63
    omega
  rw [heq]
  cases signOf x <;> rfl

/-! The unpacker compares the fields of the pattern with constants, and `size_cases` their values. -/

theorem toNat_unpackExponent_pattern (x : Float) :
    (unpackExponent (pattern x)).toNat = exponentBits x :=
  toNat_unpackExponent _

theorem toNat_unpackMantissa_pattern (x : Float) :
    (unpackMantissa (pattern x)).toNat = fractionBits x :=
  toNat_unpackMantissa _

theorem unpackExponent_eq_ones_iff (x : Float) :
    unpackExponent (pattern x) = -1#_ ↔ exponentBits x = 2047 := by
  rw [← BitVec.toNat_inj, toNat_unpackExponent_pattern]
  rfl

theorem unpackExponent_eq_zero_iff (x : Float) :
    unpackExponent (pattern x) = 0#_ ↔ exponentBits x = 0 := by
  rw [← BitVec.toNat_inj, toNat_unpackExponent_pattern]
  rfl

theorem unpackMantissa_eq_zero_iff (x : Float) :
    unpackMantissa (pattern x) = 0#_ ↔ fractionBits x = 0 := by
  rw [← BitVec.toNat_inj, toNat_unpackMantissa_pattern]
  rfl

/-- A finite double above or below zero is unpacked into its sign and its size. -/
theorem unpack_ofFloat {x : Float} (hfinite : isFinite x = true)
    (hsize : (Binary.ofFloat x).mantissa ≠ 0) :
    x.toModel.unpack
      = .finite (signOf x) (Binary.ofFloat x).mantissa (Binary.ofFloat x).exponent
          (Nat.pos_of_ne_zero hsize) := by
  have hbias : (Format.binary64.exponentBias : Int) = 1023 := by decide
  have hones := mt (unpackExponent_eq_ones_iff x).1 (exponentBits_lt hfinite).ne
  rw [unpack_eq]
  unfold UnpackedFloat.unpack
  refine (if_neg hones).trans ?_
  rcases size_cases x with ⟨he, hb⟩ | ⟨he, hb⟩
  · -- with no exponent, a fraction of zero would be the size zero
    have hfraction : fractionBits x ≠ 0 := by
      rw [hb] at hsize
      exact hsize
    refine (if_pos ((unpackExponent_eq_zero_iff x).2 he)).trans
      ((dif_neg (mt (unpackMantissa_eq_zero_iff x).1 hfraction)).trans ?_)
    refine finite_eq _ _ (ofBitVec_unpackSign x) ?_ ?_
    · rw [hb, toNat_unpackMantissa_pattern]
    · rw [hb, toNat_unpackExponent_pattern, he]
      rfl
  · refine (if_neg (mt (unpackExponent_eq_zero_iff x).1 he)).trans ?_
    refine finite_eq _ _ (ofBitVec_unpackSign x) ?_ ?_
    · rw [hb, toNat_append, toNat_unpackMantissa_pattern]
      rfl
    · rw [hb, toNat_unpackExponent_pattern]
      rfl

/-! ## Numbers -/

/-- Only the bits of the largest exponent can be no number, and only with a fraction. -/
theorem isNaN_eq_false {x : Float} (h : exponentBits x = 2047 → fractionBits x = 0) :
    x.isNaN = false := by
  show (UnpackedFloat.unpack .binary64 (pattern x)).isNaN = false
  unfold UnpackedFloat.unpack
  by_cases hlargest : unpackExponent (pattern x) = -1#_
  · have hzero := (unpackMantissa_eq_zero_iff x).2 (h ((unpackExponent_eq_ones_iff x).1 hlargest))
    exact congrArg UnpackedFloat.isNaN ((if_pos hlargest).trans (if_pos hzero))
  · refine (congrArg UnpackedFloat.isNaN (if_neg hlargest)).trans ?_
    by_cases hleast : unpackExponent (pattern x) = 0#_
    · refine (congrArg UnpackedFloat.isNaN (if_pos hleast)).trans ?_
      by_cases hzero : unpackMantissa (pattern x) = 0#_
      · exact congrArg UnpackedFloat.isNaN (dif_pos hzero)
      · exact congrArg UnpackedFloat.isNaN (dif_neg hzero)
    · exact congrArg UnpackedFloat.isNaN (if_neg hleast)

theorem isNaN_of_isFinite {x : Float} (h : isFinite x = true) : x.isNaN = false :=
  isNaN_eq_false fun hexponent => absurd hexponent (exponentBits_lt h).ne

/-- What is packed is a number, whatever its size is rounded to. -/
theorem isNaN_pack {u : UnpackedFloat} (h : u ≠ .notANumber) :
    (Float.ofModel (.pack u)).isNaN = false := by
  refine isNaN_eq_false fun hexponent => ?_
  unfold exponentBits at hexponent
  unfold fractionBits
  rw [toBits_pack] at hexponent ⊢
  cases u with
  | notANumber => exact absurd rfl h
  | infinity s => cases s <;> rfl
  | zero s => cases s <;> rfl
  | finite s m e hm =>
    unfold UnpackedFloat.pack at hexponent ⊢
    dsimp only at hexponent ⊢
    generalize (e + Format.binary64.exponentBias + Format.binary64.mantissaBitsWithoutImplicit).toNat
      = k at hexponent ⊢
    by_cases hlarge : 2 ^ Format.binary64.exponentBits ≤ k + 1
    · rw [if_pos hlarge]
      cases s <;> rfl
    · -- a smaller exponent is packed, and shows in its field
      have hlt : ¬ 2 ^ 11 ≤ k + 1 := hlarge
      rw [if_neg hlarge] at hexponent
      split at hexponent
      · have hfield := (exponent_packComponents s (BitVec.ofNat 11 k) (BitVec.ofNat 52 m)).symm.trans
          hexponent
        rw [BitVec.toNat_ofNat] at hfield
        omega
      · cases (exponent_packComponents s 0#11 (BitVec.ofNat 52 m)).symm.trans hexponent

/-! ## Doubles of a size -/

/-- The double of a sign and a size. -/
def ofSize (s : Sign) (b : Binary) (hb : b.Canonical) : Float :=
  .ofModel (.pack (.finite s b.mantissa b.exponent hb.pos))

variable {c : Binary} (hc : c.Canonical) (hle : c.exponent ≤ 971) (s : Sign)

include hc hle in
theorem bits_ofSize :
    signOf (ofSize s c hc) = s
      ∧ exponentBits (ofSize s c hc) = (if 2 ^ 52 ≤ c.mantissa then (c.exponent + 1075).toNat else 0)
      ∧ fractionBits (ofSize s c hc)
          = (if 2 ^ 52 ≤ c.mantissa then c.mantissa - 2 ^ 52 else c.mantissa) := by
  -- the three parts are read off the sum of the packed fields, which do not overlap
  have hbits : (ofSize s c hc).toBits.toNat = _ := toNat_pack_canonical hc hle s
  have hlt := hc.lt
  have hleast := hc.least
  have hs : s.toBitVec.toNat ≤ 1 := by cases s <;> decide
  refine ⟨?_, ?_, ?_⟩
  · unfold signOf isNegative
    rw [hbits]
    cases s with
    | negative =>
      have hone : Sign.negative.toBitVec.toNat = 1 := rfl
      rw [if_pos]
      rw [decide_eq_true_eq, hone]
      show 2 ^ 63 ≤ _
      omega
    | positive =>
      have hzero : Sign.positive.toBitVec.toNat = 0 := rfl
      rw [if_neg]
      rw [decide_eq_true_eq, hzero]
      show ¬ 2 ^ 63 ≤ _
      split <;> omega
  · show _ / 2 ^ 52 % 2 ^ 11 = _
    rw [hbits]
    split <;> omega
  · show _ % 2 ^ 52 = _
    rw [hbits]
    split <;> omega

include hle in
theorem isFinite_ofSize : isFinite (ofSize s c hc) = true := by
  have hbits := (bits_ofSize hc hle s).2.1
  unfold isFinite
  rw [hbits, bne_iff_ne]
  split <;> omega

include hle in
theorem ofFloat_ofSize : Binary.ofFloat (ofSize s c hc) = c := by
  obtain ⟨-, hexponent, hfraction⟩ := bits_ofSize hc hle s
  have hleast := hc.least
  have hnarrow := hc.narrow
  unfold Binary.ofFloat
  rw [hexponent, hfraction]
  obtain ⟨m, e, narrowBelow⟩ := c
  simp only at hle hleast hnarrow ⊢
  -- the exponent field tells the two forms of a size apart
  by_cases hfull : 2 ^ 52 ≤ m
  · rw [if_pos hfull, if_pos hfull, if_neg (by omega)]
    rw [Binary.mk.injEq]
    refine ⟨?_, by omega, ?_⟩
    · rw [Nat.pow_eq]
      omega
    · rw [Bool.eq_iff_iff, Bool.and_eq_true, beq_iff_eq, decide_eq_true_eq, hnarrow]
      omega
  · have hdenormal : e = -1074 := hc.full.resolve_left hfull
    rw [if_neg hfull, if_neg hfull, if_pos rfl, Binary.mk.injEq]
    refine ⟨rfl, hdenormal.symm, ?_⟩
    rw [eq_comm, Bool.eq_false_iff]
    intro h
    exact hfull (hnarrow.1 h).1.ge

include hle in
theorem unpack_ofSize :
    (ofSize s c hc).toModel.unpack = .finite s c.mantissa c.exponent hc.pos := by
  have hsize : (Binary.ofFloat (ofSize s c hc)).mantissa ≠ 0 := by
    rw [ofFloat_ofSize hc hle]
    exact hc.pos.ne'
  rw [unpack_ofFloat (isFinite_ofSize hc hle s) hsize, (bits_ofSize hc hle s).1]
  refine finite_eq _ _ rfl ?_ ?_ <;> rw [ofFloat_ofSize hc hle]

/-- A finite double above or below zero is the one of its sign and its size. -/
theorem ofSize_ofFloat {x : Float} (hfinite : isFinite x = true)
    (hsize : (Binary.ofFloat x).mantissa ≠ 0) :
    ofSize (signOf x) (Binary.ofFloat x) (canonical_ofFloat hsize) = x :=
  pack_ofFloat hfinite hsize

end FormBuilder.Decimal
