/-
The text of a size as a numeral: digits, perhaps a point with digits behind it, perhaps an exponent.
Every layout writes a numeral of the same value as the digits it lays out.
-/
import FormBuilder.Decimal.Notation
import FormBuilder.Decimal.Literal
import FormBuilder.Proofs.Decimal.Shortest

namespace FormBuilder.Decimal

/-! ## Digits -/

/-- Digits only. -/
def AllDigits (cs : List Char) : Prop := ∀ c ∈ cs, isDigit c = true

theorem allDigits_digitChars (n : Nat) : AllDigits (digitChars n) := by
  intro c hc
  have h := Nat.isDigit_of_mem_toDigits (by decide) (by decide) hc
  unfold Char.isDigit at h
  unfold isDigit
  simp only [Bool.and_eq_true, decide_eq_true_eq] at h ⊢
  exact h

theorem allDigits_zeros (n : Nat) : AllDigits (zeros n) := by
  intro c hc
  rw [List.eq_of_mem_replicate hc]
  decide

theorem AllDigits.append {cs ds : List Char} (hc : AllDigits cs) (hd : AllDigits ds) :
    AllDigits (cs ++ ds) := fun c h => (List.mem_append.1 h).elim (hc c) (hd c)

theorem digitChars_ne_nil (n : Nat) : digitChars n ≠ [] := Nat.toDigits_ne_nil

theorem natOfDigits_eq (cs : List Char) : natOfDigits cs = Nat.ofDigitChars 10 cs 0 := rfl

@[simp]
theorem natOfDigits_digitChars (n : Nat) : natOfDigits (digitChars n) = n :=
  Nat.ofDigitChars_ten_toDigits

theorem natOfDigits_append (cs ds : List Char) :
    natOfDigits (cs ++ ds) = natOfDigits cs * 10 ^ ds.length + natOfDigits ds := by
  rw [natOfDigits_eq, Nat.ofDigitChars_append, Nat.ofDigitChars_eq_ofDigitChars_zero, Nat.mul_comm]
  rfl

@[simp]
theorem natOfDigits_zeros (n : Nat) : natOfDigits (zeros n) = 0 := by
  rw [natOfDigits_eq, zeros, Nat.ofDigitChars_replicate_zero, Nat.mul_zero]

/-- The digits of a number above zero do not begin with a zero. -/
theorem head?_digitChars {n : Nat} (h : 0 < n) : (digitChars n).head? ≠ some '0' := by
  induction n using Nat.strongRecOn with
  | ind n ih =>
    unfold digitChars at ih ⊢
    by_cases hlt : n < 10
    · have hdigit : ∀ k < 10, 0 < k → [Nat.digitChar k].head? ≠ some '0' := by decide
      rw [Nat.toDigits_of_lt_base hlt]
      exact hdigit n hlt h
    · rw [Nat.toDigits_of_base_le (by decide) (Nat.le_of_not_lt hlt),
        List.head?_append_of_ne_nil _ Nat.toDigits_ne_nil]
      exact ih (n / 10) (by omega) (by omega)

/-- A text that does not continue a run of digits. -/
def NoDigit (rest : List Char) : Prop := ∀ c ∈ rest.head?, isDigit c = false

theorem takeWhile_digits {ds rest : List Char} (hds : AllDigits ds) (hrest : NoDigit rest) :
    (ds ++ rest).takeWhile isDigit = ds := by
  rw [List.takeWhile_append_of_pos hds]
  cases rest with
  | nil => simp
  | cons c cs =>
    have hc := hrest c rfl
    simp [hc]

/-- A digit is neither a sign nor a point nor the mark of an exponent. -/
theorem digit_ne {c : Char} (h : isDigit c = true) :
    c ≠ '-' ∧ c ≠ '+' ∧ c ≠ '.' ∧ c ≠ 'e' ∧ c ≠ 'E' := by
  refine ⟨?_, ?_, ?_, ?_, ?_⟩ <;> rintro rfl <;> exact absurd h (by decide)

/-! ## Signs -/

/-- A sign, which may be absent. -/
def IsSign (cs : List Char) : Prop := cs = [] ∨ cs = ['-'] ∨ cs = ['+']

theorem splitSign_append {sign cs : List Char} (hsign : IsSign sign)
    (hcs : ∀ c ∈ cs.head?, c ≠ '-' ∧ c ≠ '+') :
    splitSign (sign ++ cs) = (decide (sign = ['-']), cs) := by
  rcases hsign with rfl | rfl | rfl
  · show splitSign cs = (false, cs)
    unfold splitSign
    split
    · exact absurd rfl (hcs _ rfl).1
    · exact absurd rfl (hcs _ rfl).2
    · rfl
  · rfl
  · rfl

theorem AllDigits.head {ds : List Char} (h : AllDigits ds) : ∀ c ∈ ds.head?, c ≠ '-' ∧ c ≠ '+' := by
  intro c hc
  obtain ⟨hminus, hplus, -⟩ := digit_ne (h c (List.mem_of_mem_head? hc))
  exact ⟨hminus, hplus⟩

/-! ## Numerals -/

/-- The parts of the text of a number. -/
structure Numeral where
  whole : List Char
  fraction : Option (List Char)
  /-- A sign, which may be absent, and digits. -/
  exponent : Option (List Char × List Char)

namespace Numeral

def fractionDigits (l : Numeral) : List Char := l.fraction.getD []

/-- The power of ten that the exponent says. -/
def power (l : Numeral) : Int :=
  match l.exponent with
  | none => 0
  | some (sign, ds) => if sign = ['-'] then -(natOfDigits ds : Int) else natOfDigits ds

/-- The number that the digits spell when the point is left out. -/
def digits (l : Numeral) : Nat := natOfDigits (l.whole ++ l.fractionDigits)

/-- The power of ten that the digits stand at. -/
def place (l : Numeral) : Int := l.power - l.fractionDigits.length

def value (l : Numeral) : ℚ := l.digits * 10 ^ l.place

def fractionText (l : Numeral) : List Char :=
  match l.fraction with
  | none => []
  | some ds => '.' :: ds

def exponentText (l : Numeral) : List Char :=
  match l.exponent with
  | none => []
  | some (sign, ds) => 'e' :: (sign ++ ds)

def text (l : Numeral) : List Char := l.whole ++ (l.fractionText ++ l.exponentText)

/-- Digits stand where digits have to stand, and no zero in front of other digits. -/
structure WellFormed (l : Numeral) : Prop where
  whole : AllDigits l.whole
  ne_nil : l.whole ≠ []
  head : l.whole.head? = some '0' → l.whole.length = 1
  fraction : ∀ ds ∈ l.fraction, AllDigits ds ∧ ds ≠ []
  exponent : ∀ e ∈ l.exponent, (e.1 = [] ∨ e.1 = ['-'] ∨ e.1 = ['+']) ∧ AllDigits e.2 ∧ e.2 ≠ []

end Numeral

/-! ## Layouts -/

/-- Numerals that a layout may write for digits: of their value, and with a point or an exponent
where whole numbers keep a point. -/
structure Writes (pointZero : Bool) (d : Digits) (cs : List Char) (l : Numeral) : Prop where
  text : cs = l.text
  wellFormed : l.WellFormed
  value : l.value = d.value
  marked : pointZero = true → l.fraction.isSome ∨ l.exponent.isSome

variable {d : Digits} {pointZero plus : Bool}

theorem value_of_parts {l : Numeral} (hdigits : l.digits = d.digits) (hplace : l.place = d.exponent) :
    l.value = d.value := by
  unfold Numeral.value Digits.value
  rw [hdigits, hplace]

/-- Zeros fill the places up to the point. -/
theorem writes_whole (hd : 0 < d.digits) (hwhole : 0 ≤ d.exponent) :
    Writes pointZero d
      (digitChars d.digits ++ zeros d.exponent.toNat ++ (if pointZero then ['.', '0'] else []))
      ⟨digitChars d.digits ++ zeros d.exponent.toNat, if pointZero then some ['0'] else none, none⟩ := by
  have hall := (allDigits_digitChars d.digits).append (allDigits_zeros d.exponent.toNat)
  have hhead : (digitChars d.digits ++ zeros d.exponent.toNat).head? ≠ some '0' := by
    rw [List.head?_append_of_ne_nil _ (digitChars_ne_nil _)]
    exact head?_digitChars hd
  have hzeros : (zeros d.exponent.toNat).length = d.exponent.toNat := List.length_replicate
  have hnat : natOfDigits (digitChars d.digits ++ zeros d.exponent.toNat)
      = d.digits * 10 ^ d.exponent.toNat := by
    rw [natOfDigits_append, natOfDigits_digitChars, natOfDigits_zeros, hzeros, Nat.add_zero]
  have hpow : (10 : ℚ) ^ d.exponent = 10 ^ d.exponent.toNat := by
    rw [← zpow_natCast, Int.toNat_of_nonneg hwhole]
  refine ⟨?_, ⟨hall, ?_, fun h => absurd h hhead, ?_, nofun⟩, ?_, ?_⟩
  · cases pointZero <;> simp [Numeral.text, Numeral.fractionText, Numeral.exponentText]
  · simp [digitChars_ne_nil]
  · cases pointZero with
    | false => nofun
    | true =>
      rintro ds ⟨⟩
      exact ⟨allDigits_zeros 1, by simp⟩
  · unfold Numeral.value Digits.value Numeral.digits Numeral.place Numeral.power
      Numeral.fractionDigits
    rw [hpow]
    cases pointZero with
    | false =>
      simp [hnat]
    | true =>
      show ((natOfDigits (digitChars d.digits ++ zeros d.exponent.toNat ++ ['0']) : Nat) : ℚ)
        * 10 ^ (-1 : Int) = d.digits * 10 ^ d.exponent.toNat
      -- the zero behind the point multiplies the digits by ten and takes it back
      have hlast : natOfDigits ['0'] = 0 := rfl
      rw [natOfDigits_append, hnat, hlast]
      simp
  · rintro rfl
    exact .inl rfl

/-- The point stands among the digits. -/
theorem writes_among (hd : 0 < d.digits) (hexponent : d.exponent < 0)
    (hpoint : 0 < ((digitChars d.digits).length : Int) + d.exponent) :
    Writes pointZero d
      ((digitChars d.digits).take (((digitChars d.digits).length : Int) + d.exponent).toNat
        ++ '.' :: (digitChars d.digits).drop (((digitChars d.digits).length : Int) + d.exponent).toNat)
      ⟨(digitChars d.digits).take (((digitChars d.digits).length : Int) + d.exponent).toNat,
        some ((digitChars d.digits).drop (((digitChars d.digits).length : Int) + d.exponent).toNat),
        none⟩ := by
  have hall := allDigits_digitChars d.digits
  have hhead := head?_digitChars hd
  have hnat := natOfDigits_digitChars d.digits
  generalize digitChars d.digits = ds at *
  generalize hk : ((ds.length : Int) + d.exponent).toNat = k
  -- digits are left on both sides of the point
  have hlt : 0 < k ∧ k < ds.length := by omega
  have hsplit := List.take_append_drop k ds
  refine ⟨?_, ⟨fun c hc => hall c (List.mem_of_mem_take hc), ?_, ?_, ?_, nofun⟩, ?_, ?_⟩
  · simp [Numeral.text, Numeral.fractionText, Numeral.exponentText]
  · intro h
    have := congrArg List.length h
    rw [List.length_take, List.length_nil] at this
    omega
  · intro h
    rw [List.head?_take, if_neg (by omega)] at h
    exact absurd h hhead
  · rintro cs ⟨⟩
    refine ⟨fun c hc => hall c (List.mem_of_mem_drop hc), fun h => ?_⟩
    have := congrArg List.length h
    rw [List.length_drop, List.length_nil] at this
    omega
  · refine value_of_parts ?_ ?_
    · show natOfDigits (ds.take k ++ ds.drop k) = _
      rw [hsplit, hnat]
    · show (0 : Int) - (ds.drop k).length = _
      rw [List.length_drop]
      omega
  · exact fun _ => .inl rfl

/-- Zeros stand between the point and the digits. -/
theorem writes_below (hpoint : ((digitChars d.digits).length : Int) + d.exponent ≤ 0) :
    Writes pointZero d
      ('0' :: '.' :: (zeros (-(((digitChars d.digits).length : Int) + d.exponent)).toNat
        ++ digitChars d.digits))
      ⟨['0'], some (zeros (-(((digitChars d.digits).length : Int) + d.exponent)).toNat
        ++ digitChars d.digits), none⟩ := by
  refine ⟨?_, ⟨allDigits_zeros 1, by simp, fun _ => rfl, ?_, nofun⟩, ?_, ?_⟩
  · simp [Numeral.text, Numeral.fractionText, Numeral.exponentText]
  · rintro cs ⟨⟩
    exact ⟨(allDigits_zeros _).append (allDigits_digitChars _), by simp [digitChars_ne_nil]⟩
  · refine value_of_parts ?_ ?_
    · show natOfDigits (['0'] ++ (zeros _ ++ digitChars d.digits)) = _
      rw [natOfDigits_append, natOfDigits_append, natOfDigits_zeros, natOfDigits_digitChars]
      simp [natOfDigits]
    · show (0 : Int) - (zeros _ ++ digitChars d.digits).length = _
      rw [List.length_append, zeros, List.length_replicate]
      omega
  · exact fun _ => .inl rfl

theorem exists_writes_positional (hd : 0 < d.digits) :
    ∃ l, Writes pointZero d (positional pointZero d) l := by
  unfold positional
  simp only
  by_cases hwhole : 0 ≤ d.exponent
  · rw [if_pos hwhole]
    exact ⟨_, writes_whole hd hwhole⟩
  · rw [if_neg hwhole]
    by_cases hpoint : 0 < ((digitChars d.digits).length : Int) + d.exponent
    · rw [if_pos hpoint]
      exact ⟨_, writes_among hd (by omega) hpoint⟩
    · rw [if_neg hpoint]
      exact ⟨_, writes_below (by omega)⟩

/-- The sign and the digits of an exponent. -/
def exponentParts (plus : Bool) (leading : Int) : List Char × List Char :=
  (if leading < 0 then ['-'] else if plus then ['+'] else [], digitChars leading.natAbs)

theorem power_exponentParts (cs : List Char) (fraction : Option (List Char)) (leading : Int) :
    Numeral.power ⟨cs, fraction, some (exponentParts plus leading)⟩ = leading := by
  unfold Numeral.power exponentParts
  simp only [natOfDigits_digitChars]
  by_cases h : leading < 0
  · rw [if_pos h, if_pos rfl]
    omega
  · rw [if_neg h]
    cases plus with
    | true =>
      rw [if_pos rfl, if_neg (by decide)]
      omega
    | false =>
      rw [if_neg Bool.false_ne_true, if_neg (by decide)]
      omega

theorem exponentParts_wellFormed (leading : Int) :
    ((exponentParts plus leading).1 = [] ∨ (exponentParts plus leading).1 = ['-']
        ∨ (exponentParts plus leading).1 = ['+'])
      ∧ AllDigits (exponentParts plus leading).2 ∧ (exponentParts plus leading).2 ≠ [] := by
  refine ⟨?_, allDigits_digitChars _, digitChars_ne_nil _⟩
  unfold exponentParts
  simp only
  split
  · exact .inr (.inl rfl)
  · split
    · exact .inr (.inr rfl)
    · exact .inl rfl

theorem exists_writes_scientific :
    ∃ l, Writes pointZero d
      (scientific plus (((digitChars d.digits).length : Int) + d.exponent - 1) d) l := by
  have hall := allDigits_digitChars d.digits
  have hnat := natOfDigits_digitChars d.digits
  generalize hleading : ((digitChars d.digits).length : Int) + d.exponent - 1 = leading
  have hexponent := @exponentParts_wellFormed plus leading
  have hpower : ∀ cs fraction, Numeral.power ⟨cs, fraction, some (exponentParts plus leading)⟩ = leading :=
    fun cs fraction => power_exponentParts cs fraction leading
  unfold scientific
  cases hchars : digitChars d.digits with
  | nil => exact absurd hchars (digitChars_ne_nil _)
  | cons c cs =>
    rw [hchars] at hall hnat hleading
    have hc : AllDigits [c] := fun _ h => List.mem_singleton.1 h ▸ hall c (List.mem_cons_self ..)
    have hcs : AllDigits cs := fun x h => hall x (List.mem_cons_of_mem _ h)
    -- one digit alone is written without a point
    cases cs with
    | nil =>
      refine ⟨⟨[c], none, some (exponentParts plus leading)⟩, ?_, ⟨hc, by simp, fun _ => rfl, nofun, ?_⟩,
        ?_, fun _ => .inr rfl⟩
      · rfl
      · rintro e ⟨⟩
        exact hexponent
      · refine value_of_parts hnat ?_
        show Numeral.power _ - 0 = _
        rw [hpower, ← hleading]
        simp
    | cons c' cs =>
      refine ⟨⟨[c], some (c' :: cs), some (exponentParts plus leading)⟩, ?_,
        ⟨hc, by simp, fun _ => rfl, ?_, ?_⟩, ?_, fun _ => .inr rfl⟩
      · rfl
      · rintro ds ⟨⟩
        exact ⟨hcs, by simp⟩
      · rintro e ⟨⟩
        exact hexponent
      · refine value_of_parts hnat ?_
        show Numeral.power _ - ((c' :: cs).length : Int) = _
        rw [hpower, ← hleading]
        simp
        omega

/-- Every layout writes a size above zero as a numeral of the value of its shortest digits. -/
theorem exists_writes_size (l : Layout) {b : Binary} (hb : b.Canonical) :
    ∃ n, Writes l.pointZero b.shortest (l.size b) n := by
  have hd : 0 < b.shortest.digits := by
    -- digits of zero would stand for a number below the interval of the size
    refine Nat.pos_of_ne_zero fun h => ?_
    have hvalue := (Binary.covers_shortest hb).zpow_le hb
    rw [Digits.value, h, Nat.cast_zero, zero_mul] at hvalue
    exact absurd hvalue (not_le.2 (two_zpow_pos _))
  unfold Layout.size
  rw [if_neg hb.pos.ne']
  simp only
  cases l.plain with
  | none => exact exists_writes_positional hd
  | some range =>
    simp only
    split
    · exact exists_writes_positional hd
    · exact exists_writes_scientific

/-! ## Doubles -/

theorem withSign_ofSize {b : Binary} (hb : b.Canonical) (hle : b.exponent ≤ 971) (negative : Bool) :
    withSign negative (ofSize .positive b hb)
      = ofSize (if negative then .negative else .positive) b hb := by
  cases negative with
  | false => rfl
  | true =>
    show Float.ofModel (.pack (ofSize .positive b hb).toModel.unpack.neg) = _
    rw [unpack_ofSize hb hle]
    rfl

theorem withSign_zero {x : Float} (hsize : (Binary.ofFloat x).mantissa = 0) :
    withSign (isNegative x) 0.0 = x := by
  have hplus : (0.0 : Float) = .ofModel (.pack (.zero .positive)) := by decide
  have hminus : -(0.0 : Float) = .ofModel (.pack (.zero .negative)) := by decide
  have hx := pack_zero hsize
  unfold signOf at hx
  cases hsign : isNegative x with
  | false =>
    rw [hsign] at hx
    exact hplus.trans hx
  | true =>
    rw [hsign] at hx
    exact hminus.trans hx

/-- Every layout writes a finite double as a sign and a numeral, and the numeral is read as the same
double. -/
theorem exists_numeral_write (layout : Layout) {x : Float} (hfinite : isFinite x = true) :
    ∃ l : Numeral, (layout.write x).toList = (if isNegative x then ['-'] else []) ++ l.text
      ∧ l.WellFormed ∧ (layout.pointZero = true → l.fraction.isSome ∨ l.exponent.isSome)
      ∧ isFinite (nearest l.digits l.place) = true
      ∧ withSign (isNegative x) (nearest l.digits l.place) = x := by
  have hform : Form.ofFloat x = .finite (isNegative x) (Binary.ofFloat x) := by
    have hne : exponentBits x ≠ 2047 := (exponentBits_lt hfinite).ne
    exact if_neg hne
  have hwrite : (layout.write x).toList
      = (if isNegative x then ['-'] else []) ++ layout.size (Binary.ofFloat x) := by
    unfold Layout.write
    rw [hform]
    cases isNegative x <;> simp
  rw [hwrite]
  -- a zero has no shortest digits, its layout is fixed
  by_cases hsize : (Binary.ofFloat x).mantissa = 0
  · refine ⟨⟨['0'], if layout.pointZero then some ['0'] else none, none⟩, ?_, ?_, ?_, ?_, ?_⟩
    · unfold Layout.size
      rw [if_pos hsize]
      cases layout.pointZero <;> rfl
    · refine ⟨allDigits_zeros 1, by simp, fun _ => rfl, ?_, nofun⟩
      cases layout.pointZero with
      | false => nofun
      | true =>
        rintro ds ⟨⟩
        exact ⟨allDigits_zeros 1, by simp⟩
    · intro h
      rw [h]
      exact .inl rfl
    · cases layout.pointZero <;> decide
    · have hzero : ∀ e, nearest 0 e = 0.0 := fun _ => rfl
      have hdigits : Numeral.digits ⟨['0'], if layout.pointZero then some ['0'] else none, none⟩ = 0 := by
        cases layout.pointZero <;> rfl
      rw [hdigits, hzero]
      exact withSign_zero hsize
  · obtain ⟨l, htext, hwell, hvalue, hmarked⟩ := exists_writes_size layout (canonical_ofFloat hsize)
    have hle := exponent_ofFloat_le hfinite
    have hnearest := nearest_of_shortest hfinite hsize hvalue
    refine ⟨l, by rw [htext], hwell, hmarked, ?_, ?_⟩
    · rw [hnearest]
      exact isFinite_ofSize _ hle _
    · rw [hnearest, withSign_ofSize _ hle]
      exact ofSize_ofFloat hfinite hsize

end FormBuilder.Decimal
