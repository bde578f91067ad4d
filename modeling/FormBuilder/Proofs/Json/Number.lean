/-
Numbers in JSON text: the reader takes a numeral to its end and no further, and gives back the number
that was written, a whole number as a whole one and a double as a double.
-/
import FormBuilder.Json.Token
import FormBuilder.Json.Writer
import FormBuilder.Proofs.Decimal.Grammar

namespace FormBuilder.Json

open Decimal (isDigit natOfDigits digitChars AllDigits NoDigit takeWhile_digits digit_ne IsSign Numeral
  isNegative isFinite withSign nearest)

/-! ## Ends of numbers -/

/-- A text that does not continue a number. -/
def Stops (rest : List Char) : Prop :=
  ∀ c ∈ rest.head?, isDigit c = false ∧ c ≠ '.' ∧ c ≠ 'e' ∧ c ≠ 'E'

theorem Stops.noDigit {rest : List Char} (h : Stops rest) : NoDigit rest := fun c hc => (h c hc).1

theorem someDigits_append {ds rest : List Char} (hds : AllDigits ds) (hne : ds ≠ [])
    (hrest : NoDigit rest) : someDigits (ds ++ rest) = .ok ds := by
  unfold someDigits
  rw [takeWhile_digits hds hrest]
  cases ds with
  | nil => exact absurd rfl hne
  | cons c cs => rfl

theorem wholePart_append {ds rest : List Char} (hds : AllDigits ds) (hne : ds ≠ [])
    (hhead : ds.head? = some '0' → ds.length = 1) (hrest : NoDigit rest) :
    wholePart (ds ++ rest) = .ok ds := by
  have hcheck : ¬ (ds.head? = some '0' ∧ 1 < ds.length) := fun h => by
    have := hhead h.1
    omega
  unfold wholePart
  rw [someDigits_append hds hne hrest]
  exact if_neg hcheck

theorem splitSign_append {sign ds rest : List Char} (hsign : IsSign sign) (hds : AllDigits ds)
    (hne : ds ≠ []) : Decimal.splitSign (sign ++ ds ++ rest) = (decide (sign = ['-']), ds ++ rest) := by
  rw [List.append_assoc]
  refine Decimal.splitSign_append hsign ?_
  rw [List.head?_append_of_ne_nil _ hne]
  exact hds.head

/-! ## The parts of a numeral -/

section Numeral

variable {l : Numeral} {rest : List Char}

/-- What the reader takes for the exponent of a numeral. -/
def exponent? (l : Numeral) : Option Int := l.exponent.map fun _ => l.power

/-- The text of a number with a sign. -/
def signed (negative : Bool) (cs : List Char) : List Char := if negative then '-' :: cs else cs

theorem noDigit_exponentText (hrest : Stops rest) : NoDigit (l.exponentText ++ rest) := by
  rw [l.exponentText_eq]
  exact Decimal.noDigit_exponentWith (.inl rfl) hrest.noDigit

theorem noDigit_fractionText (hrest : Stops rest) :
    NoDigit (l.fractionText ++ (l.exponentText ++ rest)) := by
  rw [l.exponentText_eq]
  exact Decimal.noDigit_fractionText (.inl rfl) hrest.noDigit

theorem fractionPart_append (hl : l.WellFormed) (hrest : Stops rest) :
    fractionPart (l.fractionText ++ (l.exponentText ++ rest)) = .ok l.fraction := by
  have hfraction := hl.fraction
  have hafter : NoDigit (l.exponentText ++ rest) := noDigit_exponentText hrest
  unfold Numeral.fractionText
  cases hf : l.fraction with
  | some ds =>
    obtain ⟨hds, hne⟩ := hfraction ds hf
    show (someDigits (ds ++ _)).map some = _
    rw [someDigits_append hds hne hafter]
    rfl
  | none =>
    -- without a fraction, what follows begins with no point either
    have hpoint : ∀ c ∈ (l.exponentText ++ rest).head?, c ≠ '.' := by
      unfold Numeral.exponentText
      cases l.exponent with
      | none => exact fun c hc => (hrest c hc).2.1
      | some e =>
        rintro c ⟨⟩
        decide
    show fractionPart (l.exponentText ++ rest) = _
    unfold fractionPart
    split
    · rename_i ds h
      rw [h] at hpoint
      exact absurd rfl (hpoint '.' rfl)
    · rfl

theorem exponentPart_append (hl : l.WellFormed) (hrest : Stops rest) :
    exponentPart (l.exponentText ++ rest) = .ok (exponent? l, l.exponentText.length) := by
  have hexponent := hl.exponent
  unfold exponent? Numeral.power Numeral.exponentText
  cases he : l.exponent with
  | some e =>
    obtain ⟨sign, ds⟩ := e
    obtain ⟨hsign, hds, hne⟩ := hexponent (sign, ds) he
    simp only at hsign hds hne
    show exponentPart ('e' :: (sign ++ ds ++ rest)) = _
    unfold exponentPart
    simp only [splitSign_append hsign hds hne, someDigits_append hds hne hrest.noDigit]
    -- the reader counts the mark, what the sign took and the digits
    have hlength : 1 + ((sign ++ ds ++ rest).length - (ds ++ rest).length) + ds.length
        = ('e' :: (sign ++ ds)).length := by
      simp only [List.length_append, List.length_cons]
      omega
    rw [← hlength]
    simp [Except.map]
  | none =>
    cases rest with
    | nil => rfl
    | cons c cs =>
      obtain ⟨-, -, he, hE⟩ := hrest c rfl
      show exponentPart (c :: cs) = _
      unfold exponentPart
      simp [he, hE]

theorem length_fractionText : l.fractionText.length = fractionLength l.fraction := by
  unfold Numeral.fractionText fractionLength
  cases l.fraction <;> rfl

/-- The reader takes the sign and the numeral, and nothing behind them. -/
theorem numberParts_signed (negative : Bool) (hl : l.WellFormed) (hrest : Stops rest) :
    numberParts (signed negative l.text ++ rest)
      = .ok (negative, l.whole, l.fraction, exponent? l, (signed negative l.text).length) := by
  have hwhole := wholePart_append hl.whole hl.ne_nil hl.head
    (noDigit_fractionText (l := l) hrest)
  have htext : l.text ++ rest = l.whole ++ (l.fractionText ++ (l.exponentText ++ rest)) := by
    unfold Numeral.text
    simp
  have hsign : ((signed negative l.text ++ rest).head? == some '-') = negative := by
    cases negative with
    | true => rfl
    | false =>
      show ((l.text ++ rest).head? == some '-') = false
      rw [htext]
      cases hw : l.whole with
      | nil => exact absurd hw hl.ne_nil
      | cons c cs =>
        have hc := (digit_ne (hl.whole c (hw ▸ List.mem_cons_self ..))).1
        simpa using hc
  -- the sign is taken off, and the three parts are read one behind the other
  have hdrop : (if negative = true then (signed negative l.text ++ rest).drop 1
      else signed negative l.text ++ rest) = l.text ++ rest := by
    cases negative <;> rfl
  unfold numberParts
  simp only [hsign, hdrop]
  rw [htext, hwhole]
  show (do
    let fraction ← fractionPart (List.drop l.whole.length _)
    _) = _
  rw [List.drop_left, fractionPart_append hl hrest]
  show (do
    let _ ← exponentPart (List.drop (fractionLength l.fraction) _)
    _) = _
  rw [← length_fractionText, List.drop_left, exponentPart_append hl hrest]
  have hlength : (if negative = true then 1 else 0) + l.whole.length + l.fractionText.length
      + l.exponentText.length = (signed negative l.text).length := by
    unfold signed Numeral.text
    cases negative <;> simp <;> omega
  show Except.ok (_, _, _, _, _) = _
  rw [hlength]

/-- A numeral with a point or an exponent is read as the nearest double. -/
theorem numberValue_marked (negative : Bool) (hmarked : l.fraction.isSome ∨ l.exponent.isSome)
    (hfinite : isFinite (nearest l.digits l.place) = true) :
    numberValue negative l.whole l.fraction (exponent? l)
      = .ok (.float (withSign negative (nearest l.digits l.place))) := by
  have hpower : (exponent? l).getD 0 = l.power := by
    unfold exponent? Numeral.power
    cases l.exponent <;> rfl
  have hdouble : (if isFinite (nearest l.digits l.place) = true
      then Except.ok (.float (withSign negative (nearest l.digits l.place)))
      else .error .malformed : Except Fault Json)
        = .ok (.float (withSign negative (nearest l.digits l.place))) := if_pos hfinite
  unfold numberValue
  simp only
  split
  · rename_i hfraction hexponent
    unfold exponent? at hexponent
    rw [Option.map_eq_none_iff] at hexponent
    rw [hfraction, hexponent] at hmarked
    exact absurd hmarked (by simp)
  · rw [hpower]
    exact hdouble

end Numeral

/-! ## Tokens of numbers -/

/-- Where a number begins, the token is that of a number. -/
theorem tokenAt_number {c : Char} (h : (c == '-' || isDigit c) = true) (cs : List Char) :
    tokenAt (c :: cs)
      = match numberParts (c :: cs) with
        | .ok (negative, whole, fraction, exponent, n) =>
          (.scalar false (numberValue negative whole fraction exponent) (.ok ()), some n)
        | .error f => (.scalar false (.error f) (.error .malformed), none) := by
  unfold tokenAt
  split
  -- the other first characters neither are a minus sign nor are digits
  all_goals
    rename_i heq
    cases heq
  all_goals
    first
      | exact absurd h (by decide)
      | exact if_pos h

/-- The token of a number, with its length. -/
theorem tokenAt_signed {l : Numeral} {rest : List Char} (negative : Bool) (hl : l.WellFormed)
    (hrest : Stops rest) :
    tokenAt (signed negative l.text ++ rest)
      = (.scalar false (numberValue negative l.whole l.fraction (exponent? l)) (.ok ()),
          some (signed negative l.text).length) := by
  have hparts := numberParts_signed negative hl hrest
  obtain ⟨c, cs, hcs, hc⟩ : ∃ c cs, signed negative l.text ++ rest = c :: cs
      ∧ (c == '-' || isDigit c) = true := by
    cases negative with
    | true => exact ⟨'-', l.text ++ rest, rfl, rfl⟩
    | false =>
      cases hw : l.whole with
      | nil => exact absurd hw hl.ne_nil
      | cons c cs =>
        refine ⟨c, cs ++ (l.fractionText ++ l.exponentText) ++ rest, ?_, ?_⟩
        · simp [signed, Numeral.text, hw]
        · simp [hl.whole c (hw ▸ List.mem_cons_self ..)]
  rw [hcs] at hparts ⊢
  rw [tokenAt_number hc, hparts]

/-- A finite double is read back as it was written. -/
theorem tokenAt_floatText {x : Float} {rest : List Char} (hfinite : isFinite x = true)
    (hrest : Stops rest) :
    tokenAt ((floatText x).toList ++ rest)
      = (.scalar false (.ok (.float x)) (.ok ()), some (floatText x).toList.length) := by
  obtain ⟨l, htext, hl, hmarked, hnearest, hx⟩ := Decimal.exists_numeral_write numberLayout hfinite
  have hsigned : (floatText x).toList = signed (isNegative x) l.text := by
    unfold floatText
    rw [if_pos hfinite, htext]
    cases isNegative x <;> rfl
  rw [hsigned, tokenAt_signed _ hl hrest, numberValue_marked _ (hmarked rfl) hnearest, hx]

/-- The numeral of a whole number. -/
def wholeNumeral (k : Nat) : Numeral := ⟨digitChars k, none, none⟩

theorem wellFormed_wholeNumeral (k : Nat) : (wholeNumeral k).WellFormed := by
  refine ⟨Decimal.allDigits_digitChars k, Decimal.digitChars_ne_nil k, fun h => ?_, nofun, nofun⟩
  rcases Nat.eq_zero_or_pos k with rfl | hk
  · rfl
  · exact absurd h (Decimal.head?_digitChars hk)

theorem text_wholeNumeral (k : Nat) : (wholeNumeral k).text = (Nat.repr k).toList := by
  rw [Nat.toList_repr]
  simp [wholeNumeral, Numeral.text, Numeral.fractionText, Numeral.exponentText, digitChars]

theorem numberValue_whole {k : Nat} (h : k < Nat.pow 2 64) :
    numberValue false (wholeNumeral k).whole (wholeNumeral k).fraction (exponent? (wholeNumeral k))
      = .ok (.integer k) := by
  unfold numberValue wholeNumeral exponent?
  simp only [Option.map_none, Decimal.natOfDigits_digitChars]
  rw [if_pos (by simpa using h)]

theorem numberValue_negated {k : Nat} (hpos : 0 < k) (h : k ≤ Nat.pow 2 63) :
    numberValue true (wholeNumeral k).whole (wholeNumeral k).fraction (exponent? (wholeNumeral k))
      = .ok (.integer (-k)) := by
  unfold numberValue wholeNumeral exponent?
  simp only [Option.map_none, Decimal.natOfDigits_digitChars]
  rw [if_neg (by simp), if_pos (by simpa using ⟨hpos, h⟩)]

/-- A whole number of 64 bits is read back as it was written. -/
theorem tokenAt_integer {n : Int} {rest : List Char} (hlow : -(Nat.pow 2 63 : Int) ≤ n)
    (hhigh : n < (Nat.pow 2 64 : Int)) (hrest : Stops rest) :
    tokenAt ((toString n).toList ++ rest)
      = (.scalar false (.ok (.integer n)) (.ok ()), some (toString n).toList.length) := by
  cases n with
  | ofNat k =>
    have hsigned : (toString (Int.ofNat k)).toList = signed false (wholeNumeral k).text :=
      (text_wholeNumeral k).symm
    have hk : k < Nat.pow 2 64 := Int.ofNat_lt.1 hhigh
    rw [hsigned, tokenAt_signed false (wellFormed_wholeNumeral k) hrest, numberValue_whole hk]
    rfl
  | negSucc k =>
    have hsigned : (toString (Int.negSucc k)).toList = signed true (wholeNumeral (k + 1)).text := by
      show ("-" ++ Nat.repr (k + 1)).toList = _
      rw [String.toList_append, ← text_wholeNumeral]
      rfl
    have hk : k + 1 ≤ Nat.pow 2 63 := by
      rw [Int.negSucc_eq] at hlow
      omega
    rw [hsigned, tokenAt_signed true (wellFormed_wholeNumeral (k + 1)) hrest,
      numberValue_negated (Nat.succ_pos k) hk]
    rfl

end FormBuilder.Json
