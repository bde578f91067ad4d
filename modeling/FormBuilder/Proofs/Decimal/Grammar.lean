/-
The grammar of decimal literals: what is read as a number is a sign, digits with at most one point
and an exponent, each of which may be absent, and it is read as the double nearest to its value.
-/
import FormBuilder.Proofs.Decimal.Notation

namespace FormBuilder.Decimal

/-- What may stand before an exponent. -/
def IsMark (c : Char) : Prop := c = 'e' ∨ c = 'E'

/-! ## Literals -/

namespace Numeral

/-- The exponent behind either of its marks. -/
def exponentWith (mark : Char) (l : Numeral) : List Char :=
  match l.exponent with
  | none => []
  | some (sign, ds) => mark :: (sign ++ ds)

def textWith (mark : Char) (l : Numeral) : List Char :=
  l.whole ++ (l.fractionText ++ l.exponentWith mark)

/-- The digits and the point before the exponent. -/
def significand (l : Numeral) : List Char := l.whole ++ l.fractionText

theorem textWith_eq (mark : Char) (l : Numeral) :
    l.textWith mark = l.significand ++ l.exponentWith mark := (List.append_assoc ..).symm

variable {l : Numeral}

/-- Digits and signs stand where they may. Before the exponent there may be no digit at all. -/
structure IsShape (l : Numeral) : Prop where
  whole : AllDigits l.whole
  fraction : AllDigits l.fractionDigits
  exponent : ∀ e ∈ l.exponent, IsSign e.1 ∧ AllDigits e.2 ∧ e.2 ≠ []

theorem IsShape.of_significand_point (h : l.IsShape) (hpoint : l.significand = ['.']) :
    l.whole = [] ∧ l.fraction = some [] := by
  have hwhole := h.whole
  unfold significand fractionText at hpoint
  cases hw : l.whole with
  | cons c cs =>
    rw [hw, List.cons_append] at hpoint
    have hdigit := hwhole c (by rw [hw]; exact List.mem_cons_self ..)
    rw [(List.cons.inj hpoint).1] at hdigit
    exact absurd hdigit (by decide)
  | nil =>
    rw [hw] at hpoint
    cases hf : l.fraction with
    | none => simp [hf] at hpoint
    | some ds => simpa [hf] using hpoint

/-- Digits and signs stand where they may, and one digit at least before the exponent. -/
structure IsLiteral (l : Numeral) : Prop where
  whole : AllDigits l.whole
  fraction : AllDigits l.fractionDigits
  ne_nil : l.whole ≠ [] ∨ l.fractionDigits ≠ []
  exponent : ∀ e ∈ l.exponent, IsSign e.1 ∧ AllDigits e.2 ∧ e.2 ≠ []

theorem IsLiteral.isShape (h : l.IsLiteral) : l.IsShape := ⟨h.whole, h.fraction, h.exponent⟩

theorem exponentText_eq (l : Numeral) : l.exponentText = l.exponentWith 'e' := by
  unfold exponentText exponentWith
  cases l.exponent <;> rfl

theorem text_eq (l : Numeral) : l.text = l.textWith 'e' := by
  unfold text textWith
  rw [exponentText_eq]

/-- A literal begins with a digit or with its point. -/
theorem IsLiteral.head (h : l.IsLiteral) (mark : Char) :
    ∃ c cs, l.textWith mark = c :: cs ∧ (isDigit c = true ∨ c = '.') := by
  have hwhole := h.whole
  have hsome := h.ne_nil
  unfold textWith fractionText fractionDigits at *
  cases hw : l.whole with
  | cons c cs =>
    rw [hw] at hwhole
    exact ⟨c, _, rfl, .inl (hwhole c (List.mem_cons_self ..))⟩
  | nil =>
    cases hf : l.fraction with
    | none =>
      rw [hw, hf] at hsome
      exact absurd hsome (by simp)
    | some ds => exact ⟨'.', _, rfl, .inr rfl⟩

theorem IsLiteral.splitSign {sign : List Char} (h : l.IsLiteral) (hsign : IsSign sign) (mark : Char) :
    Decimal.splitSign (sign ++ l.textWith mark) = (decide (sign = ['-']), l.textWith mark) := by
  obtain ⟨c, cs, htext, hc⟩ := h.head mark
  refine splitSign_append hsign ?_
  rw [htext]
  rintro _ ⟨⟩
  rcases hc with hc | rfl
  · exact ⟨(digit_ne hc).1, (digit_ne hc).2.1⟩
  · decide

/-- A number as JSON writes it is a literal. -/
theorem WellFormed.isLiteral (h : l.WellFormed) : l.IsLiteral := by
  refine ⟨h.whole, ?_, .inl h.ne_nil, h.exponent⟩
  have hfraction := h.fraction
  unfold fractionDigits
  cases hf : l.fraction with
  | none => nofun
  | some ds => exact (hfraction ds hf).1

end Numeral

/-! ## Reading -/

section Reading

variable {l : Numeral} {mark : Char}

theorem dropWhile_digits {ds rest : List Char} (hds : AllDigits ds) (hrest : NoDigit rest) :
    (ds ++ rest).dropWhile isDigit = rest := by
  rw [List.dropWhile_append_of_pos hds]
  cases rest with
  | nil => rfl
  | cons c cs => rw [List.dropWhile_cons_of_neg (by simp [hrest c rfl])]

/-- What follows the digits before a point or an exponent continues no run of digits. -/
theorem noDigit_exponentWith {rest : List Char} (hmark : IsMark mark) (hrest : NoDigit rest) :
    NoDigit (l.exponentWith mark ++ rest) := by
  unfold Numeral.exponentWith
  cases l.exponent with
  | none => exact hrest
  | some e =>
    rintro c ⟨⟩
    rcases hmark with rfl | rfl <;> decide

theorem noDigit_fractionText {rest : List Char} (hmark : IsMark mark) (hrest : NoDigit rest) :
    NoDigit (l.fractionText ++ (l.exponentWith mark ++ rest)) := by
  unfold Numeral.fractionText
  cases l.fraction with
  | none => exact noDigit_exponentWith hmark hrest
  | some ds =>
    rintro c ⟨⟩
    decide

/-- The exponent that ends a literal is read as its power. -/
theorem exponent?_exponentWith (hl : l.IsLiteral) (hmark : IsMark mark) :
    exponent? (l.exponentWith mark) = some l.power := by
  have hexponent := hl.exponent
  unfold Numeral.exponentWith Numeral.power
  cases he : l.exponent with
  | none => rfl
  | some e =>
    obtain ⟨sign, ds⟩ := e
    obtain ⟨hsign, hds, hne⟩ := hexponent (sign, ds) he
    have hsplit := splitSign_append hsign hds.head
    have hall : ds.all isDigit = true := List.all_eq_true.2 hds
    have hempty : ds.isEmpty = false := by simpa using hne
    have hmark' : (mark == 'e' || mark == 'E') = true := by
      rcases hmark with rfl | rfl <;> rfl
    simp only [exponent?, hmark', hsplit, hall, hempty]
    by_cases hminus : sign = ['-'] <;> simp [hminus]

/-- A literal is read as the double nearest to its value. -/
theorem unsigned?_textWith (hl : l.IsLiteral) (hmark : IsMark mark) :
    unsigned? (l.textWith mark) = some (nearest l.digits l.place) := by
  have hexponent := exponent?_exponentWith hl hmark
  have hafter : NoDigit (l.exponentWith mark ++ []) := noDigit_exponentWith hmark nofun
  have hbehind : NoDigit (l.fractionText ++ (l.exponentWith mark ++ [])) :=
    noDigit_fractionText hmark nofun
  rw [List.append_nil] at hafter hbehind
  have hfraction := hl.fraction
  have hsome := hl.ne_nil
  unfold unsigned?
  simp only [Numeral.textWith, takeWhile_digits hl.whole hbehind, dropWhile_digits hl.whole hbehind]
  unfold Numeral.fractionText Numeral.digits Numeral.place Numeral.fractionDigits at *
  cases hf : l.fraction with
  | none =>
    rw [hf] at hsome
    have hwhole : l.whole ≠ [] := hsome.resolve_right fun h => h rfl
    -- what stands in the place of the fraction begins with no point
    have hpoint : ∀ cs, l.exponentWith mark ≠ '.' :: cs := by
      unfold Numeral.exponentWith
      cases l.exponent with
      | none => nofun
      | some e =>
        rintro cs ⟨⟩
        rcases hmark with h | h <;> exact absurd h (by decide)
    simp [hexponent, hwhole]
  | some ds =>
    rw [hf] at hfraction hsome
    have hds : AllDigits ds := hfraction
    have hne : l.whole = [] → ds ≠ [] := fun h => hsome.resolve_left fun hw => hw h
    simpa [takeWhile_digits hds hafter, dropWhile_digits hds hafter, hexponent] using hne

/-- A point alone is no number, whatever its exponent. -/
theorem unsigned?_point (hmark : IsMark mark) (hwhole : l.whole = []) (hfraction : l.fraction = some []) :
    unsigned? (l.textWith mark) = none := by
  have hafter : NoDigit (l.exponentWith mark ++ []) := noDigit_exponentWith hmark nofun
  have hnone := takeWhile_digits (show AllDigits [] from nofun) hafter
  rw [List.nil_append, List.append_nil] at hnone
  have hpoint : isDigit '.' = false := by decide
  simp [unsigned?, Numeral.textWith, Numeral.fractionText, hwhole, hfraction, hpoint, hnone]

end Reading

/-! ## Signs -/

theorem exists_splitSign (cs : List Char) : ∃ sign, IsSign sign
    ∧ cs = sign ++ (splitSign cs).2 ∧ (splitSign cs).1 = decide (sign = ['-']) := by
  unfold splitSign
  split
  · exact ⟨['-'], .inr (.inl rfl), rfl, rfl⟩
  · exact ⟨['+'], .inr (.inr rfl), rfl, rfl⟩
  · exact ⟨[], .inl rfl, rfl, rfl⟩

/-! ## What is read -/

/-- What is read as an exponent is one. -/
theorem exists_exponent {cs : List Char} {e : Int} (h : exponent? cs = some e) :
    ∃ exponent : Option (List Char × List Char), ∃ mark, IsMark mark
      ∧ (∀ e ∈ exponent, IsSign e.1 ∧ AllDigits e.2 ∧ e.2 ≠ [])
      ∧ ∀ whole fraction, cs = Numeral.exponentWith mark ⟨whole, fraction, exponent⟩
        ∧ e = Numeral.power ⟨whole, fraction, exponent⟩ := by
  cases cs with
  | nil =>
    obtain rfl := Option.some.inj h
    exact ⟨none, 'e', .inl rfl, nofun, fun _ _ => ⟨rfl, rfl⟩⟩
  | cons c cs =>
    obtain ⟨sign, hsign, hcs, hnegative⟩ := exists_splitSign cs
    unfold exponent? at h
    dsimp only at h
    split at h
    · rename_i hmark
      split at h
      · cases h
      · rename_i hdigits
        obtain rfl := Option.some.inj h
        rw [Bool.not_eq_true, Bool.or_eq_false_iff, Bool.not_eq_false', List.isEmpty_eq_false_iff]
          at hdigits
        obtain ⟨hne, hall⟩ := hdigits
        refine ⟨some (sign, (splitSign cs).2), c, ?_, ?_, fun whole fraction => ⟨?_, ?_⟩⟩
        · simpa [IsMark] using hmark
        · rintro e ⟨⟩
          exact ⟨hsign, List.all_eq_true.1 hall, hne⟩
        · exact congrArg _ hcs
        · unfold Numeral.power
          simp [hnegative]
    · cases h

theorem allDigits_takeWhile (cs : List Char) : AllDigits (cs.takeWhile isDigit) :=
  List.all_eq_true.1 List.all_takeWhile

/-- Digits before a point, digits behind it and an exponent make up a literal. -/
theorem exists_numeral_of_parts {whole rest : List Char} (fraction : Option (List Char))
    {x : Float} (hwhole : AllDigits whole) (hfraction : AllDigits (fraction.getD []))
    (h : (if (whole.isEmpty && (fraction.getD []).isEmpty) = true then none
      else (exponent? rest).map fun e =>
        nearest (natOfDigits (whole ++ fraction.getD [])) (e - (fraction.getD []).length)) = some x) :
    ∃ l : Numeral, ∃ mark, IsMark mark ∧ l.IsLiteral
      ∧ whole ++ (Numeral.fractionText ⟨whole, fraction, none⟩ ++ rest) = l.textWith mark
      ∧ x = nearest l.digits l.place := by
  split at h
  · cases h
  · rename_i hsome
    obtain ⟨e, he, rfl⟩ := Option.map_eq_some_iff.1 h
    obtain ⟨exponent, mark, hmark, hexponent, hparts⟩ := exists_exponent he
    obtain ⟨rfl, rfl⟩ := hparts whole fraction
    refine ⟨⟨whole, fraction, exponent⟩, mark, hmark, ⟨hwhole, hfraction, ?_, hexponent⟩, rfl, rfl⟩
    rwa [Bool.and_eq_true, List.isEmpty_iff, List.isEmpty_iff, not_and_or] at hsome

/-- What is read without a sign is a literal. -/
theorem exists_numeral {cs : List Char} {x : Float} (h : unsigned? cs = some x) :
    ∃ l : Numeral, ∃ mark, IsMark mark ∧ l.IsLiteral ∧ cs = l.textWith mark
      ∧ x = nearest l.digits l.place := by
  have hwhole := allDigits_takeWhile cs
  have hcs : cs.takeWhile isDigit ++ cs.dropWhile isDigit = cs := List.takeWhile_append_dropWhile
  unfold unsigned? at h
  dsimp only at h
  rw [← hcs]
  split at h
  · rename_i behind hbehind
    have hpoint : cs.dropWhile isDigit
        = '.' :: behind.takeWhile isDigit ++ behind.dropWhile isDigit := by
      rw [hbehind, List.cons_append, List.takeWhile_append_dropWhile]
    rw [hpoint]
    exact exists_numeral_of_parts (some _) hwhole (allDigits_takeWhile behind) h
  · exact exists_numeral_of_parts none hwhole nofun h

/-- What is read is a literal behind a sign, and every such literal is read. -/
theorem literal?_eq_some_iff {cs : List Char} {x : Float} : literal? cs = some x
    ↔ ∃ sign, ∃ l : Numeral, ∃ mark, IsSign sign ∧ IsMark mark ∧ l.IsLiteral
      ∧ cs = sign ++ l.textWith mark
      ∧ x = withSign (decide (sign = ['-'])) (nearest l.digits l.place) := by
  constructor
  · intro h
    obtain ⟨sign, hsign, hcs, hnegative⟩ := exists_splitSign cs
    unfold literal? at h
    dsimp only at h
    obtain ⟨y, hy, rfl⟩ := Option.map_eq_some_iff.1 h
    obtain ⟨l, mark, hmark, hl, htext, rfl⟩ := exists_numeral hy
    rw [htext] at hcs
    rw [hnegative]
    exact ⟨sign, l, mark, hsign, hmark, hl, hcs, rfl⟩
  · rintro ⟨sign, l, mark, hsign, hmark, hl, rfl, rfl⟩
    unfold literal?
    rw [hl.splitSign hsign mark]
    exact congrArg (Option.map _) (unsigned?_textWith hl hmark)

end FormBuilder.Decimal
