/-
Numbers, and the texts they are shown as. A shown number is read as the same double, but that a zero
loses its sign. So whatever is shown as a number counts as that number and is loosely equal to it: its
text, a list that holds it alone, and any list that comes to the same text.
-/
import FormBuilder.Proofs.Decimal.Special
import FormBuilder.Proofs.Value.LooseEq
import FormBuilder.Proofs.Value.Number

namespace FormBuilder

open Decimal

/-! ## Trimming -/

/-- Without white space in it a text has none around it. -/
theorem Text.trim_eq_self {cs : List Char} (h : ∀ c ∈ cs, Text.isBlank c = false) :
    Text.trim cs = cs := by
  have hkeep : ∀ ds : List Char, (∀ c ∈ ds, Text.isBlank c = false) →
      ds.dropWhile Text.isBlank = ds := by
    rintro (_ | ⟨d, ds⟩) hds
    · rfl
    · rw [List.dropWhile_cons_of_neg (by simp [hds])]
  unfold Text.trim
  rw [hkeep cs h, hkeep cs.reverse (by simpa using h), List.reverse_reverse]

theorem isBlank_of_isNumeral {c : Char} (h : isNumeral c = true) : Text.isBlank c = false := by
  simp only [isNumeral, Bool.or_eq_true, beq_iff_eq] at h
  rcases h with ((((h | rfl) | rfl) | rfl) | rfl) | rfl
  · simp only [isDigit, Bool.and_eq_true, decide_eq_true_eq] at h
    have hlow : 48 ≤ c.toNat := h.1
    have hhigh : c.toNat ≤ 57 := h.2
    simp only [Text.isBlank, Bool.or_eq_false_iff, Bool.and_eq_false_iff, decide_eq_false_iff_not,
      beq_eq_false_iff_ne]
    omega
  all_goals decide

/-! ## Reading back -/

theorem parseNumber_decimal {s : String} {sign : List Char} {l : Numeral} {mark : Char}
    (hsign : IsSign sign) (hl : l.IsLiteral) (hmark : IsMark mark)
    (hs : s.toList = sign ++ l.textWith mark) :
    parseNumber s = withSign (decide (sign = ['-'])) (nearest l.digits l.place) := by
  have hblank : ∀ c ∈ sign ++ l.textWith mark, Text.isBlank c = false := by
    intro c hc
    refine isBlank_of_isNumeral ?_
    rcases List.mem_append.1 hc with hc | hc
    · exact isNumeral_sign hsign c hc
    · exact isNumeral_textWith hl hmark c hc
  unfold parseNumber
  rw [hs, Text.trim_eq_self hblank, parseTrimmed_decimal hsign hl hmark]

theorem parseNumber_formatNumber_of_isFinite {x : Float} (hfinite : isFinite x = true)
    (hsize : (Binary.ofFloat x).mantissa ≠ 0) : parseNumber (formatNumber x) = x := by
  obtain ⟨l, htext, hl, hback⟩ := exists_numeral_formatNumber hfinite
  rw [l.text_eq] at htext
  -- a size above zero is shown behind the sign of its double
  cases hnegative : isNegative x with
  | true =>
    rw [if_pos ⟨hnegative, hsize⟩] at htext
    rw [parseNumber_decimal (.inr (.inl rfl)) hl.isLiteral (.inl rfl) htext]
    rwa [hnegative] at hback
  | false =>
    rw [if_neg (by simp [hnegative])] at htext
    rw [parseNumber_decimal (.inl rfl) hl.isLiteral (.inl rfl) htext]
    rwa [hnegative] at hback

/-- A shown number is read as the same double, but that a zero loses its sign. -/
theorem parseNumber_formatNumber (x : Float) : parseNumber (formatNumber x) = dropZeroSign x := by
  by_cases hsize : (Binary.ofFloat x).mantissa = 0
  · rw [← withSign_zero hsize]
    cases isNegative x <;> rfl
  · rw [dropZeroSign_of_ne_zero (Bool.eq_false_iff.2 fun h => hsize (beq_zero_iff.1 h))]
    cases hfinite : isFinite x with
    | true => exact parseNumber_formatNumber_of_isFinite hfinite hsize
    | false =>
      rcases eq_nan_or_infinite hfinite with rfl | ⟨negative, rfl⟩
      · rfl
      · cases negative <;> rfl

example : parseNumber (formatNumber (-0.0)) = 0.0 := rfl

/-- Only what is no number is shown as a text that is read as none. -/
theorem formatNumber_ne {x : Float} {s : String} (hread : (parseNumber s).isNaN = true)
    (hs : s ≠ formatNumber nan) : s ≠ formatNumber x := by
  rintro rfl
  rw [parseNumber_formatNumber, isNaN_dropZeroSign, isNaN_iff] at hread
  exact hs (by rw [hread])

/-! ## What a value counts as -/

/-- A double counts as a number that it is equal to, and as no number if it is none either. -/
structure CountsAs (y x : Float) : Prop where
  equal : x.isNaN = false → (y == x) = true
  isNaN : x.isNaN = true → y.isNaN = true

/-- Doubles that are the same but for the sign of a zero count as each other. -/
theorem CountsAs.of_dropZeroSign {y x : Float} (h : dropZeroSign y = dropZeroSign x) :
    CountsAs y x := by
  constructor
  · intro hx
    rw [beq_of_dropZeroSign h, hx]
    rfl
  · intro hx
    rw [← isNaN_dropZeroSign, h, isNaN_dropZeroSign, hx]

theorem CountsAs.beq_eq {y x : Float} (h : CountsAs y x) : (y == x) = !x.isNaN := by
  cases hx : x.isNaN with
  | false => exact h.equal hx
  | true =>
    rw [isNaN_iff.1 hx]
    exact beq_nan y

theorem countsAs_parseNumber_formatNumber (x : Float) : CountsAs (parseNumber (formatNumber x)) x := by
  refine .of_dropZeroSign ?_
  rw [parseNumber_formatNumber, dropZeroSign_dropZeroSign]

namespace Value

/-- Against a number, an operand is equal if it counts as an equal number. -/
theorem looseEq_number {v : Value} (hnull : v ≠ .null) (x : Float) :
    looseEq (some v) (some (.number x)) = (v.toNumber == x) := by
  rw [looseEq_some hnull (by simp)]
  cases v with
  | null => exact absurd rfl hnull
  | bool | number | text | list => rfl
  | map entries =>
    show (parseNumber (display (.map entries)) == x) = (nan == x)
    rw [display]
    rfl

theorem display_number (x : Float) : (Value.number x).display = formatNumber x := by
  rw [display]

theorem display_text (s : String) : (Value.text s).display = s := by
  rw [display]

/-- A list of one item is shown as the item, unless that is null. -/
theorem display_singleton {v : Value} (hnull : v ≠ .null) : (Value.list [v]).display = v.display := by
  have hitem : displayItems [v] = v.displayItem := by simp only [displayItems]
  rw [display_list, hitem]
  cases v with
  | null => exact absurd rfl hnull
  | _ => rw [displayItem, display]

section

variable {v : Value} {x : Float} (h : v.display = (Value.number x).display)

include h

/-- Null, booleans and maps are not shown as a number is. -/
theorem cases_of_display :
    (∃ y, v = .number y) ∨ (∃ s, v = .text s) ∨ ∃ items, v = .list items := by
  rw [display_number] at h
  cases v with
  | number y => exact .inl ⟨y, rfl⟩
  | text s => exact .inr (.inl ⟨s, rfl⟩)
  | list items => exact .inr (.inr ⟨items, rfl⟩)
  | null =>
    rw [display] at h
    exact absurd h (formatNumber_ne (by decide) (by decide))
  | bool b =>
    rw [display] at h
    cases b <;> exact absurd h (formatNumber_ne (by decide) (by decide))
  | map entries =>
    rw [display] at h
    exact absurd h (formatNumber_ne (by decide) (by decide))

/-- What is shown as a number counts as it. -/
theorem countsAs_toNumber : CountsAs v.toNumber x := by
  rcases cases_of_display h with ⟨y, rfl⟩ | ⟨s, rfl⟩ | ⟨items, rfl⟩
  · rw [display_number, display_number] at h
    refine .of_dropZeroSign ?_
    rw [toNumber, ← parseNumber_formatNumber, ← parseNumber_formatNumber, h]
  · rw [display_text, display_number] at h
    rw [toNumber, h]
    exact countsAs_parseNumber_formatNumber x
  · rw [display_list, display_number] at h
    rw [toNumber, h]
    exact countsAs_parseNumber_formatNumber x

theorem looseEq_of_display : looseEq (some v) (some (.number x)) = !x.isNaN := by
  have hnull : v ≠ .null := by
    rcases cases_of_display h with ⟨y, rfl⟩ | ⟨s, rfl⟩ | ⟨items, rfl⟩ <;> nofun
  rw [looseEq_number hnull]
  exact (countsAs_toNumber h).beq_eq

end

/-- A number and its text agree. The text is read as the same double, but that a zero loses its sign,
and what is no number is shown as a text that is read as none. So a number is loosely equal to its
text, and a list that holds it alone counts as it. Both hold of every value that is shown as the number
is: it counts as the number and is loosely equal to it, from either side, unless that is no number. -/
theorem number_agrees_with_text (x : Float) :
    CountsAs (parseNumber (formatNumber x)) x
    ∧ parseNumber (formatNumber x) = (if x == 0.0 then 0.0 else x)
    ∧ looseEq (some (.number x)) (some (.text (Value.number x).display)) = !x.isNaN
    ∧ CountsAs (Value.list [.number x]).toNumber x
    ∧ ∀ v : Value, v.display = (Value.number x).display →
      CountsAs v.toNumber x
      ∧ looseEq (some v) (some (.number x)) = !x.isNaN
      ∧ looseEq (some (.number x)) (some v) = !x.isNaN := by
  have htext : (Value.text (Value.number x).display).display = (Value.number x).display :=
    display_text _
  have hlist : (Value.list [.number x]).display = (Value.number x).display :=
    display_singleton nofun
  refine ⟨countsAs_parseNumber_formatNumber x, parseNumber_formatNumber x, ?_,
    countsAs_toNumber hlist, fun v hv => ⟨countsAs_toNumber hv, looseEq_of_display hv, ?_⟩⟩
  · rw [looseEq_comm]
    exact looseEq_of_display htext
  · rw [looseEq_comm]
    exact looseEq_of_display hv

/-- A text in two lists is shown as the number that it spells. -/
theorem number_agrees_with_text_nested :
    (Value.list [.list [.text "-0.1"]]).display = (Value.number (-0.1)).display
    ∧ ((Value.list [.list [.text "-0.1"]]).toNumber == -0.1) = true
    ∧ looseEq (some (.list [.list [.text "-0.1"]])) (some (.number (-0.1))) = true := by
  have hnumber : (-0.1 : Float).isNaN = false := by decide
  have hshown : (Value.list [.list [.text "-0.1"]]).display = (Value.number (-0.1)).display := by
    decide +kernel
  obtain ⟨-, -, -, -, hcounts⟩ := number_agrees_with_text (-0.1)
  obtain ⟨hcounts, hequal, -⟩ := hcounts _ hshown
  rw [hnumber] at hequal
  exact ⟨hshown, hcounts.equal hnumber, hequal⟩

end Value

end FormBuilder
