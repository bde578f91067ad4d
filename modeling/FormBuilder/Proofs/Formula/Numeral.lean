/-
The numbers of formulas: digits with at most one point, and an exponent where the text goes on with all
of one. The longest number at the start of a text is taken.
-/
import FormBuilder.Formula.Token
import FormBuilder.Proofs.Json.Number
import Mathlib.Data.List.TakeWhile

namespace FormBuilder.Formula

open Decimal (isDigit AllDigits IsSign IsMark Numeral takeWhile_digits digit_ne allDigits_takeWhile)
open Json (Stops)

section

variable {l : Numeral} {c mark : Char} {ds rest : List Char}

/-! ## What is taken -/

theorem mantissa_digits (hds : AllDigits ds) (rest : List Char) :
    mantissa (ds ++ rest) = ds ++ mantissa rest := by
  unfold mantissa
  dsimp only
  rw [List.takeWhile_append_of_pos hds, List.dropWhile_append_of_pos hds]
  split <;> simp

/-- What follows does not go on with the digits and the point of a number. -/
def EndsMantissa (rest : List Char) : Prop := ∀ c ∈ rest.head?, isDigit c = false ∧ c ≠ '.'

theorem mantissa_nil (hrest : EndsMantissa rest) : mantissa rest = [] := by
  cases rest with
  | nil => rfl
  | cons c cs =>
    obtain ⟨hdigit, hpoint⟩ := hrest c rfl
    simp [mantissa, hdigit, hpoint]

/-- The digits and the point of a number are taken, and more of them where more follow. -/
theorem mantissa_significand (hl : l.IsShape) (rest : List Char) :
    ∃ more, mantissa (l.significand ++ rest) = l.significand ++ more ∧
      (EndsMantissa rest → more = []) := by
  have hfraction := hl.fraction
  unfold Numeral.significand Numeral.fractionText Numeral.fractionDigits at *
  rw [List.append_assoc, mantissa_digits hl.whole]
  cases hf : l.fraction with
  | none => exact ⟨mantissa rest, by simp, mantissa_nil⟩
  | some ds =>
    rw [hf] at hfraction
    have hds : AllDigits ds := hfraction
    have hpoint : isDigit '.' = false := by decide
    refine ⟨rest.takeWhile isDigit, ?_, fun hrest => ?_⟩
    · simp [mantissa, hpoint, List.takeWhile_append_of_pos hds]
    · exact takeWhile_digits (show AllDigits [] from nofun) fun c hc => (hrest c hc).1

theorem exponent_nil (hrest : Stops rest) : exponent rest = [] := by
  cases rest with
  | nil => rfl
  | cons c cs =>
    obtain ⟨-, -, he, hE⟩ := hrest c rfl
    exact if_neg (by simp [he, hE])

theorem exponent_mark {sign : List Char} (hmark : IsMark mark) (hsign : IsSign sign)
    (hds : AllDigits ds) (hne : ds ≠ []) (rest : List Char) :
    exponent (mark :: (sign ++ ds) ++ rest) = mark :: (sign ++ ds) ++ rest.takeWhile isDigit := by
  have htake : (ds ++ rest).takeWhile isDigit = ds ++ rest.takeWhile isDigit :=
    List.takeWhile_append_of_pos hds
  have hmark' : mark = 'e' ∨ mark = 'E' := hmark
  cases ds with
  | nil => exact absurd rfl hne
  | cons d ds =>
    obtain ⟨hminus, hplus, -⟩ := digit_ne (hds d (List.mem_cons_self ..))
    have hnoPlus : ∀ cs, d :: (ds ++ rest) ≠ '+' :: cs := by simp [hplus]
    have hnoMinus : ∀ cs, d :: (ds ++ rest) ≠ '-' :: cs := by simp [hminus]
    rw [List.cons_append] at htake
    rcases hsign with rfl | rfl | rfl <;> simp [exponent, htake, hmark']

/-- A number at the start of a text is taken, and more where the text goes on with it. -/
theorem numeral_textWith (hl : l.IsShape) (hmark : IsMark mark) (rest : List Char) :
    ∃ more, numeral (l.textWith mark ++ rest) = l.textWith mark ++ more ∧ (Stops rest → more = []) := by
  have hexponent := hl.exponent
  obtain ⟨more, hmore, hend⟩ := mantissa_significand hl (l.exponentWith mark ++ rest)
  unfold numeral
  dsimp only
  rw [l.textWith_eq, List.append_assoc, hmore]
  unfold Numeral.exponentWith at *
  cases he : l.exponent with
  | none =>
    rw [he] at hend
    refine ⟨more ++ exponent (rest.drop more.length), ?_, fun hrest => ?_⟩
    · simp
    · have hnone := hend fun c hc => ⟨(hrest c hc).1, (hrest c hc).2.1⟩
      simp [hnone, exponent_nil hrest]
  | some e =>
    obtain ⟨sign, ds⟩ := e
    rw [he] at hend
    obtain ⟨hsign, hds, hne⟩ := hexponent _ he
    -- the mark of the exponent ends the digits before it
    have hnone : more = [] := hend <| by
      rintro c ⟨⟩
      rcases hmark with rfl | rfl <;> decide
    refine ⟨rest.takeWhile isDigit, ?_, fun hrest => ?_⟩
    · simpa [hnone] using exponent_mark hmark hsign hds hne rest
    · exact takeWhile_digits (show AllDigits [] from nofun) hrest.noDigit

/-! ## The longest number -/

theorem mantissa_spec (cs : List Char) : mantissa cs <+: cs ∧ ∃ whole fraction, AllDigits whole
    ∧ AllDigits (fraction.getD [])
    ∧ ∀ exponent, mantissa cs = Numeral.significand ⟨whole, fraction, exponent⟩ := by
  have hcs : cs.takeWhile isDigit ++ cs.dropWhile isDigit = cs := List.takeWhile_append_dropWhile
  unfold mantissa
  dsimp only
  split
  · rename_i behind hbehind
    refine ⟨⟨behind.dropWhile isDigit, ?_⟩, _, some (behind.takeWhile isDigit), allDigits_takeWhile cs,
      allDigits_takeWhile behind, fun _ => rfl⟩
    rw [hbehind] at hcs
    simpa using hcs
  · exact ⟨⟨_, hcs⟩, _, none, allDigits_takeWhile cs, nofun, fun _ => (List.append_nil _).symm⟩

/-- Behind its mark an exponent has a sign, where there is one, and digits, or is none. -/
theorem exponent_of_mark (hmark : IsMark mark) (cs : List Char) :
    ∃ sign tail, IsSign sign ∧ cs = sign ++ tail ∧ exponent (mark :: cs)
      = if tail.takeWhile isDigit = [] then [] else mark :: (sign ++ tail.takeWhile isDigit) := by
  have hmark' : mark = 'e' ∨ mark = 'E' := hmark
  by_cases hplus : ∃ tail, cs = '+' :: tail
  · obtain ⟨tail, rfl⟩ := hplus
    refine ⟨['+'], tail, .inr (.inr rfl), rfl, ?_⟩
    cases hds : tail.takeWhile isDigit <;> simp [exponent, hmark', hds]
  by_cases hminus : ∃ tail, cs = '-' :: tail
  · obtain ⟨tail, rfl⟩ := hminus
    refine ⟨['-'], tail, .inr (.inl rfl), rfl, ?_⟩
    cases hds : tail.takeWhile isDigit <;> simp [exponent, hmark', hds]
  · refine ⟨[], cs, .inl rfl, rfl, ?_⟩
    rw [not_exists] at hplus hminus
    cases hds : cs.takeWhile isDigit <;> simp [exponent, hmark', hds]

theorem exponent_spec (cs : List Char) : exponent cs = [] ∨ ∃ mark sign ds rest, IsMark mark
    ∧ IsSign sign ∧ AllDigits ds ∧ ds ≠ [] ∧ exponent cs = mark :: (sign ++ ds)
    ∧ cs = mark :: (sign ++ ds) ++ rest := by
  cases cs with
  | nil => exact .inl rfl
  | cons c cs =>
    by_cases hmark : IsMark c
    · obtain ⟨sign, tail, hsign, rfl, hread⟩ := exponent_of_mark hmark cs
      by_cases hnone : tail.takeWhile isDigit = []
      · exact .inl (by rw [hread, if_pos hnone])
      · refine .inr ⟨c, sign, _, tail.dropWhile isDigit, hmark, hsign, allDigits_takeWhile tail, hnone,
          by rw [hread, if_neg hnone], ?_⟩
        simp
    · exact .inl (if_neg (by simpa [IsMark] using hmark))

/-- The texts of numbers: digits with at most one point among them, and then perhaps an exponent, which
has a digit. -/
def IsNumberText (cs : List Char) : Prop :=
  ∃ l : Numeral, ∃ mark, IsMark mark ∧ l.IsShape ∧ cs = l.textWith mark

/-- Of the numbers that the whole begins with, none is longer than the first part. -/
def Longest (number after : List Char) : Prop :=
  ∀ cs, cs <+: number ++ after → IsNumberText cs → cs.length ≤ number.length

/-- What is taken for a number is one, and stands at the start of the text. -/
theorem numeral_spec (cs : List Char) : numeral cs <+: cs ∧ IsNumberText (numeral cs) := by
  obtain ⟨hbegins, whole, fraction, hwhole, hfraction, hmantissa⟩ := mantissa_spec cs
  have hcs := List.prefix_iff_eq_append.1 hbegins
  unfold numeral
  dsimp only
  rcases exponent_spec (cs.drop (mantissa cs).length) with
    hnone | ⟨mark, sign, ds, rest, hmark, hsign, hds, hne, htext, hrest⟩
  · rw [hnone, List.append_nil]
    refine ⟨hbegins, ⟨whole, fraction, none⟩, 'e', .inl rfl, ⟨hwhole, hfraction, nofun⟩, ?_⟩
    rw [hmantissa none, Numeral.textWith_eq]
    exact (List.append_nil _).symm
  · rw [htext]
    refine ⟨⟨rest, ?_⟩, ⟨whole, fraction, some (sign, ds)⟩, mark, hmark, ⟨hwhole, hfraction, ?_⟩, ?_⟩
    · rwa [List.append_assoc, ← hrest]
    · rintro e ⟨⟩
      exact ⟨hsign, hds, hne⟩
    · rw [hmantissa (some (sign, ds)), Numeral.textWith_eq]
      rfl

theorem longest_numeral (cs : List Char) :
    ∃ rest, cs = numeral cs ++ rest ∧ Longest (numeral cs) rest := by
  obtain ⟨⟨rest, hrest⟩, -⟩ := numeral_spec cs
  refine ⟨rest, hrest.symm, ?_⟩
  rintro _ ⟨behind, hbehind⟩ ⟨l, mark, hmark, hl, rfl⟩
  obtain ⟨more, hmore, -⟩ := numeral_textWith hl hmark behind
  rw [hbehind, hrest] at hmore
  rw [hmore, List.length_append]
  exact Nat.le_add_right ..

theorem longest_of_stops (hl : l.IsShape) (hmark : IsMark mark) (hrest : Stops rest) :
    Longest (l.textWith mark) rest := by
  obtain ⟨more, hmore, hend⟩ := numeral_textWith hl hmark rest
  rw [hend hrest, List.append_nil] at hmore
  obtain ⟨after, hafter, hlongest⟩ := longest_numeral (l.textWith mark ++ rest)
  rw [hmore] at hafter hlongest
  rwa [← List.append_cancel_left hafter] at hlongest

/-- The longest number is the one that is taken. -/
theorem numeral_of_longest {number after : List Char} (hnumber : IsNumberText number)
    (hlongest : Longest number after) : numeral (number ++ after) = number := by
  obtain ⟨hbegins, htaken⟩ := numeral_spec (number ++ after)
  obtain ⟨l, mark, hmark, hl, rfl⟩ := hnumber
  obtain ⟨more, hmore, -⟩ := numeral_textWith hl hmark after
  have hlength := hlongest _ hbegins htaken
  rw [hmore, List.length_append] at hlength
  have hnone : more = [] := List.eq_nil_of_length_eq_zero (by omega)
  rw [hmore, hnone, List.append_nil]

theorem longest_nil (number : List Char) : Longest number [] := by
  intro cs hbegins _
  simpa using hbegins.length_le

/-- Where a number begins, its first character is taken. -/
theorem numeral_cons (hc : isDigit c = true ∨ c = '.') (cs : List Char) :
    ∃ ds, numeral (c :: cs) = c :: ds := by
  obtain ⟨ds, hds⟩ : ∃ ds, mantissa (c :: cs) = c :: ds := by
    rcases hc with hc | rfl
    · have hdigit : AllDigits [c] := by simpa [AllDigits] using hc
      exact ⟨_, mantissa_digits hdigit cs⟩
    · exact ⟨_, rfl⟩
  exact ⟨_, by rw [numeral, hds]; rfl⟩

/-- A number without a digit is a point with its exponent, where it begins as numbers do. -/
theorem significand_of_no_digit (hmark : IsMark mark) (hwhole : l.whole = [])
    (hfraction : l.fractionDigits = []) (hhead : l.textWith mark = c :: ds)
    (hc : isDigit c = true ∨ c = '.') : l.significand = ['.'] := by
  unfold Numeral.fractionDigits at hfraction
  unfold Numeral.significand Numeral.fractionText
  cases hf : l.fraction with
  | some fs =>
    rw [hf] at hfraction
    have hnone : fs = [] := hfraction
    rw [hwhole, hnone]
    rfl
  | none =>
    -- then the text is an exponent, and its mark is neither a digit nor a point
    unfold Numeral.textWith Numeral.fractionText Numeral.exponentWith at hhead
    rw [hwhole, hf] at hhead
    cases he : l.exponent with
    | none => simp [he] at hhead
    | some e =>
      rw [he] at hhead
      obtain ⟨rfl, -⟩ := List.cons.inj hhead
      rcases hmark with rfl | rfl <;> rcases hc with hc | hc <;> exact absurd hc (by decide)

end

end FormBuilder.Formula
