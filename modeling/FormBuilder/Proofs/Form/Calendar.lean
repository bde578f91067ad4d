/-
The calendar: the date of a day is a date that the calendar has, and counting the days up to that
date leads back to the day. Years are counted from March, in eras of 400 years.
-/
import FormBuilder.Form.Timestamp

namespace FormBuilder.Timestamp

/-! ## Years of an era -/

/-- The days of an era before a year of it. -/
def daysBefore (y : Nat) : Nat := 365 * y + y / 4 - y / 100

theorem yearOfEra_spec {d y : Nat} (hd : d < 146097)
    (hy : y = (d - d / 1460 + d / 36524 - d / 146096) / 365) :
    y < 400 ∧ daysBefore y ≤ d ∧ d ≤ daysBefore y + 365
      ∧ (d = daysBefore y + 365 → y % 4 = 3 ∧ (y % 100 ≠ 99 ∨ y = 399)) := by
  -- the day is in the century of its year, or it is counted into the next one
  have hnear : d / 36524 = y / 100 ∨ d / 36524 = y / 100 + 1 := by
    have hcentury : d / 36524 = 0 ∨ d / 36524 = 1 ∨ d / 36524 = 2 ∨ d / 36524 = 3 ∨ d / 36524 = 4 := by
      omega
    rcases hcentury with h | h | h | h | h <;> omega
  have hyear : y < 400 := by omega
  have hshort : d / 36524 = y / 100 → d / 146096 = 0 := by omega
  have hquarter : d / 1460 ≤ y / 4 + 1 := by omega
  unfold daysBefore
  refine ⟨hyear, ?_, ?_, ?_⟩
  · rcases hnear with h | h <;> omega
  · rcases hnear with h | h <;> omega
  · intro hlast
    have hturn : y / 4 + 1 + d / 36524 ≤ d / 1460 + d / 146096 + y / 100 := by omega
    have hlong : d / 36524 = y / 100 → d / 146096 = 0 → 1460 * (y / 4 + 1) ≤ d := by omega
    rcases hnear with h | h <;> omega

/-! ## Months of a year -/

theorem isLeapYear_iff (year : Int) :
    isLeapYear year = true ↔ year % 4 = 0 ∧ (year % 100 ≠ 0 ∨ year % 400 = 0) := by
  simp [isLeapYear]

/-- The month of a year that begins in March, and the year that it belongs to. -/
def monthFromMarch (m : Nat) : Nat := if m < 10 then m + 3 else m - 9

def yearFromMarch (year : Int) (m : Nat) : Int := if monthFromMarch m ≤ 2 then year + 1 else year

theorem daysFromMarch_fromMarch (year : Int) {m : Nat} (hm : m < 12) (day : Nat) :
    daysFromMarch (yearFromMarch year m) (monthFromMarch m) day
      = 365 * year + year / 4 - year / 100 + year / 400 + ((153 * m + 2) / 5 : Nat) + day - 1 := by
  unfold daysFromMarch yearFromMarch monthFromMarch
  by_cases h : m < 10
  · rw [if_pos h, if_neg (by omega), if_neg (by omega), if_neg (by omega), Nat.add_sub_cancel]
  · rw [if_neg h, if_pos (by omega), if_pos (by omega), if_pos (by omega), Int.add_sub_cancel,
      Nat.sub_add_cancel (by omega)]

theorem day_le_daysInMonth (year : Int) {n m : Nat} (hn : n ≤ 365) (hm : m = (5 * n + 2) / 153)
    (hleap : n = 365 → isLeapYear (year + 1) = true) :
    n - (153 * m + 2) / 5 + 1 ≤ daysInMonth (yearFromMarch year m) (monthFromMarch m) := by
  have hlast : m = 0 ∨ m = 1 ∨ m = 2 ∨ m = 3 ∨ m = 4 ∨ m = 5 ∨ m = 6 ∨ m = 7 ∨ m = 8 ∨ m = 9
      ∨ m = 10 ∨ m = 11 := by omega
  rcases hlast with rfl | rfl | rfl | rfl | rfl | rfl | rfl | rfl | rfl | rfl | rfl | rfl
  case inr.inr.inr.inr.inr.inr.inr.inr.inr.inr.inr =>
    show n - 337 + 1 ≤ if isLeapYear (year + 1) then 29 else 28
    split
    · omega
    · rename_i hcommon
      have hne : n ≠ 365 := fun h => hcommon (hleap h)
      omega
  all_goals
    simp only [daysInMonth, monthFromMarch, Nat.reduceLT, Nat.reduceAdd, Nat.reduceSub, if_true,
      if_false]
    omega

/-! ## Dates -/

theorem daysOfYears {y : Nat} (hy : y < 400) (era : Int) :
    365 * (y + era * 400) + (y + era * 400) / 4 - (y + era * 400) / 100 + (y + era * 400) / 400
      = era * 146097 + daysBefore y := by
  unfold daysBefore
  omega

/-- The date of a day is a date of the calendar, and counting its days leads back to the day. -/
theorem civil_spec (day : Int) :
    (1 ≤ (civil day).2.1 ∧ (civil day).2.1 ≤ 12)
      ∧ (1 ≤ (civil day).2.2 ∧ (civil day).2.2 ≤ daysInMonth (civil day).1 (civil day).2.1)
      ∧ daysFromMarch (civil day).1 (civil day).2.1 (civil day).2.2 = day + epochDay := by
  obtain ⟨d, hd⟩ : ∃ d, d = ((day + epochDay) % 146097).toNat := ⟨_, rfl⟩
  obtain ⟨era, hera⟩ : ∃ era, era = (day + epochDay) / 146097 := ⟨_, rfl⟩
  obtain ⟨y, hy⟩ : ∃ y, y = (d - d / 1460 + d / 36524 - d / 146096) / 365 := ⟨_, rfl⟩
  obtain ⟨n, hn⟩ : ∃ n, n = d - daysBefore y := ⟨_, rfl⟩
  obtain ⟨m, hm⟩ : ∃ m, m = (5 * n + 2) / 153 := ⟨_, rfl⟩
  have hcivil : civil day = (yearFromMarch (y + era * 400) m, monthFromMarch m,
      n - (153 * m + 2) / 5 + 1) := by
    subst hm hn hy hd hera
    rfl
  -- an era is 400 years from the first of March, so its leap day is the last of its days
  have hday : day + epochDay = era * 146097 + d := by omega
  obtain ⟨hyear, hbefore, hafter, hlast⟩ := yearOfEra_spec (by omega) hy
  clear hd hera hy
  have hlong : n ≤ 365 := by omega
  have hmonth : m < 12 := by omega
  have hleap : n = 365 → isLeapYear (y + era * 400 + 1) = true := by
    intro h
    have hyears := hlast (by omega)
    rw [isLeapYear_iff]
    omega
  rw [hcivil]
  refine ⟨?_, ⟨Nat.le_add_left .., day_le_daysInMonth _ hlong hm hleap⟩, ?_⟩
  · show 1 ≤ monthFromMarch m ∧ monthFromMarch m ≤ 12
    unfold monthFromMarch
    split <;> omega
  · have hdays := daysOfYears hyear era
    have hstart : (153 * m + 2) / 5 ≤ n := by omega
    rw [daysFromMarch_fromMarch _ hmonth, hday, hdays]
    clear hlast hm hleap
    show _ + ((n - (153 * m + 2) / 5 + 1 : Nat) : Int) - 1 = _
    omega

end FormBuilder.Timestamp
