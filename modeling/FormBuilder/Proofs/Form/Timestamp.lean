/-
A moment written in ISO 8601 reads back as it was, and reading gives nothing but moments that can be
written so.
-/
import FormBuilder.Proofs.Form.Calendar
import FormBuilder.Proofs.Decimal.Notation

namespace FormBuilder.Timestamp

open Decimal (isDigit natOfDigits digitChars zeros AllDigits NoDigit takeWhile_digits digit_ne)

/-- A moment of a year that a text can hold. -/
structure Valid (t : Timestamp) : Prop where
  minYear_le : minYear ≤ (civil (t.minutes / 1440)).1
  le_maxYear : (civil (t.minutes / 1440)).1 ≤ maxYear
  second_le : t.second ≤ 60
  nanosecond_lt : t.nanosecond < 10 ^ 9

/-! ## Numbers of a fixed width -/

theorem padded_eq (width n : Nat) :
    padded width n = zeros (width - (digitChars n).length) ++ digitChars n := rfl

theorem allDigits_padded (width n : Nat) : AllDigits (padded width n) :=
  (Decimal.allDigits_zeros _).append (Decimal.allDigits_digitChars n)

theorem padded_ne_nil (width n : Nat) : padded width n ≠ [] := by
  rw [padded_eq]
  exact List.append_ne_nil_of_right_ne_nil _ (Decimal.digitChars_ne_nil n)

theorem natOfDigits_padded (width n : Nat) : natOfDigits (padded width n) = n := by
  rw [padded_eq, Decimal.natOfDigits_append, Decimal.natOfDigits_zeros, Nat.zero_mul, Nat.zero_add,
    Decimal.natOfDigits_digitChars]

theorem length_padded {width n : Nat} (hwidth : 0 < width) (h : n < 10 ^ width) :
    (padded width n).length = width := by
  have hle : (digitChars n).length ≤ width :=
    (Nat.length_toDigits_le_iff (by decide) hwidth).2 h
  rw [padded_eq, List.length_append, zeros, List.length_replicate]
  omega

/-! ## Parts of a text -/

theorem skipBlanks_cons {c : Char} (h : Text.isBlank c = false) (cs : List Char) :
    skipBlanks (c :: cs) = c :: cs := by
  unfold skipBlanks
  rw [List.dropWhile_cons, h]
  rfl

theorem isBlank_of_isDigit {c : Char} (h : isDigit c = true) : Text.isBlank c = false := by
  unfold isDigit at h
  simp only [Bool.and_eq_true, decide_eq_true_eq, Char.le_def] at h
  have hlow : (48 : UInt32) ≤ c.val := h.1
  have hhigh : c.val ≤ (57 : UInt32) := h.2
  rw [UInt32.le_iff_toNat_le] at hlow hhigh
  have hlow' : 48 ≤ c.toNat := hlow
  have hhigh' : c.toNat ≤ 57 := hhigh
  simp [Text.isBlank]
  omega

theorem skipBlanks_digits {ds : List Char} (hds : AllDigits ds) (hne : ds ≠ []) (rest : List Char) :
    skipBlanks (ds ++ rest) = ds ++ rest := by
  cases ds with
  | nil => exact absurd rfl hne
  | cons c cs => exact skipBlanks_cons (isBlank_of_isDigit (hds c (List.mem_cons_self ..))) _

theorem number?_digits {width : Option Nat} {ds rest : List Char} (hds : AllDigits ds)
    (hne : ds ≠ []) (hwidth : ∀ w ∈ width, ds.length ≤ w) (hrest : NoDigit rest) :
    number? width (ds ++ rest) = some (natOfDigits ds, rest) := by
  have hempty : ds.isEmpty = false := by
    cases ds with
    | nil => exact absurd rfl hne
    | cons c cs => rfl
  unfold number?
  rw [takeWhile_digits hds hrest]
  cases width with
  | none => simp only [hempty, Bool.false_eq_true, if_false, List.drop_left]
  | some w =>
    simp only [List.take_of_length_le (hwidth w rfl), hempty, Bool.false_eq_true, if_false,
      List.drop_left]

theorem field?_padded {low high n : Nat} {rest : List Char} (hlow : low ≤ n) (hhigh : n ≤ high)
    (hwidth : n < 100) (hrest : NoDigit rest) :
    field? low high (padded 2 n ++ rest) = some (n, rest) := by
  have hlength : (padded 2 n).length = 2 := length_padded (by decide) hwidth
  unfold field?
  rw [skipBlanks_digits (allDigits_padded 2 n) (padded_ne_nil 2 n),
    number?_digits (allDigits_padded 2 n) (padded_ne_nil 2 n) (fun w hw => ?_) hrest,
    natOfDigits_padded]
  · simp [hlow, hhigh]
  · obtain rfl : 2 = w := Option.some.inj hw
    exact Nat.le_of_eq hlength

theorem mark?_cons {c : Char} (h : Text.isBlank c = false) (rest : List Char) :
    mark? c (c :: rest) = some rest := by
  unfold mark?
  rw [skipBlanks_cons h]
  exact if_pos rfl

theorem noDigit_cons {c : Char} (h : isDigit c = false) (rest : List Char) : NoDigit (c :: rest) := by
  rintro d ⟨⟩
  exact h

theorem year?_yearText {year : Int} {rest : List Char} (hlow : minYear ≤ year)
    (hhigh : year ≤ maxYear) (hrest : NoDigit rest) :
    year? (yearText year ++ rest) = some (year, rest) := by
  have hdigits := allDigits_padded 4
  have hne := padded_ne_nil 4
  have hbounds : (minYear ≤ year && year ≤ maxYear) = true := by
    simp [hlow, hhigh]
  unfold yearText
  by_cases hplain : (0 ≤ year && year ≤ 9999) = true
  · -- four digits have no sign, so the first character is neither of the two signs
    rw [if_pos hplain]
    simp only [Bool.and_eq_true, decide_eq_true_eq] at hplain
    have hlength : (padded 4 year.toNat).length = 4 := length_padded (by decide) (by omega)
    have hread : number? (some 4) (padded 4 year.toNat ++ rest) = some (year.toNat, rest) := by
      rw [number?_digits (hdigits _) (hne _) (fun w hw => ?_) hrest, natOfDigits_padded]
      obtain rfl : 4 = w := Option.some.inj hw
      exact Nat.le_of_eq hlength
    have hskip := skipBlanks_digits (hdigits year.toNat) (hne _) rest
    have hcast : ((year.toNat : Nat) : Int) = year := Int.toNat_of_nonneg hplain.1
    unfold year?
    rw [hskip]
    cases htext : padded 4 year.toNat with
    | nil => exact absurd htext (hne _)
    | cons c cs =>
      rw [htext] at hread
      obtain ⟨hminus, hplus, -⟩ := digit_ne (hdigits year.toNat c (htext ▸ List.mem_cons_self ..))
      rw [List.cons_append] at hread ⊢
      split
      · rename_i h
        exact absurd (List.cons.inj h).1 hminus
      · rename_i h
        exact absurd (List.cons.inj h).1 hplus
      · simp only [hread, Option.map_some, hcast, Option.filter_some, hbounds, if_true]
  · rw [if_neg hplain]
    simp only [Bool.and_eq_true, decide_eq_true_eq] at hplain
    have hread : number? none (padded 4 year.natAbs ++ rest) = some (year.natAbs, rest) := by
      rw [number?_digits (hdigits _) (hne _) (by simp) hrest, natOfDigits_padded]
    unfold year?
    by_cases hneg : year < 0
    · have hcast : -((year.natAbs : Nat) : Int) = year := by omega
      rw [if_pos hneg, List.cons_append, skipBlanks_cons rfl]
      simp only [hread, Option.map_some, hcast, Option.filter_some, hbounds, if_true]
    · have hcast : ((year.natAbs : Nat) : Int) = year := by omega
      rw [if_neg hneg, List.cons_append, skipBlanks_cons rfl]
      simp only [hread, Option.map_some, hcast, Option.filter_some, hbounds, if_true]

theorem dropWhile_digits {rest : List Char} (h : NoDigit rest) : rest.dropWhile isDigit = rest := by
  cases rest with
  | nil => rfl
  | cons c cs =>
    have hc := h c rfl
    simp [hc]

theorem fraction?_digits {ds rest : List Char} (hds : AllDigits ds) (hne : ds ≠ [])
    (hlength : ds.length ≤ 9) (hrest : NoDigit rest) :
    fraction? ('.' :: (ds ++ rest)) = some (natOfDigits ds * 10 ^ (9 - ds.length), rest) := by
  have hused : (ds ++ rest).length - rest.length = ds.length := by
    rw [List.length_append, Nat.add_sub_cancel]
  have hread : number? (some 9) (ds ++ rest) = some (natOfDigits ds, rest) := by
    refine number?_digits hds hne (fun w hw => ?_) hrest
    obtain rfl : 9 = w := Option.some.inj hw
    exact hlength
  unfold fraction?
  simp only [hread, Option.map_some, hused, dropWhile_digits hrest]
  rfl

theorem fraction?_fractionText {n : Nat} (h : n < 10 ^ 9) {rest : List Char}
    (hrest : NoDigit rest) (hpoint : rest.head? ≠ some '.') :
    fraction? (fractionText n ++ rest) = some (n, rest) := by
  -- a part of `width` digits stands for its value in units of the last of them
  have hpart : ∀ width k : Nat, 0 < width → width ≤ 9 → k < 10 ^ width → k * 10 ^ (9 - width) = n →
      fraction? ('.' :: padded width k ++ rest) = some (n, rest) := by
    intro width k hpos hle hlt hvalue
    have hlength := length_padded hpos hlt
    rw [List.cons_append, fraction?_digits (allDigits_padded width k) (padded_ne_nil width k)
      (by omega) hrest, natOfDigits_padded, hlength, hvalue]
  unfold fractionText
  split
  · rename_i hzero
    subst hzero
    unfold fraction?
    split
    · rename_i htext
      rw [List.nil_append] at htext
      exact absurd (congrArg List.head? htext) hpoint
    · rfl
  split
  · exact hpart 3 _ (by decide) (by decide) (by omega) (by omega)
  split
  · exact hpart 6 _ (by decide) (by decide) (by omega) (by omega)
  · exact hpart 9 n (by decide) (by decide) h (by omega)

theorem noDigit_fractionText (n : Nat) {rest : List Char} (hrest : NoDigit rest) :
    NoDigit (fractionText n ++ rest) := by
  unfold fractionText
  split
  · exact hrest
  split
  · exact noDigit_cons rfl _
  split
  · exact noDigit_cons rfl _
  · exact noDigit_cons rfl _

theorem offset?_utc : offset? ['Z'] = some (0, []) := rfl

theorem daysInMonth_le (year : Int) (month : Nat) : daysInMonth year month ≤ 31 := by
  unfold daysInMonth
  split
  · split <;> decide
  all_goals decide

/-! ## The whole text -/

theorem bind_eq_of_some {α β : Type} {x : Option α} {f : α → Option β} {a : α} {b : β}
    (h : x = some a) (hrest : f a = some b) : x >>= f = some b := by
  rw [h]
  exact hrest

/-- A moment is read back from its text. -/
theorem ofText?_text (t : Timestamp) (h : t.Valid) : ofText? t.text = some t := by
  obtain ⟨⟨hmonth, hmonth'⟩, ⟨hday, hday'⟩, hcount⟩ := civil_spec (t.minutes / 1440)
  obtain ⟨hlow, hhigh, hsecond, hnanosecond⟩ := h
  unfold ofText? text
  rw [String.toList_ofList]
  unfold dateTimeText
  generalize hcivil : civil (t.minutes / 1440) = date at *
  obtain ⟨year, month, day⟩ := date
  simp only at *
  have hmonthLength : daysInMonth year month ≤ 31 := daysInMonth_le year month
  have hhyphen : ∀ rest, NoDigit ('-' :: rest) := noDigit_cons rfl
  have hcolon : ∀ rest, NoDigit (':' :: rest) := noDigit_cons rfl
  have hend : NoDigit (fractionText t.nanosecond ++ ['Z']) := noDigit_fractionText _ (noDigit_cons rfl _)
  have hminutes : (daysFromMarch year month day - epochDay) * 1440
      + ((t.minutes % 1440).toNat / 60 : Nat) * 60 + ((t.minutes % 1440).toNat % 60 : Nat) - 0
        = t.minutes := by omega
  have hbounds : (minYear ≤ year && year ≤ maxYear) = true := by
    simp [hlow, hhigh]
  -- from here on the reader takes the parts in the order they were written
  unfold ofChars?
  simp only [List.append_assoc, List.cons_append]
  refine bind_eq_of_some (year?_yearText hlow hhigh (hhyphen _)) ?_
  refine bind_eq_of_some (mark?_cons rfl _) ?_
  refine bind_eq_of_some (field?_padded hmonth hmonth' (by omega) (hhyphen _)) ?_
  refine bind_eq_of_some (mark?_cons rfl _) ?_
  refine bind_eq_of_some (field?_padded hday (by omega) (by omega) (noDigit_cons rfl _)) ?_
  refine bind_eq_of_some (if_pos hday') ?_
  refine bind_eq_of_some rfl ?_
  refine bind_eq_of_some (field?_padded (Nat.zero_le _) (by omega) (by omega) (hcolon _)) ?_
  refine bind_eq_of_some (mark?_cons rfl _) ?_
  refine bind_eq_of_some (field?_padded (Nat.zero_le _) (by omega) (by omega) (hcolon _)) ?_
  refine bind_eq_of_some (mark?_cons rfl _) ?_
  refine bind_eq_of_some (field?_padded (Nat.zero_le _) hsecond (by omega) hend) ?_
  refine bind_eq_of_some (fraction?_fractionText hnanosecond (noDigit_cons rfl _) nofun) ?_
  refine bind_eq_of_some offset?_utc ?_
  refine bind_eq_of_some (if_pos rfl) ?_
  refine bind_eq_of_some (if_pos ?_) ?_
  · rw [hminutes, hcivil]
    exact hbounds
  · show some (Timestamp.mk _ t.second t.nanosecond) = _
    rw [hminutes]

/-! ## What is read -/

theorem natOfDigits_lt : ∀ ds : List Char, AllDigits ds → natOfDigits ds < 10 ^ ds.length
  | [], _ => by decide
  | c :: cs, h => by
    have hc : natOfDigits [c] ≤ 9 := by
      have hdigit := h c (List.mem_cons_self ..)
      unfold isDigit at hdigit
      simp only [Bool.and_eq_true, decide_eq_true_eq, Char.le_def, UInt32.le_iff_toNat_le] at hdigit
      have hnine : c.toNat ≤ 57 := hdigit.2
      show 10 * 0 + (c.toNat - 48) ≤ 9
      omega
    have hcs := natOfDigits_lt cs fun d hd => h d (List.mem_cons_of_mem _ hd)
    have hsplit := Decimal.natOfDigits_append [c] cs
    rw [List.singleton_append] at hsplit
    rw [hsplit, List.length_cons, Nat.pow_succ]
    have hle : natOfDigits [c] * 10 ^ cs.length ≤ 9 * 10 ^ cs.length := Nat.mul_le_mul_right _ hc
    omega

theorem number?_lt {w n : Nat} {cs rest : List Char} (h : number? (some w) cs = some (n, rest)) :
    cs.length - rest.length ≤ w ∧ n < 10 ^ (cs.length - rest.length) := by
  unfold number? at h
  simp only at h
  split at h
  · exact nomatch h
  · obtain ⟨rfl, rfl⟩ := Prod.mk.inj (Option.some.inj h)
    have hdigits : AllDigits ((cs.takeWhile isDigit).take w) := fun c hc =>
      List.all_eq_true.1 List.all_takeWhile c (List.mem_of_mem_take hc)
    have hle : ((cs.takeWhile isDigit).take w).length ≤ cs.length :=
      ((List.take_sublist ..).trans (List.takeWhile_sublist _)).length_le
    have hused : cs.length - (cs.drop ((cs.takeWhile isDigit).take w).length).length
        = ((cs.takeWhile isDigit).take w).length := by
      rw [List.length_drop]
      omega
    rw [hused]
    exact ⟨List.length_take_le .., natOfDigits_lt _ hdigits⟩

theorem field?_le {low high : Nat} {cs : List Char} {r : Nat × List Char}
    (h : field? low high cs = some r) : r.1 ≤ high := by
  unfold field? at h
  rw [Option.filter_eq_some_iff] at h
  simpa using (Bool.and_eq_true_iff.1 h.2).2

theorem fraction?_lt {cs : List Char} {r : Nat × List Char} (h : fraction? cs = some r) :
    r.1 < 10 ^ 9 := by
  unfold fraction? at h
  split at h
  · rename_i cs
    rw [Option.map_eq_some_iff] at h
    obtain ⟨⟨n, rest⟩, hread, rfl⟩ := h
    obtain ⟨hle, hlt⟩ := number?_lt hread
    calc n * 10 ^ (9 - (cs.length - rest.length))
        < 10 ^ (cs.length - rest.length) * 10 ^ (9 - (cs.length - rest.length)) :=
          Nat.mul_lt_mul_of_pos_right hlt (Nat.pow_pos (by decide))
      _ = 10 ^ 9 := by rw [← Nat.pow_add, Nat.add_sub_cancel' hle]
  · obtain rfl := Option.some.inj h
    exact Nat.pow_pos (by decide)

/-- Every moment that is read can be written. -/
theorem valid_of_ofText? {s : String} {t : Timestamp} (h : ofText? s = some t) : t.Valid := by
  unfold ofText? ofChars? at h
  obtain ⟨year, -, h⟩ := Option.bind_eq_some_iff.1 h
  obtain ⟨_, -, h⟩ := Option.bind_eq_some_iff.1 h
  obtain ⟨month, -, h⟩ := Option.bind_eq_some_iff.1 h
  obtain ⟨_, -, h⟩ := Option.bind_eq_some_iff.1 h
  obtain ⟨day, -, h⟩ := Option.bind_eq_some_iff.1 h
  obtain ⟨_, -, h⟩ := Option.bind_eq_some_iff.1 h
  simp only at h
  -- the three characters that may part the date from the time, and all others
  split at h
  case h_4 => exact nomatch h
  all_goals
    obtain ⟨_, -, h⟩ := Option.bind_eq_some_iff.1 h
    obtain ⟨hour, -, h⟩ := Option.bind_eq_some_iff.1 h
    obtain ⟨_, -, h⟩ := Option.bind_eq_some_iff.1 h
    obtain ⟨minute, -, h⟩ := Option.bind_eq_some_iff.1 h
    obtain ⟨_, -, h⟩ := Option.bind_eq_some_iff.1 h
    obtain ⟨second, hsecond, h⟩ := Option.bind_eq_some_iff.1 h
    obtain ⟨fraction, hfraction, h⟩ := Option.bind_eq_some_iff.1 h
    obtain ⟨offset, -, h⟩ := Option.bind_eq_some_iff.1 h
    obtain ⟨_, -, h⟩ := Option.bind_eq_some_iff.1 h
    obtain ⟨_, hguard, h⟩ := Option.bind_eq_some_iff.1 h
    obtain rfl := Option.some.inj h
    simp only [Option.guard_eq_some', Bool.and_eq_true, decide_eq_true_eq] at hguard
    exact ⟨hguard.1, hguard.2, field?_le hsecond, fraction?_lt hfraction⟩

end FormBuilder.Timestamp
