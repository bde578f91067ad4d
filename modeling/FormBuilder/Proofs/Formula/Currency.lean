/-
The layout of amounts of money, and the number of cents that is shown: the amount times a hundred, as
a double, rounded to a whole number, and from the limit on the amount rounded to whole dollars.
-/
import FormBuilder.Formula.Currency
import FormBuilder.Proofs.Decimal.Integral
import FormBuilder.Proofs.Decimal.Product

namespace FormBuilder.Formula

open Decimal

/-! ## Digits in groups -/

/-- The text of an amount without its sign: dollars in groups, and two digits of cents. A zero leads
the dollars only where they have no other digit. -/
structure Price where
  first : List Char
  groups : List (List Char)
  cents : List Char
  first_length : 1 ≤ first.length ∧ first.length ≤ 3
  groups_length : ∀ g ∈ groups, g.length = 3
  cents_length : cents.length = 2
  digits : AllDigits (first ++ groups.flatten ++ cents)
  lead : first.head? = some '0' → first = ['0'] ∧ groups = []

namespace Price

def text (p : Price) : List Char :=
  '$' :: (p.first ++ p.groups.flatMap (',' :: ·) ++ '.' :: p.cents)

/-- The number of cents that the digits spell. -/
def total (p : Price) : Nat := natOfDigits (p.first ++ p.groups.flatten ++ p.cents)

end Price

/-- Behind the first group every one is of three digits, with a comma before it. -/
theorem groupsOf_spec {ds : List Char} (h : ds.length % 3 = 0) :
    ∃ groups : List (List Char), grouped.groupsOf ds = groups.flatMap (',' :: ·) ∧ ds = groups.flatten
      ∧ ∀ g ∈ groups, g.length = 3 := by
  -- on the groups of three; fewer digits are left only when none are
  fun_induction grouped.groupsOf ds with
  | case1 a b c cs ih =>
    have hcs : cs.length % 3 = 0 := by
      simp only [List.length_cons] at h
      omega
    obtain ⟨groups, hgroups, hflatten, hlength⟩ := ih hcs
    refine ⟨[a, b, c] :: groups, ?_, ?_, ?_⟩
    · rw [hgroups]
      rfl
    · rw [hflatten]
      rfl
    · rintro g (- | ⟨_, hg⟩)
      · rfl
      · exact hlength g hg
  | case2 ds hshort =>
    match ds, h with
    | [], _ => exact ⟨[], rfl, rfl, nofun⟩
    | a :: b :: c :: cs, _ => exact absurd rfl (hshort a b c cs)

/-- Digits are laid out in groups of three, but for the first group, which may be shorter. -/
theorem grouped_spec {ds : List Char} (hne : ds ≠ []) :
    ∃ (first : List Char) (groups : List (List Char)), grouped ds = first ++ groups.flatMap (',' :: ·)
      ∧ ds = first ++ groups.flatten ∧ (1 ≤ first.length ∧ first.length ≤ 3)
      ∧ ∀ g ∈ groups, g.length = 3 := by
  have hpos : 0 < ds.length := List.length_pos_of_ne_nil hne
  have hrest : (ds.drop (ds.length % 3)).length % 3 = 0 := by
    rw [List.length_drop]
    omega
  obtain ⟨groups, hgroups, hflatten, hlength⟩ := groupsOf_spec hrest
  unfold grouped
  simp only [hgroups]
  by_cases hwhole : ds.length % 3 = 0
  · -- the first group is one of three digits as well, and loses the comma before it
    rw [if_pos hwhole]
    rw [hwhole, List.drop_zero] at hflatten
    cases groups with
    | nil => exact absurd hflatten hne
    | cons g gs =>
      have hg := hlength g (List.mem_cons_self ..)
      exact ⟨g, gs, rfl, hflatten, by omega, fun x hx => hlength x (List.mem_cons_of_mem _ hx)⟩
  · have hfirst : (ds.take (ds.length % 3)).length = ds.length % 3 := by
      rw [List.length_take]
      omega
    rw [if_neg hwhole]
    refine ⟨_, groups, rfl, ?_, by omega, hlength⟩
    rw [← hflatten, List.take_append_drop]

/-! ## Prices -/

theorem twoDigits_length {n : Nat} (h : n < 100) : (twoDigits n).length = 2 := by
  unfold twoDigits digitChars
  by_cases hn : n < 10
  · rw [if_pos hn, Nat.toDigits_of_lt_base hn]
    rfl
  · have htens : n / 10 < 10 := by omega
    rw [if_neg hn, Nat.toDigits_of_base_le (by decide) (by omega), Nat.toDigits_of_lt_base htens]
    rfl

theorem allDigits_twoDigits (n : Nat) : AllDigits (twoDigits n) := by
  have hdigits := allDigits_digitChars n
  unfold twoDigits
  split
  · exact (allDigits_zeros 1).append hdigits
  · exact hdigits

theorem natOfDigits_twoDigits (n : Nat) : natOfDigits (twoDigits n) = n := by
  unfold twoDigits
  split
  · show natOfDigits (zeros 1 ++ digitChars n) = n
    rw [natOfDigits_append, natOfDigits_zeros, natOfDigits_digitChars, Nat.zero_mul, Nat.zero_add]
  · exact natOfDigits_digitChars n

theorem exists_price (dollars : Nat) {cents : Nat} (h : cents < 100) :
    ∃ p : Price, '$' :: (grouped (digitChars dollars) ++ '.' :: twoDigits cents) = p.text
      ∧ p.total = 100 * dollars + cents := by
  obtain ⟨first, groups, hgrouped, hdigits, hfirst, hgroups⟩ := grouped_spec (digitChars_ne_nil dollars)
  have hcents := twoDigits_length h
  have hlead : first.head? = some '0' → first = ['0'] ∧ groups = [] := by
    intro hzero
    have hhead : (digitChars dollars).head? = some '0' := by
      rw [hdigits, List.head?_append, hzero]
      rfl
    -- only the digits of zero begin with a zero, and they are one
    have hzero : dollars = 0 := by
      by_contra hne
      exact head?_digitChars (Nat.pos_of_ne_zero hne) hhead
    have hone : ['0'] = first ++ groups.flatten := by
      rw [← hdigits, hzero]
      rfl
    have hnone : groups = [] := by
      have hlengths := congrArg List.length hone
      rw [List.length_append, List.length_singleton] at hlengths
      cases groups with
      | nil => rfl
      | cons g gs =>
        have hg := hgroups g (List.mem_cons_self ..)
        rw [List.flatten_cons, List.length_append] at hlengths
        omega
    rw [hnone, List.flatten_nil, List.append_nil] at hone
    exact ⟨hone.symm, hnone⟩
  refine ⟨⟨first, groups, twoDigits cents, hfirst, hgroups, hcents, ?_, hlead⟩, ?_, ?_⟩
  · rw [← hdigits]
    exact (allDigits_digitChars dollars).append (allDigits_twoDigits cents)
  · rw [hgrouped]
    rfl
  · show natOfDigits (first ++ groups.flatten ++ twoDigits cents) = _
    rw [← hdigits, natOfDigits_append, natOfDigits_digitChars, natOfDigits_twoDigits, hcents,
      Nat.mul_comm]
    norm_num

/-! ## The number of cents -/

variable {amount : Float}

theorem value_limit : value (Float.ofNat exactCentsLimit) = 10 ^ 15 := by
  obtain ⟨y, hy, hvalue⟩ := exists_value_eq (n := exactCentsLimit) (by decide) (by decide +kernel)
  rw [(closest_ofNat (by decide)).value_eq hy hvalue]
  norm_num [exactCentsLimit]

theorem lt_limit_iff (h : isFinite amount = true) :
    magnitude amount < Float.ofNat exactCentsLimit ↔ |value amount| < 10 ^ 15 := by
  rw [lt_iff_value_lt (isFinite_magnitude h) (isFinite_ofNat (by decide)), value_magnitude h, value_limit]

theorem lt_zero_iff (h : isFinite amount = true) : amount < 0.0 ↔ value amount < 0 := by
  rw [lt_iff_value_lt h (by decide), value_zero]

/-- The number of cents that an amount is shown as. -/
def shownCents (amount : Float) : Nat :=
  100 * (dollarsAndCents amount).1 + (dollarsAndCents amount).2

/-- The layout of an amount, a minus sign before those below zero. -/
theorem formatCurrency_eq (h : isFinite amount = true) :
    ∃ p : Price, formatCurrency amount = String.ofList ((if value amount < 0 then ['-'] else []) ++ p.text)
      ∧ p.total = shownCents amount := by
  have hcents : (dollarsAndCents amount).2 < 100 := by
    unfold dollarsAndCents
    dsimp only
    split
    · exact Nat.mod_lt _ (by decide)
    · exact Nat.zero_lt_succ 99
  obtain ⟨p, htext, htotal⟩ := exists_price (dollarsAndCents amount).1 hcents
  refine ⟨p, ?_, htotal⟩
  unfold formatCurrency
  rw [h, ← htext]
  simp only [lt_zero_iff h]
  rfl

/-- Below the limit the amount times a hundred is rounded to a double, and then to a whole number. -/
theorem shownCents_of_lt (h : isFinite amount = true) (hlt : |value amount| < 10 ^ 15) :
    RoundsHalfUp (value (magnitude amount * 100.0)) (shownCents amount) := by
  have hnonneg : 0 ≤ value (magnitude amount * 100.0) := by
    have hzero : value 0.0 ≤ 100 * |value amount| := by
      rw [value_zero]
      exact mul_nonneg (by norm_num) (abs_nonneg _)
    exact value_zero.ge.trans ((closest_hundredfold h hlt).le_value (by decide) hzero)
  have hshown : shownCents amount = (Binary.ofFloat (magnitude amount * 100.0)).roundHalfUp := by
    unfold shownCents dollarsAndCents
    dsimp only
    rw [if_pos ((lt_limit_iff h).2 hlt)]
    exact Nat.div_add_mod ..
  rw [hshown, ← abs_of_nonneg hnonneg, abs_value]
  exact Binary.roundHalfUp_spec _

theorem shownCents_lt (h : isFinite amount = true) (hlt : |value amount| < 10 ^ 15) :
    shownCents amount < 2 ^ 64 := by
  obtain ⟨y, hy, hvalue⟩ := exists_value_eq (n := 2 ^ 57) (by norm_num) (by decide +kernel)
  have hle : value (magnitude amount * 100.0) ≤ (2 ^ 57 : Nat) := by
    rw [← hvalue]
    refine (closest_hundredfold h hlt).value_le hy ?_
    rw [hvalue]
    push_cast
    linarith
  have hlow := (shownCents_of_lt h hlt).1
  have hcast : (shownCents amount : ℚ) < (2 ^ 64 : Nat) := by
    push_cast at hle ⊢
    linarith
  exact_mod_cast hcast

/-- From the limit on the amount itself is rounded, to whole dollars. -/
theorem shownCents_of_le (h : isFinite amount = true) (hle : 10 ^ 15 ≤ |value amount|) :
    ∃ dollars, shownCents amount = 100 * dollars ∧ NearestTo dollars |value amount| := by
  refine ⟨(Binary.ofFloat (magnitude amount)).roundHalfEven, ?_, ?_⟩
  · unfold shownCents dollarsAndCents
    dsimp only
    rw [if_neg ((lt_limit_iff h).not.2 (not_lt.2 hle))]
    rfl
  · rw [← abs_abs, ← value_magnitude h, abs_value]
    exact Binary.roundHalfEven_spec _

/-- An amount is laid out in dollars and cents, with a sign if it is below zero. Below the limit the
cents are the double closest to a hundred times the amount, rounded to a whole number, a half up, and
they fit into 64 bits; from the limit on they are those of the nearest number of whole dollars. -/
theorem formatCurrency_layout (h : isFinite amount = true) :
    ∃ p : Price, formatCurrency amount = String.ofList ((if value amount < 0 then ['-'] else []) ++ p.text)
      ∧ (|value amount| < 10 ^ 15 → p.total < 2 ^ 64
        ∧ RoundsHalfUp (value (magnitude amount * 100.0)) p.total
        ∧ Closest (magnitude amount * 100.0) (100 * |value amount|))
      ∧ (10 ^ 15 ≤ |value amount| → ∃ dollars, p.total = 100 * dollars
        ∧ NearestTo dollars |value amount|) := by
  obtain ⟨p, htext, htotal⟩ := formatCurrency_eq h
  refine ⟨p, htext, ?_, ?_⟩
  · intro hlt
    rw [htotal]
    exact ⟨shownCents_lt h hlt, shownCents_of_lt h hlt, closest_hundredfold h hlt⟩
  · intro hle
    rw [htotal]
    exact shownCents_of_le h hle

theorem formatCurrency_layout_millions :
    isFinite (-1234567.5) = true ∧ |value (-1234567.5)| < 10 ^ 15
      ∧ ∃ p : Price, formatCurrency (-1234567.5) = String.ofList ('-' :: p.text)
        ∧ p.total = 123456750 := by
  have hsize : Binary.ofFloat (-1234567.5) = ⟨5302427037204480, -32, false⟩ := by decide
  have hsign : isNegative (-1234567.5) = true := by decide
  have hvalue : value (-1234567.5) = -1234567.5 := by
    rw [value, hsize, hsign]
    norm_num
  have hlt : |value (-1234567.5)| < 10 ^ 15 := by
    rw [hvalue]
    norm_num [abs_of_neg]
  have hfinite : isFinite (-1234567.5) = true := by decide
  obtain ⟨p, htext, hbelow, -⟩ := formatCurrency_layout hfinite
  obtain ⟨-, hrounds, -⟩ := hbelow hlt
  have hproduct : value (magnitude (-1234567.5) * 100.0) = (123456750 : Nat) := by
    have hsize : Binary.ofFloat (magnitude (-1234567.5) * 100.0) = ⟨8285042245632000, -26, false⟩ := by
      decide
    have hsign : isNegative (magnitude (-1234567.5) * 100.0) = false := by decide
    rw [value, hsize, hsign]
    norm_num
  rw [hproduct] at hrounds
  rw [if_pos (by rw [hvalue]; norm_num)] at htext
  exact ⟨hfinite, hlt, p, htext, hrounds.eq_of_natCast⟩

-- from the limit on a half dollar goes to the even neighbour
example : formatCurrency 1000000000000000.5 = "$1,000,000,000,000,000.00" := by decide +kernel

/-! ## Whole numbers of cents -/

/-- A whole number of cents is shown as the double closest to it, so it is shown as it is if and only
if it is a double: without more than 53 binary digits that count. -/
theorem formatCurrency_exact_iff {n : Nat} (h : isFinite amount = true)
    (hlt : |value amount| < 10 ^ 15) (hn : 100 * |value amount| = n) :
    ∃ p : Price, formatCurrency amount = String.ofList ((if value amount < 0 then ['-'] else []) ++ p.text)
      ∧ (∃ x, Closest x n ∧ value x = p.total) ∧ (p.total = n ↔ 2 ^ (n.log2 - 52) ∣ n) := by
  obtain ⟨p, htext, htotal⟩ := formatCurrency_eq h
  have hclosest := closest_hundredfold h hlt
  have hrounds := shownCents_of_lt h hlt
  rw [hn] at hclosest
  rw [← htotal] at hrounds
  -- the product is a whole number already, and rounding leaves it as it is
  obtain ⟨m, hm⟩ := hclosest.exists_natCast
  rw [hm] at hrounds
  have hproduct : value (magnitude amount * 100.0) = p.total := by
    rw [hm, hrounds.eq_of_natCast]
  refine ⟨p, htext, ⟨_, hclosest, hproduct⟩, ?_, ?_⟩
  · intro htotal
    rw [htotal] at hproduct
    exact dvd_of_value_eq hproduct
  · intro hdvd
    have hbound : n < 2 ^ 64 := by
      have : (n : ℚ) < (2 ^ 64 : Nat) := by
        rw [← hn]
        push_cast
        linarith
      exact_mod_cast this
    obtain ⟨y, hy, hvalue⟩ := exists_value_eq hbound hdvd
    have heq := hproduct.symm.trans (hclosest.value_eq hy hvalue)
    exact_mod_cast heq

/-- An amount that is shown with a cent less than it has. -/
theorem formatCurrency_exact_iff_quarter :
    isFinite 90071992547410.25 = true ∧ |value 90071992547410.25| < 10 ^ 15
      ∧ 100 * |value 90071992547410.25| = (9007199254741025 : Nat)
      ∧ formatCurrency 90071992547410.25 = "$90,071,992,547,410.24"
      ∧ ∃ p : Price, formatCurrency 90071992547410.25 = String.ofList p.text
        ∧ p.total ≠ 9007199254741025 := by
  have hfinite : isFinite 90071992547410.25 = true := by decide +kernel
  have hsize : Binary.ofFloat 90071992547410.25 = ⟨5764607523034256, -6, false⟩ := by decide +kernel
  have hsign : isNegative 90071992547410.25 = false := by decide +kernel
  have hvalue : value 90071992547410.25 = 90071992547410.25 := by
    rw [value, hsize, hsign]
    norm_num
  have hlt : |value 90071992547410.25| < 10 ^ 15 := by
    rw [hvalue, abs_of_pos (by norm_num)]
    norm_num
  have hcents : 100 * |value 90071992547410.25| = (9007199254741025 : Nat) := by
    rw [hvalue, abs_of_pos (by norm_num)]
    norm_num
  obtain ⟨p, htext, -, hexact⟩ := formatCurrency_exact_iff hfinite hlt hcents
  rw [if_neg (by rw [hvalue]; norm_num)] at htext
  refine ⟨hfinite, hlt, hcents, by decide +kernel, p, htext, fun h => ?_⟩
  exact absurd (hexact.1 h) (by decide +kernel)

end FormBuilder.Formula
