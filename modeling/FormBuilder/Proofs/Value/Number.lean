/-
The texts that are read as numbers. Their grammar is that of a browser: nothing at all, a decimal
literal or infinity behind a sign, or the digits of a radix behind its mark. Behind a mark the
reader differs from it: a plus sign may stand before the digits, and the number has to fit into 64
bits.
-/
import FormBuilder.Proofs.Decimal.Closest
import FormBuilder.Proofs.Decimal.Literal
import Mathlib.Data.Nat.Digits.Defs

namespace FormBuilder

open Decimal (IsSign IsMark Numeral withSign nearest infinity Closest)

/-! ## The grammar -/

/-- The letters that announce a radix. -/
def radixMarks : List (Char × Nat) :=
  [('x', 16), ('X', 16), ('o', 8), ('O', 8), ('b', 2), ('B', 2)]

/-- Digits of the radix, at least one, and the whole number that they spell. -/
def SpellsWhole (radix : Nat) (cs : List Char) (n : Nat) : Prop :=
  cs ≠ [] ∧ ∃ ds, List.Forall₂ (fun c d => Text.hexDigit? c = some d ∧ d < radix) cs ds
    ∧ Nat.ofDigits radix ds.reverse = n

/-- A zero, the mark of a radix, a sign and digits of the radix. -/
def Prefixed (sign cs : List Char) (n : Nat) : Prop :=
  ∃ mark radix digits, (mark, radix) ∈ radixMarks ∧ cs = '0' :: mark :: (sign ++ digits)
    ∧ SpellsWhole radix digits n

/-- The numeric texts of a browser, without white space around them, and the double that each
spells. -/
inductive Spells : List Char → Float → Prop
  | nothing : Spells [] 0.0
  | infinite {sign : List Char} (hsign : IsSign sign) :
    Spells (sign ++ "Infinity".toList) (withSign (decide (sign = ['-'])) infinity)
  | decimal {sign : List Char} {l : Numeral} {mark : Char} (hsign : IsSign sign)
    (hmark : IsMark mark) (hl : l.IsLiteral) :
    Spells (sign ++ l.textWith mark) (withSign (decide (sign = ['-'])) (nearest l.digits l.place))
  | prefixed {cs : List Char} {n : Nat} (h : Prefixed [] cs n) : Spells cs (Float.ofNat n)

/-! ## Digits of a radix -/

section Radix

variable {radix n : Nat} {cs ds : List Char}

theorem radixDigit?_eq_some_iff {c : Char} {d : Nat} :
    radixDigit? radix c = some d ↔ Text.hexDigit? c = some d ∧ d < radix := by
  unfold radixDigit?
  rw [Option.filter_eq_some_iff, decide_eq_true_eq]

theorem mapM_radixDigit? {ds : List Nat} : cs.mapM (radixDigit? radix) = some ds
    ↔ List.Forall₂ (fun c d => Text.hexDigit? c = some d ∧ d < radix) cs ds := by
  induction cs generalizing ds with
  | nil => rw [List.mapM_nil, List.forall₂_nil_left_iff, Option.pure_def, Option.some_inj, eq_comm]
  | cons c cs ih =>
    rw [List.mapM_cons, List.forall₂_cons_left_iff]
    simp only [Option.bind_eq_bind, Option.bind_eq_some_iff, Option.pure_def, Option.some.injEq, ih,
      radixDigit?_eq_some_iff]
    constructor
    · rintro ⟨d, hd, ds, hds, rfl⟩
      exact ⟨d, ds, hd, hds, rfl⟩
    · rintro ⟨d, ds, hd, hds, rfl⟩
      exact ⟨d, hd, ds, hds, rfl⟩

/-- Digits spell one number. -/
theorem SpellsWhole.unique {m : Nat} (hm : SpellsWhole radix cs m) (hn : SpellsWhole radix cs n) :
    m = n := by
  obtain ⟨-, ds, hds, rfl⟩ := hm
  obtain ⟨-, ds', hds', rfl⟩ := hn
  have h : some ds = some ds' := (mapM_radixDigit?.2 hds).symm.trans (mapM_radixDigit?.2 hds')
  rw [Option.some.inj h]

theorem not_spellsWhole_plus : ¬ SpellsWhole radix ('+' :: cs) n := by
  rintro ⟨-, ds, hds, -⟩
  obtain ⟨d, -, ⟨hd, -⟩, -⟩ := List.forall₂_cons_left_iff.1 hds
  cases hd

/-- Digits, perhaps behind a plus sign. -/
def SpellsSigned (radix : Nat) (cs : List Char) (n : Nat) : Prop :=
  SpellsWhole radix cs n ∨ ∃ digits, cs = '+' :: digits ∧ SpellsWhole radix digits n

theorem SpellsSigned.unique {m : Nat} (hm : SpellsSigned radix cs m) (hn : SpellsSigned radix cs n) :
    m = n := by
  rcases hm with hm | ⟨digits, rfl, hm⟩
  · rcases hn with hn | ⟨digits, rfl, -⟩
    · exact hm.unique hn
    · exact absurd hm not_spellsWhole_plus
  · rcases hn with hn | ⟨_, ⟨⟩, hn⟩
    · exact absurd hn not_spellsWhole_plus
    · exact hm.unique hn

theorem foldl_eq_ofDigits (radix : Nat) (ds : List Nat) :
    ds.foldl (fun n d => radix * n + d) 0 = Nat.ofDigits radix ds.reverse := by
  rw [Nat.ofDigits_eq_foldr, List.foldr_reverse]
  exact List.foldl_ext _ _ _ fun n d _ => Nat.add_comm _ _

theorem spellsWhole_iff : SpellsWhole radix cs n ↔ cs ≠ []
    ∧ ((cs.mapM (radixDigit? radix)).map fun ds => ds.foldl (fun n d => radix * n + d) 0) = some n := by
  unfold SpellsWhole
  simp only [Option.map_eq_some_iff, mapM_radixDigit?, foldl_eq_ofDigits]

/-- Digits are read if their number fits into 64 bits. -/
theorem radixNumber?_eq_some_iff :
    radixNumber? radix cs = some n ↔ n < 2 ^ 64 ∧ SpellsSigned radix cs n := by
  have hread : ∀ digits, SpellsWhole radix digits n ∧ n < 2 ^ 64
      ↔ (if digits.isEmpty = true then none
        else ((digits.mapM (radixDigit? radix)).map fun ds =>
          ds.foldl (fun n d => radix * n + d) 0).filter (· < Nat.pow 2 64)) = some n := by
    intro digits
    rw [spellsWhole_iff]
    cases digits with
    | nil => simp
    | cons c cs =>
      rw [if_neg (by simp), Option.filter_eq_some_iff, decide_eq_true_eq]
      simp
  unfold radixNumber?
  dsimp only
  rw [← hread, and_comm]
  refine and_congr_right fun _ => ?_
  split
  · rename_i ds
    constructor
    · exact fun h => .inr ⟨ds, rfl, h⟩
    · rintro (h | ⟨_, ⟨⟩, h⟩)
      · exact absurd h not_spellsWhole_plus
      · exact h
  · rename_i hplus
    exact (or_iff_left fun ⟨ds, hds, _⟩ => hplus ds hds).symm

/-- The mark behind a zero tells the radix. -/
theorem radix?_eq_some_iff : radix? cs = some (radix, ds)
    ↔ ∃ mark, (mark, radix) ∈ radixMarks ∧ cs = '0' :: mark :: ds := by
  constructor
  · intro h
    unfold radix? at h
    split at h <;> cases h
    all_goals exact ⟨_, by decide, rfl⟩
  · rintro ⟨mark, hmark, rfl⟩
    simp only [radixMarks, List.mem_cons, List.not_mem_nil, or_false, Prod.mk.injEq] at hmark
    rcases hmark with ⟨rfl, rfl⟩ | ⟨rfl, rfl⟩ | ⟨rfl, rfl⟩ | ⟨rfl, rfl⟩ | ⟨rfl, rfl⟩ | ⟨rfl, rfl⟩ <;> rfl

theorem prefixed_iff {sign : List Char} : Prefixed sign cs n
    ↔ ∃ radix digits, radix? cs = some (radix, sign ++ digits) ∧ SpellsWhole radix digits n := by
  unfold Prefixed
  simp only [radix?_eq_some_iff]
  constructor
  · rintro ⟨mark, radix, digits, hmark, rfl, h⟩
    exact ⟨radix, digits, ⟨mark, hmark, rfl⟩, h⟩
  · rintro ⟨radix, digits, ⟨mark, hmark, rfl⟩, h⟩
    exact ⟨mark, radix, digits, hmark, rfl, h⟩

end Radix

/-! ## Texts without a mark -/

section Plain

variable {sign : List Char} {l : Numeral} {mark : Char}

theorem isNumeral_digit {c : Char} (h : Decimal.isDigit c = true) : isNumeral c = true := by
  unfold isNumeral
  rw [h]
  rfl

theorem isNumeral_sign (h : IsSign sign) : ∀ c ∈ sign, isNumeral c = true := by
  intro c hc
  rcases h with rfl | rfl | rfl
  · cases hc
  · obtain rfl := List.mem_singleton.1 hc
    rfl
  · obtain rfl := List.mem_singleton.1 hc
    rfl

/-- A literal holds no character that the filter stops. -/
theorem isNumeral_textWith (hl : l.IsLiteral) (hmark : IsMark mark) :
    ∀ c ∈ l.textWith mark, isNumeral c = true := by
  have hfraction := hl.fraction
  have hexponent := hl.exponent
  unfold Numeral.textWith Numeral.fractionText Numeral.exponentWith Numeral.fractionDigits at *
  intro c hc
  rcases List.mem_append.1 hc with hc | hc
  · exact isNumeral_digit (hl.whole c hc)
  rcases List.mem_append.1 hc with hc | hc
  · cases hf : l.fraction with
    | none =>
      rw [hf] at hc
      cases hc
    | some ds =>
      rw [hf] at hc hfraction
      rcases List.mem_cons.1 hc with rfl | hc
      · rfl
      · exact isNumeral_digit (hfraction c hc)
  · cases he : l.exponent with
    | none =>
      rw [he] at hc
      cases hc
    | some e =>
      rw [he] at hc
      obtain ⟨hsign, hds, -⟩ := hexponent e he
      rcases List.mem_cons.1 hc with rfl | hc
      · rcases hmark with rfl | rfl <;> rfl
      rcases List.mem_append.1 hc with hc | hc
      · exact isNumeral_sign hsign c hc
      · exact isNumeral_digit (hds c hc)

theorem any_isDigit {ds : List Char} (h : Decimal.AllDigits ds) (hne : ds ≠ []) :
    ds.any Decimal.isDigit = true := by
  obtain ⟨c, cs, rfl⟩ := List.exists_cons_of_ne_nil hne
  rw [List.any_cons, h c (List.mem_cons_self ..), Bool.true_or]

/-- A literal holds a digit. -/
theorem any_isDigit_textWith (hl : l.IsLiteral) : (l.textWith mark).any Decimal.isDigit = true := by
  have hfraction := hl.fraction
  have hsome := hl.ne_nil
  unfold Numeral.textWith Numeral.fractionText Numeral.fractionDigits at *
  rw [List.any_append, List.any_append, Bool.or_eq_true, Bool.or_eq_true]
  rcases hsome with hne | hne
  · exact .inl (any_isDigit hl.whole hne)
  · cases hf : l.fraction with
    | none =>
      rw [hf] at hne
      exact absurd rfl hne
    | some ds =>
      rw [hf] at hfraction hne
      have hdigit : ds.any Decimal.isDigit = true := any_isDigit hfraction hne
      refine .inr (.inl ?_)
      rw [List.any_cons, hdigit, Bool.or_true]

/-- No mark of a radix stands in a literal. -/
theorem radix?_textWith (hsign : IsSign sign) (hl : l.IsLiteral) (hmark : IsMark mark) :
    radix? (sign ++ l.textWith mark) = none := by
  rw [Option.eq_none_iff_forall_ne_some]
  rintro ⟨radix, ds⟩ h
  obtain ⟨letter, hletter, htext⟩ := radix?_eq_some_iff.1 h
  have hmem : letter ∈ sign ++ l.textWith mark := by
    rw [htext]
    exact List.mem_cons_of_mem _ (List.mem_cons_self ..)
  have hother : ∀ m ∈ radixMarks, isNumeral m.1 = false := by decide
  have hnumeral : isNumeral letter = true :=
    (List.mem_append.1 hmem).elim (isNumeral_sign hsign letter) (isNumeral_textWith hl hmark letter)
  exact absurd (hother _ hletter) (by rw [hnumeral]; nofun)

theorem parseTrimmed_infinite (hsign : IsSign sign) : parseTrimmed (sign ++ "Infinity".toList)
    = withSign (decide (sign = ['-'])) infinity := by
  rcases hsign with rfl | rfl | rfl <;> rfl

theorem parseTrimmed_decimal (hsign : IsSign sign) (hl : l.IsLiteral) (hmark : IsMark mark) :
    parseTrimmed (sign ++ l.textWith mark)
      = withSign (decide (sign = ['-'])) (nearest l.digits l.place) := by
  have hliteral : Decimal.literal? (sign ++ l.textWith mark) = _ :=
    Decimal.literal?_eq_some_iff.2 ⟨sign, l, mark, hsign, hmark, hl, rfl, rfl⟩
  have hsplit := hl.splitSign hsign mark
  have hall : (l.textWith mark).all isNumeral = true :=
    List.all_eq_true.2 (isNumeral_textWith hl hmark)
  obtain ⟨c, cs, htext, hc⟩ := hl.head mark
  have hempty : (sign ++ l.textWith mark).isEmpty = false := by
    simp [htext]
  have hinfinity : (l.textWith mark == "Infinity".toList) = false := by
    rw [htext, beq_eq_false_iff_ne]
    rintro ⟨⟩
    exact absurd hc (by decide)
  unfold parseTrimmed
  simp only [hsplit, hempty, hinfinity, radix?_textWith hsign hl hmark, hall, any_isDigit_textWith hl,
    hliteral]
  rfl

/-- Without the mark of a radix, exactly the numeric texts of a browser are read. -/
theorem parseTrimmed_iff_of_plain {cs : List Char} {x : Float} (hplain : radix? cs = none) :
    parseTrimmed cs = x ∧ x.isNaN = false ↔ Spells cs x := by
  have hnan : Decimal.nan.isNaN = true := by decide
  constructor
  · rintro ⟨rfl, hnumber⟩
    -- one case for each way the text can be a number, in the order they are tried
    obtain ⟨sign, hsign, hcs, hnegative⟩ := Decimal.exists_splitSign cs
    unfold parseTrimmed at hnumber ⊢
    dsimp only at hnumber ⊢
    rw [hplain] at hnumber ⊢
    by_cases hempty : cs.isEmpty = true
    · rw [if_pos hempty, List.isEmpty_iff.1 hempty]
      exact .nothing
    rw [if_neg hempty] at hnumber ⊢
    by_cases hinfinity : ((Decimal.splitSign cs).2 == "Infinity".toList) = true
    · rw [if_pos hinfinity, hnegative]
      rw [beq_iff_eq.1 hinfinity] at hcs
      rw [hcs]
      exact .infinite hsign
    rw [if_neg hinfinity] at hnumber ⊢
    dsimp only at hnumber ⊢
    split at hnumber
    · rename_i hfilter
      rw [if_pos hfilter]
      cases hread : Decimal.literal? cs with
      | none =>
        rw [hread] at hnumber
        cases hnan.symm.trans hnumber
      | some y =>
        obtain ⟨sign, l, mark, hsign, hmark, hl, rfl, rfl⟩ := Decimal.literal?_eq_some_iff.1 hread
        exact .decimal hsign hmark hl
    · cases hnan.symm.trans hnumber
  · rintro (_ | hsign | ⟨hsign, hmark, hl⟩ | hprefixed)
    · exact ⟨rfl, by decide⟩
    · exact ⟨parseTrimmed_infinite hsign, Decimal.isNaN_withSign (by decide) _⟩
    · exact ⟨parseTrimmed_decimal hsign hl hmark,
        Decimal.isNaN_withSign (Decimal.isNaN_nearest _ _) _⟩
    · obtain ⟨radix, digits, hradix, -⟩ := prefixed_iff.1 hprefixed
      cases hplain.symm.trans hradix

end Plain

/-! ## Texts with the mark of a radix -/

section Marked

variable {cs ds : List Char} {radix : Nat} (hradix : radix? cs = some (radix, ds))

include hradix

theorem prefixed_iff_of_radix {sign : List Char} {n : Nat} :
    Prefixed sign cs n ↔ ∃ digits, ds = sign ++ digits ∧ SpellsWhole radix digits n := by
  rw [prefixed_iff, hradix]
  constructor
  · rintro ⟨_, digits, ⟨⟩, h⟩
    exact ⟨digits, rfl, h⟩
  · rintro ⟨digits, rfl, h⟩
    exact ⟨radix, digits, rfl, h⟩

theorem prefixed_nil_iff_of_radix {n : Nat} : Prefixed [] cs n ↔ SpellsWhole radix ds n := by
  rw [prefixed_iff_of_radix hradix]
  simp only [List.nil_append, exists_eq_left']

theorem spellsSigned_iff_of_radix {n : Nat} :
    SpellsSigned radix ds n ↔ Prefixed [] cs n ∨ Prefixed ['+'] cs n := by
  rw [prefixed_nil_iff_of_radix hradix, prefixed_iff_of_radix hradix]
  rfl

theorem parseTrimmed_of_radix :
    parseTrimmed cs = ((radixNumber? radix ds).map Float.ofNat).getD Decimal.nan := by
  obtain ⟨mark, -, rfl⟩ := radix?_eq_some_iff.1 hradix
  have hinfinity : ('0' :: mark :: ds == "Infinity".toList) = false := rfl
  have hsign : Decimal.splitSign ('0' :: mark :: ds) = (false, '0' :: mark :: ds) := rfl
  unfold parseTrimmed
  simp only [hsign, hinfinity, hradix]
  cases radixNumber? radix ds <;> simp

theorem spells_iff_of_radix {x : Float} :
    Spells cs x ↔ ∃ n, SpellsWhole radix ds n ∧ x = Float.ofNat n := by
  constructor
  · rintro (_ | hsign | ⟨hsign, hmark, hl⟩ | hprefixed)
    · cases hradix
    · rcases hsign with rfl | rfl | rfl <;> cases hradix
    · rw [radix?_textWith hsign hl hmark] at hradix
      cases hradix
    · exact ⟨_, (prefixed_nil_iff_of_radix hradix).1 hprefixed, rfl⟩
  · rintro ⟨n, h, rfl⟩
    exact .prefixed ((prefixed_nil_iff_of_radix hradix).2 h)

/-- A number behind a mark is read if it fits into 64 bits, and anything else there is no number. -/
theorem parseTrimmed_iff_of_radix {x : Float} : parseTrimmed cs = x ∧ x.isNaN = false
    ↔ ∃ n < 2 ^ 64, SpellsSigned radix ds n ∧ x = Float.ofNat n := by
  have hnan : Decimal.nan.isNaN = true := by decide
  rw [parseTrimmed_of_radix hradix]
  constructor
  · rintro ⟨rfl, hnumber⟩
    cases hread : radixNumber? radix ds with
    | none =>
      rw [hread] at hnumber
      cases hnan.symm.trans hnumber
    | some n =>
      obtain ⟨hlt, hspells⟩ := radixNumber?_eq_some_iff.1 hread
      exact ⟨n, hlt, hspells, rfl⟩
  · rintro ⟨n, hlt, hspells, rfl⟩
    rw [radixNumber?_eq_some_iff.2 ⟨hlt, hspells⟩]
    exact ⟨rfl, Decimal.isNaN_of_isFinite (Decimal.isFinite_ofNat hlt)⟩

theorem closest_of_radix {n : Nat} (hn : SpellsSigned radix ds n) :
    if n < 2 ^ 64 then Closest (parseTrimmed cs) n else (parseTrimmed cs).isNaN = true := by
  split
  · rename_i hlt
    rw [((parseTrimmed_iff_of_radix hradix).2 ⟨n, hlt, hn, rfl⟩).1]
    exact Decimal.closest_ofNat hlt
  · rename_i hlarge
    rw [← Bool.not_eq_false]
    intro hnumber
    obtain ⟨m, hlt, hm, -⟩ := (parseTrimmed_iff_of_radix hradix).1 ⟨rfl, hnumber⟩
    exact hlarge (hm.unique hn ▸ hlt)

end Marked

/-! ## Every text -/

/-- A text is read as a number exactly when a browser reads it as that number, white space around
it aside, but for whole numbers behind the mark of a radix: from `2^64` on they are no numbers, and
below it a plus sign may stand before their digits. Those that are read are the doubles closest to
what their digits spell. -/
theorem parseNumber_spells (s : String) :
    (∀ x, parseNumber s = x ∧ x.isNaN = false
      ↔ Spells (Text.trim s.toList) x ∧ (∀ n, Prefixed [] (Text.trim s.toList) n → n < 2 ^ 64)
        ∨ ∃ n < 2 ^ 64, Prefixed ['+'] (Text.trim s.toList) n ∧ x = Float.ofNat n)
    ∧ ∀ n, Prefixed [] (Text.trim s.toList) n ∨ Prefixed ['+'] (Text.trim s.toList) n →
      if n < 2 ^ 64 then Closest (parseNumber s) n else (parseNumber s).isNaN = true := by
  unfold parseNumber
  generalize Text.trim s.toList = cs
  cases hradix : radix? cs with
  | none =>
    -- without a radix mark in front nothing is prefixed, and the text is plain
    have hnone : ∀ sign n, ¬ Prefixed sign cs n := by
      intro sign n h
      obtain ⟨radix, digits, hsome, -⟩ := prefixed_iff.1 h
      cases hradix.symm.trans hsome
    refine ⟨fun x => ?_, fun n h => (h.elim (hnone _ n) (hnone _ n)).elim⟩
    rw [parseTrimmed_iff_of_plain hradix]
    constructor
    · exact fun h => .inl ⟨h, fun n hn => (hnone _ n hn).elim⟩
    · rintro (⟨h, -⟩ | ⟨n, -, hn, -⟩)
      · exact h
      · exact (hnone _ n hn).elim
  | some marked =>
    obtain ⟨radix, ds⟩ := marked
    refine ⟨fun x => ?_, fun n h => closest_of_radix hradix ((spellsSigned_iff_of_radix hradix).2 h)⟩
    rw [parseTrimmed_iff_of_radix hradix, spells_iff_of_radix hradix]
    constructor
    · rintro ⟨n, hlt, h, rfl⟩
      rcases (spellsSigned_iff_of_radix hradix).1 h with h | h
      · have hn := (prefixed_nil_iff_of_radix hradix).1 h
        refine .inl ⟨⟨n, hn, rfl⟩, fun m hm => ?_⟩
        rwa [((prefixed_nil_iff_of_radix hradix).1 hm).unique hn]
      · exact .inr ⟨n, hlt, h, rfl⟩
    · rintro (⟨⟨n, hn, rfl⟩, hbound⟩ | ⟨n, hlt, hn, rfl⟩)
      · exact ⟨n, hbound n ((prefixed_nil_iff_of_radix hradix).2 hn), .inl hn, rfl⟩
      · exact ⟨n, hlt, (spellsSigned_iff_of_radix hradix).2 (.inr hn), rfl⟩

/-- A plus sign behind the mark is read over, and a digit too many leaves no number. -/
theorem parseNumber_spells_hexadecimal : parseNumber "0x+10" = Float.ofNat 16
    ∧ (parseNumber "0x10000000000000000").isNaN = true := by
  have hplus : Prefixed ['+'] (Text.trim "0x+10".toList) 16 :=
    ⟨'x', 16, ['1', '0'], by decide, by decide, nofun, [1, 0], by simp [Text.hexDigit?], by decide⟩
  have hwide : Prefixed [] (Text.trim "0x10000000000000000".toList) (2 ^ 64) :=
    ⟨'x', 16, '1' :: List.replicate 16 '0', by decide, by decide, nofun, 1 :: List.replicate 16 0,
      by simp [Text.hexDigit?], by decide⟩
  constructor
  · exact (((parseNumber_spells "0x+10").1 _).2 (.inr ⟨16, by decide, hplus, rfl⟩)).1
  · have h := (parseNumber_spells "0x10000000000000000").2 (2 ^ 64) (.inl hwide)
    rwa [if_neg (lt_irrefl _)] at h

end FormBuilder
