/-
Parsing the text of a parsed expression gives the expression associated to the left, or nothing
where that expression is too tall. Its value is the same in exact arithmetic, but not in doubles.
-/
import FormBuilder.Formula.Eval
import FormBuilder.Proofs.Formula.Lexer
import FormBuilder.Proofs.Formula.Parser
import Mathlib.Algebra.Field.Defs
import Mathlib.Algebra.Group.Basic

namespace FormBuilder.Formula

variable {s : String} {e : Expr}

/-! ## Parsing a text -/

/-- A text that is cut into a formula of the grammar is parsed as its expression. -/
theorem parse_of_cuts {ts : List Token} {n : Nat} (hcuts : Cuts s.toList ts)
    (hderives : DerivesWithin n .expression ts e) (hn : n ≤ depthLimit) :
    parse s = if e.height ≤ depthLimit then .ok e else .error .tooDeep := by
  obtain ⟨placed, htokens, rfl⟩ := hcuts.tokenize
  obtain ⟨d, hd, hderives⟩ := hderives
  have hparse : parse s = parseTokens placed := by
    show (tokenize s).bind parseTokens = _
    rw [htokens]
    rfl
  rw [hparse, parseTokens_of_derives hderives]
  exact if_congr (and_iff_right (hd.trans hn)) rfl rfl

theorem parse_text_of_parse (h : parse s = .ok e) (hfinite : e.Finite) :
    parse e.text = if e.rotated.height ≤ depthLimit then .ok e.rotated else .error .tooDeep := by
  obtain ⟨placed, d, htokens, hderives, hheight⟩ := derives_of_parse h
  have hwritable := writable_operands htokens hderives hfinite
  exact parse_of_cuts (Expr.cuts_textIn hwritable 0) e.derives_tokens hheight

theorem parse_text_eq_ok_iff (h : parse s = .ok e) (hfinite : e.Finite) (e' : Expr) :
    parse e.text = .ok e' ↔ e.rotated.height ≤ depthLimit ∧ e' = e.rotated := by
  rw [parse_text_of_parse h hfinite]
  by_cases hbound : e.rotated.height ≤ depthLimit
  · rw [if_pos hbound]
    constructor
    · rintro ⟨⟩
      exact ⟨hbound, rfl⟩
    · rintro ⟨-, rfl⟩
      rfl
  · rw [if_neg hbound]
    constructor
    · rintro ⟨⟩
    · rintro ⟨hwithin, -⟩
      exact absurd hwithin hbound

/-- All rotations of a parsed expression lead to one expression, and the text of the parsed one is
parsed as that expression, unless it is too tall. -/
theorem parse_text (h : parse s = .ok e) (hfinite : e.Finite) :
    ∃ r, (∀ r', e.RotatesTo r' ↔ r' = r) ∧
      parse e.text = if r.height ≤ depthLimit then .ok r else .error .tooDeep :=
  ⟨e.rotated, e.rotatesTo_iff, parse_text_of_parse h hfinite⟩

/-- The parentheses around the difference are lost, and those that set the product's factors are
kept. -/
theorem parse_text_difference :
    let e : Expr := .sum (.field "a") (.subtract (.number 2.5)
      (.multiply (.negate (.sum (.number 3) (.field "b"))) (.divide (.field "a") (.number 4))))
    let r : Expr := .subtract (.sum (.field "a") (.number 2.5))
      (.divide (.multiply (.negate (.sum (.number 3) (.field "b"))) (.field "a")) (.number 4))
    parse "\x7ba\x7d + (2.5 - -(3 + \x7bb\x7d) * (\x7ba\x7d / 4))" = .ok e ∧ e.Finite ∧
      parse e.text = .ok r := by
  intro e r
  have hparse : parse "\x7ba\x7d + (2.5 - -(3 + \x7bb\x7d) * (\x7ba\x7d / 4))" = .ok e := rfl
  have hfinite : e.Finite := by
    intro x hx
    have hliteral : x = 2.5 ∨ x = 3 ∨ x = 4 := by simpa [e, Expr.operands] using hx
    rcases hliteral with rfl | rfl | rfl <;> decide
  obtain ⟨r', hrotates, htext⟩ := parse_text hparse hfinite
  obtain rfl : r = r' := (hrotates r).1 e.rotatesTo_rotated
  exact ⟨hparse, hfinite, htext⟩

/-! ## Values -/

section Value

variable {K : Type}

/-- The value of an expression for any arithmetic and any reading of its operands. -/
def Expr.value [Add K] [Sub K] [Mul K] [Div K] [Neg K] (number : Float → K) (field : String → K) :
    Expr → K
  | .sum l r => l.value number field + r.value number field
  | .subtract l r => l.value number field - r.value number field
  | .multiply l r => l.value number field * r.value number field
  | .divide l r => l.value number field / r.value number field
  | .negate e => -e.value number field
  | .number x => number x
  | .field id => field id

/-- Evaluation is the value in the arithmetic of doubles. -/
theorem Expr.eval_eq_value (inputs : Inputs) (e : Expr) :
    e.eval inputs = e.value id (inputNumber inputs) := by
  induction e with
  | sum l r hl hr | subtract l r hl hr | multiply l r hl hr | divide l r hl hr =>
    rw [eval, value, hl, hr]
  | negate e ih => rw [eval, value, ih]
  | number | field => rfl

/-- Rotations keep the value where sums and products associate. -/
theorem Expr.Rotates.value_eq [DivisionRing K] {number : Float → K} {field : String → K}
    {e e' : Expr} (h : Rotates e e') : e.value number field = e'.value number field := by
  induction h with
  | sum op a b c =>
    cases op with
    | sum => exact (add_assoc _ _ _).symm
    | subtract => exact (add_sub_assoc _ _ _).symm
  | product op a b c =>
    cases op with
    | multiply => exact (mul_assoc _ _ _).symm
    | divide => exact (mul_div_assoc _ _ _).symm
  | sumLeft op r _ ih | sumRight op l _ ih => cases op <;> simp only [SumOp.build, value, ih]
  | productLeft op r _ ih | productRight op l _ ih =>
    cases op <;> simp only [ProductOp.build, value, ih]
  | negate _ ih => exact congrArg Neg.neg ih

theorem Expr.value_rotated [DivisionRing K] (number : Float → K) (field : String → K) (e : Expr) :
    e.rotated.value number field = e.value number field := by
  have h := e.rotates_rotated
  generalize e.rotated = r at h
  induction h with
  | refl => rfl
  | tail _ hstep ih => exact hstep.value_eq.symm.trans ih

end Value

/-- What the text of a formula keeps of it. The text is accepted exactly where the expression
associated to the left is not too tall. What is then parsed has the value of the formula in exact
arithmetic, and is the formula itself exactly where no rotation applies to it. Where none applies,
the text is accepted, and what is parsed evaluates to the same double on all inputs. -/
theorem value_parse_text (h : parse s = .ok e) (hfinite : e.Finite) :
    ((∃ e', parse e.text = .ok e') ↔ e.rotated.height ≤ depthLimit) ∧
    (∀ e', parse e.text = .ok e' →
      (∀ (K : Type) [DivisionRing K] (number : Float → K) (field : String → K),
        e'.value number field = e.value number field) ∧
      (e' = e ↔ ∀ r, ¬ e.Rotates r)) ∧
    ((∀ r, ¬ e.Rotates r) →
      ∃ e', parse e.text = .ok e' ∧ ∀ inputs, e'.eval inputs = e.eval inputs) := by
  have hparsed := parse_text_eq_ok_iff h hfinite
  refine ⟨?_, ?_, ?_⟩
  · constructor
    · rintro ⟨e', he'⟩
      exact ((hparsed e').1 he').1
    · intro hbound
      exact ⟨e.rotated, (hparsed _).2 ⟨hbound, rfl⟩⟩
  · intro e' he'
    obtain ⟨-, rfl⟩ := (hparsed e').1 he'
    constructor
    · intro K _ number field
      exact e.value_rotated number field
    · exact e.rotated_eq_self_iff
  · intro hnone
    obtain ⟨-, -, -, -, hheight⟩ := derives_of_parse h
    have hself := e.rotated_eq_self_iff.2 hnone
    refine ⟨e, (hparsed e).2 ⟨?_, hself.symm⟩, fun _ => rfl⟩
    rw [hself]
    exact hheight

/-- Without its parentheses the sum is the same number, but another double. -/
theorem value_parse_text_tenths :
    let e : Expr := .sum (.number 0.1) (.sum (.number 0.2) (.number 0.3))
    let r : Expr := .sum (.sum (.number 0.1) (.number 0.2)) (.number 0.3)
    parse "0.1 + (0.2 + 0.3)" = .ok e ∧ e.Finite ∧ parse e.text = .ok r ∧
      (∀ number : Float → Rat, r.value number (fun _ => 0) = e.value number (fun _ => 0)) ∧
      e.eval Table.empty = 0.6 ∧ r.eval Table.empty ≠ 0.6 := by
  intro e r
  have hparse : parse "0.1 + (0.2 + 0.3)" = .ok e := rfl
  have hfinite : e.Finite := by
    intro x hx
    have hliteral : x = 0.1 ∨ x = 0.2 ∨ x = 0.3 := by simpa [e, Expr.operands] using hx
    rcases hliteral with rfl | rfl | rfl <;> decide
  have htext : parse e.text = .ok r :=
    (parse_text_of_parse hparse hfinite).trans (if_pos (by decide))
  have hvalue := ((value_parse_text hparse hfinite).2.1 r htext).1
  exact ⟨hparse, hfinite, htext, fun number => hvalue Rat number _, by decide, by decide⟩

/-! ## Chains -/

/-- The sum of `n + 1` ones. -/
def Expr.ones : Nat → Expr
  | 0 => .number 1
  | n + 1 => .sum (ones n) (.number 1)

theorem Expr.height_ones (n : Nat) : (ones n).height = n + 1 := by
  induction n with
  | zero => rfl
  | succ n ih =>
    rw [ones, height, ih, height]
    omega

theorem Expr.rotated_ones (n : Nat) : (ones n).rotated = ones n := by
  induction n with
  | zero => rfl
  | succ n ih =>
    rw [ones, rotated, ih]
    rfl

theorem Expr.addLeft_ones (m n : Nat) : addLeft (ones m) (ones n) = ones (m + n + 1) := by
  induction n with
  | zero => rfl
  | succ n ih =>
    rw [ones, addLeft, ih]
    rfl

theorem Expr.writable_ones (n : Nat) : ∀ t ∈ (ones n).operands, t.Writable := by
  have hone : ∀ t ∈ (number 1).operands, t.Writable := by
    intro t ht
    obtain rfl := List.mem_singleton.1 ht
    exact ⟨by decide, by decide⟩
  induction n with
  | zero => exact hone
  | succ n ih => exact List.forall_mem_append.2 ⟨ih, hone⟩

/-- Two expressions in parentheses with a plus between them are parsed as their sum, unless it is
too tall. -/
theorem parse_parens_plus {l r : Expr} (hl : ∀ t ∈ l.operands, t.Writable)
    (hr : ∀ t ∈ r.operands, t.Writable) (hbounds : max l.height r.height < depthLimit) :
    parse ("(" ++ l.text ++ ")" ++ " + " ++ ("(" ++ r.text ++ ")"))
      = if (Expr.sum l.rotated r.rotated).height ≤ depthLimit then .ok (.sum l.rotated r.rotated)
        else .error .tooDeep := by
  have hcuts := cuts_operator (cuts_parenthesized (Expr.cuts_textIn hl 0) true)
    (cuts_parenthesized (Expr.cuts_textIn hr 0) true) (show " + ".toList = _ from rfl) rfl
  have hwithin : ∀ {e : Expr}, e.height ≤ max l.height r.height → ∀ {k}, k ≤ 4 →
      DerivesWithin (max l.height r.height + 1) (phraseOf k)
        (.leftParen :: (e.tokens ++ [.rightParen])) e.rotated := by
    intro e he k hk
    obtain ⟨d, hd, hderives⟩ := e.derives_tokens
    exact DerivesWithin.loosen hk (DerivesWithin.parens ⟨d, hd.trans he, hderives⟩)
  have hderives := (hwithin (k := 1) (Nat.le_max_left ..) (by decide)).sum .sum
    (hwithin (k := 2) (Nat.le_max_right ..) (by decide))
  exact parse_of_cuts hcuts hderives hbounds

/-- Two chains of ones in parentheses are accepted as their sum, but the text of that sum is one
chain, which is too deep where both together are longer than the bound. -/
theorem parse_text_chains {m n : Nat} (hm : m < 255) (hn : n < 255) :
    let e : Expr := .sum (.ones m) (.ones n)
    parse ("(" ++ (Expr.ones m).text ++ ")" ++ " + " ++ ("(" ++ (Expr.ones n).text ++ ")")) = .ok e ∧
      parse e.text = if m + n + 2 ≤ depthLimit then .ok (.ones (m + n + 1)) else .error .tooDeep := by
  intro e
  have hlimit : depthLimit = 256 := rfl
  have hheight : (Expr.sum (.ones m) (.ones n)).height ≤ depthLimit := by
    rw [Expr.height, Expr.height_ones, Expr.height_ones]
    omega
  have hparse := parse_parens_plus (Expr.writable_ones m) (Expr.writable_ones n) hheight
  rw [Expr.rotated_ones, Expr.rotated_ones, if_pos hheight] at hparse
  refine ⟨hparse, ?_⟩
  have hwritable : ∀ t ∈ e.operands, t.Writable :=
    List.forall_mem_append.2 ⟨Expr.writable_ones m, Expr.writable_ones n⟩
  have htext := parse_of_cuts (Expr.cuts_textIn hwritable 0) e.derives_tokens hheight
  have hrotated : e.rotated = .ones (m + n + 1) := by
    rw [Expr.rotated, Expr.rotated_ones, Expr.rotated_ones, Expr.addLeft_ones]
  rw [hrotated, Expr.height_ones] at htext
  exact htext

end FormBuilder.Formula
