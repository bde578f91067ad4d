/-
The tokens of an expression's text, and what the grammar makes of them: the expression associated to
the left. The parentheses that the text keeps are those that the grammar needs, up to associativity.
-/
import FormBuilder.Proofs.Formula.Rotation

namespace FormBuilder.Formula

/-! ## Phrases within a nesting -/

/-- The rule that an operator of a precedence belongs to. -/
def phraseOf : Nat → Phrase
  | 0 | 1 => .expression
  | 2 => .term
  | 3 => .unary
  | _ => .primary

/-- The rule derives the tokens, and no token stands in and behind more than `n` parentheses and
signs. -/
def DerivesWithin (n : Nat) (p : Phrase) (ts : List Token) (e : Expr) : Prop :=
  ∃ d ≤ n, Derives p ts e d

section

variable {n m : Nat} {p : Phrase} {ts us : List Token} {e l r : Expr}

theorem DerivesWithin.sum (op : SumOp) (hl : DerivesWithin n .expression ts l)
    (hr : DerivesWithin n .term us r) :
    DerivesWithin n .expression (ts ++ op.token :: us) (op.build l r) := by
  obtain ⟨d, hd, hl⟩ := hl
  obtain ⟨d', hd', hr⟩ := hr
  exact ⟨max d d', Nat.max_le.2 ⟨hd, hd'⟩, hl.sum op hr⟩

theorem DerivesWithin.product (op : ProductOp) (hl : DerivesWithin n .term ts l)
    (hr : DerivesWithin n .unary us r) :
    DerivesWithin n .term (ts ++ op.token :: us) (op.build l r) := by
  obtain ⟨d, hd, hl⟩ := hl
  obtain ⟨d', hd', hr⟩ := hr
  exact ⟨max d d', Nat.max_le.2 ⟨hd, hd'⟩, hl.product op hr⟩

theorem DerivesWithin.negate (h : DerivesWithin n .unary ts e) :
    DerivesWithin (n + 1) .unary (.minus :: ts) (.negate e) := by
  obtain ⟨d, hd, h⟩ := h
  exact ⟨d + 1, Nat.succ_le_succ hd, h.sign .minus⟩

theorem DerivesWithin.parens (h : DerivesWithin n .expression ts e) :
    DerivesWithin (n + 1) .primary (.leftParen :: (ts ++ [.rightParen])) e := by
  obtain ⟨d, hd, h⟩ := h
  exact ⟨d + 1, Nat.succ_le_succ hd, h.parens⟩

/-- A phrase of one rule is a phrase of every rule that binds less tightly. -/
theorem DerivesWithin.loosen {j k : Nat} (hjk : j ≤ k) (h : DerivesWithin n (phraseOf k) ts e) :
    DerivesWithin n (phraseOf j) ts e := by
  obtain ⟨d, hd, h⟩ := h
  refine ⟨d, hd, ?_⟩
  induction hjk with
  | refl => exact h
  | @step k _ ih =>
    refine ih ?_
    match k with
    | 0 => exact h
    | 1 => exact .term h
    | 2 => exact .unary h
    | 3 => exact .primary h
    | _ + 4 => exact h

end

/-! ## The tokens of a text -/

def wrapped (wrap : Bool) (ts : List Token) : List Token :=
  if wrap then .leftParen :: (ts ++ [.rightParen]) else ts

namespace Expr

/-- The tokens of the text of an expression where an operator of precedence `outer` stands around
it. -/
def tokensIn (outer : Nat) (e : Expr) : List Token :=
  wrapped (e.precedence < outer) <|
    match e with
    | .number x => [.number x]
    | .field id => [.field id]
    | .negate v => .minus :: tokensIn 3 v
    | .sum l r => tokensIn 1 l ++ .plus :: tokensIn 1 r
    | .subtract l r => tokensIn 1 l ++ .minus :: tokensIn 2 r
    | .multiply l r => tokensIn 2 l ++ .star :: tokensIn 2 r
    | .divide l r => tokensIn 2 l ++ .slash :: tokensIn 3 r

/-- The tokens of an expression's text. -/
def tokens (e : Expr) : List Token := tokensIn 0 e

theorem tokensIn_eq (outer : Nat) (e : Expr) :
    tokensIn outer e = wrapped (e.precedence < outer) e.tokens := by
  cases e <;> rfl

/-- Only a looser operator is put in parentheses. -/
theorem tokensIn_of_le {outer : Nat} {e : Expr} (h : outer ≤ e.precedence) :
    tokensIn outer e = e.tokens := by
  rw [tokensIn_eq, wrapped, decide_eq_false (Nat.not_lt.2 h), if_neg Bool.false_ne_true]

theorem tokensIn_of_lt {outer : Nat} {e : Expr} (h : e.precedence < outer) :
    tokensIn outer e = .leftParen :: (e.tokens ++ [.rightParen]) := by
  rw [tokensIn_eq, wrapped, decide_eq_true h, if_pos rfl]

end Expr

/-! ## Operators -/

/-- How tightly an operator binds its right operand. -/
def SumOp.right : SumOp → Nat
  | .sum => 1
  | .subtract => 2

def ProductOp.right : ProductOp → Nat
  | .multiply => 2
  | .divide => 3

theorem SumOp.tokens_build (op : SumOp) (l r : Expr) :
    (op.build l r).tokens = l.tokensIn 1 ++ op.token :: r.tokensIn op.right := by
  cases op <;> rfl

theorem ProductOp.tokens_build (op : ProductOp) (l r : Expr) :
    (op.build l r).tokens = l.tokensIn 2 ++ op.token :: r.tokensIn op.right := by
  cases op <;> rfl

namespace Expr

/-! ## Reading them back -/

theorem height_pos (e : Expr) : 0 < e.height := by
  cases e <;> exact Nat.succ_pos _

/-- What has an operator has an operand under it. -/
theorem two_le_height {e : Expr} (h : e.precedence < 4) : 2 ≤ e.height := by
  cases e with
  | sum l r | subtract l r | multiply l r | divide l r =>
    have hl := l.height_pos
    simp only [height]
    omega
  | negate e => exact Nat.succ_le_succ e.height_pos
  | number | field => exact absurd h (Nat.lt_irrefl 4)

/-- The tokens of an expression's text derive the expression associated to the left. Binary
operators leave room for the parentheses that may come around them. -/
def ReadsAlone (e : Expr) : Prop :=
  ∀ n, e.height + (if e.precedence < 3 then 0 else 1) ≤ n + 2 →
    DerivesWithin n (phraseOf e.precedence) e.tokens e.rotated

/-- As the right operand of a sum or of a product, the tokens of an expression continue the chain of
operators on their left, and the expression takes that chain in. -/
structure ReadsBack (e : Expr) : Prop where
  alone : e.ReadsAlone
  added {n : Nat} {us : List Token} {l : Expr} (hl : DerivesWithin n .expression us l)
    (h : e.height ≤ n + 1) :
    DerivesWithin n .expression (us ++ .plus :: tokensIn 1 e) (addLeft l e.rotated)
  multiplied {n : Nat} {us : List Token} {l : Expr} (hl : DerivesWithin n .term us l)
    (h : e.height ≤ n + 1) :
    DerivesWithin n .term (us ++ .star :: tokensIn 2 e) (mulLeft l e.rotated)

/-- An operand is read alone, in parentheses or without. -/
theorem ReadsAlone.operand {e : Expr} {n : Nat} (halone : e.ReadsAlone) (outer : Nat)
    (houter : outer ≤ 3) (h : e.height ≤ n + 1) :
    DerivesWithin n (phraseOf outer) (tokensIn outer e) e.rotated := by
  by_cases hwrap : e.precedence < outer
  · have hheight : 2 ≤ e.height := two_le_height (by omega)
    obtain ⟨m, rfl⟩ : ∃ m, n = m + 1 := ⟨n - 1, by omega⟩
    have hinside := halone m (by rw [if_pos (by omega)]; omega)
    have hprimary := (hinside.loosen (j := 0) (Nat.zero_le _)).parens
    rw [tokensIn_of_lt hwrap]
    exact DerivesWithin.loosen (k := 4) (by omega) hprimary
  · have hle := Nat.not_lt.1 hwrap
    rw [tokensIn_of_le hle]
    refine (halone n ?_).loosen hle
    split <;> omega

/-- What is no sum and no difference joins a sum as one term. -/
theorem ReadsAlone.added {e l : Expr} {n : Nat} {us : List Token} (halone : e.ReadsAlone)
    (hprecedence : 2 ≤ e.precedence) (hl : DerivesWithin n .expression us l) (h : e.height ≤ n + 1) :
    DerivesWithin n .expression (us ++ .plus :: tokensIn 1 e) (addLeft l e.rotated) := by
  have hterm := halone.operand 2 (by decide) h
  rw [tokensIn_of_le hprecedence] at hterm
  rw [tokensIn_of_le (by omega), addLeft_of_precedence (by rw [precedence_rotated]; omega)]
  exact hl.sum .sum hterm

/-- What is no product and no quotient joins a product as one factor. -/
theorem ReadsAlone.multiplied {e l : Expr} {n : Nat} {us : List Token} (halone : e.ReadsAlone)
    (hprecedence : e.precedence ≠ 2) (hl : DerivesWithin n .term us l) (h : e.height ≤ n + 1) :
    DerivesWithin n .term (us ++ .star :: tokensIn 2 e) (mulLeft l e.rotated) := by
  have hfactor : DerivesWithin n .unary (tokensIn 2 e) e.rotated := by
    by_cases hloose : e.precedence < 2
    · have hwrapped := halone.operand 3 (by decide) h
      rwa [tokensIn_of_lt (by omega), ← tokensIn_of_lt hloose] at hwrapped
    · have hplain := halone.operand 3 (by decide) h
      rwa [tokensIn_of_le (by omega), ← tokensIn_of_le (Nat.not_lt.1 hloose)] at hplain
  rw [mulLeft_of_precedence (by rwa [precedence_rotated])]
  exact hl.product .multiply hfactor

section Operators

variable {a b l : Expr} {n : Nat} {us : List Token}

/-- Every operator of a sum continues the chain on its left with its right operand. -/
theorem ReadsBack.joined (hb : b.ReadsBack) (op : SumOp) (hl : DerivesWithin n .expression us l)
    (h : b.height ≤ n + 1) :
    DerivesWithin n .expression (us ++ op.token :: tokensIn op.right b) (op.join l b.rotated) := by
  cases op with
  | sum => exact hb.added hl h
  | subtract => exact hl.sum .subtract (hb.alone.operand 2 (by decide) h)

theorem ReadsBack.joined_product (hb : b.ReadsBack) (op : ProductOp)
    (hl : DerivesWithin n .term us l) (h : b.height ≤ n + 1) :
    DerivesWithin n .term (us ++ op.token :: tokensIn op.right b) (op.join l b.rotated) := by
  cases op with
  | multiply => exact hb.multiplied hl h
  | divide => exact hl.product .divide (hb.alone.operand 3 (by decide) h)

theorem readsBack_build (op : SumOp) (ha : a.ReadsBack) (hb : b.ReadsBack) :
    (op.build a b).ReadsBack := by
  have hone := op.precedence_build a b
  have halone : (op.build a b).ReadsAlone := by
    intro n h
    rw [op.height_build] at h
    rw [hone, op.tokens_build, op.rotated_build]
    exact hb.joined op (ha.alone.operand 1 (by decide) (by omega)) (by omega)
  refine ⟨halone, fun {n us l} hl h => ?_, halone.multiplied (by omega)⟩
  rw [op.height_build] at h
  rw [tokensIn_of_le (Nat.le_of_eq hone.symm), op.tokens_build, op.rotated_build, op.addLeft_join,
    ← List.cons_append, ← List.append_assoc]
  exact hb.joined op (ha.added hl (by omega)) (by omega)

theorem readsBack_build_product (op : ProductOp) (ha : a.ReadsBack) (hb : b.ReadsBack) :
    (op.build a b).ReadsBack := by
  have htwo := op.precedence_build a b
  have halone : (op.build a b).ReadsAlone := by
    intro n h
    rw [op.height_build] at h
    rw [htwo, op.tokens_build, op.rotated_build]
    exact hb.joined_product op (ha.alone.operand 2 (by decide) (by omega)) (by omega)
  refine ⟨halone, halone.added (Nat.le_of_eq htwo.symm), fun {n us l} hl h => ?_⟩
  rw [op.height_build] at h
  rw [tokensIn_of_le (Nat.le_of_eq htwo.symm), op.tokens_build, op.rotated_build, op.mulLeft_join,
    ← List.cons_append, ← List.append_assoc]
  exact hb.joined_product op (ha.multiplied hl (by omega)) (by omega)

/-- A sign stands in front of what is neither a sum nor a product without parentheses. -/
theorem readsBack_negate (ha : a.ReadsBack) : (negate a).ReadsBack := by
  have halone : (negate a).ReadsAlone := by
    intro n h
    have hheight : a.height + 1 + 1 ≤ n + 2 := h
    have hpositive := a.height_pos
    obtain ⟨m, rfl⟩ : ∃ m, n = m + 1 := ⟨n - 1, by omega⟩
    exact (ha.alone.operand 3 (by decide) (by omega)).negate
  exact ⟨halone, halone.added (by simp only [precedence]; omega), halone.multiplied nofun⟩

end Operators

theorem readsBack_number (x : Float) : (number x).ReadsBack := by
  have halone : (number x).ReadsAlone := fun n _ => ⟨0, Nat.zero_le n, .number x⟩
  exact ⟨halone, halone.added (by simp only [precedence]; omega), halone.multiplied nofun⟩

theorem readsBack_field (id : String) : (field id).ReadsBack := by
  have halone : (field id).ReadsAlone := fun n _ => ⟨0, Nat.zero_le n, .field id⟩
  exact ⟨halone, halone.added (by simp only [precedence]; omega), halone.multiplied nofun⟩

theorem readsBack (e : Expr) : e.ReadsBack := by
  induction e with
  | sum l r hl hr => exact readsBack_build .sum hl hr
  | subtract l r hl hr => exact readsBack_build .subtract hl hr
  | multiply l r hl hr => exact readsBack_build_product .multiply hl hr
  | divide l r hl hr => exact readsBack_build_product .divide hl hr
  | negate e ih => exact readsBack_negate ih
  | number x => exact readsBack_number x
  | field id => exact readsBack_field id

/-- The tokens of an expression's text are a formula of the grammar, which stands for the expression
associated to the left and nests no deeper than the expression is tall. -/
theorem derives_tokens (e : Expr) : DerivesWithin e.height .expression e.tokens e.rotated := by
  have h := e.readsBack.alone.operand (n := e.height) 0 (by decide) (by omega)
  rwa [tokensIn_of_le (Nat.zero_le _)] at h

end Expr

end FormBuilder.Formula
