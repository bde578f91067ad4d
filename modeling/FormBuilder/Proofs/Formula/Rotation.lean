/-
Left re-association of expressions. A rotation moves the parentheses of `a + (b - c)` to the left,
as `(a + b) - c`, and so with products. However an expression is rotated, it ends as the same one.
-/
import FormBuilder.Proofs.Formula.Grammar
import Mathlib.Logic.Relation

namespace FormBuilder.Formula

theorem SumOp.precedence_build (op : SumOp) (l r : Expr) : (op.build l r).precedence = 1 := by
  cases op <;> rfl

theorem ProductOp.precedence_build (op : ProductOp) (l r : Expr) :
    (op.build l r).precedence = 2 := by
  cases op <;> rfl

namespace Expr

/-! ## Rotations -/

/-- One rotation to the left, anywhere in an expression: of a sum whose right operand is a sum or a
difference, or of a product whose right operand is a product or a quotient. -/
inductive Rotates : Expr → Expr → Prop where
  | sum (op : SumOp) (a b c : Expr) : Rotates (.sum a (op.build b c)) (op.build (.sum a b) c)
  | product (op : ProductOp) (a b c : Expr) :
    Rotates (.multiply a (op.build b c)) (op.build (.multiply a b) c)
  | sumLeft {l l' : Expr} (op : SumOp) (r : Expr) (h : Rotates l l') :
    Rotates (op.build l r) (op.build l' r)
  | sumRight {r r' : Expr} (op : SumOp) (l : Expr) (h : Rotates r r') :
    Rotates (op.build l r) (op.build l r')
  | productLeft {l l' : Expr} (op : ProductOp) (r : Expr) (h : Rotates l l') :
    Rotates (op.build l r) (op.build l' r)
  | productRight {r r' : Expr} (op : ProductOp) (l : Expr) (h : Rotates r r') :
    Rotates (op.build l r) (op.build l r')
  | negate {e e' : Expr} (h : Rotates e e') : Rotates (.negate e) (.negate e')

/-- Rotated until no rotation is left. -/
def RotatesTo (e r : Expr) : Prop :=
  Relation.ReflTransGen Rotates e r ∧ ∀ r', ¬ Rotates r r'

/-! ## The rotated expression -/

/-- The sum of two operands, where the sums and differences of the right one take in the left one. -/
def addLeft (l : Expr) : Expr → Expr
  | .sum a b => .sum (addLeft l a) b
  | .subtract a b => .subtract (addLeft l a) b
  | r => .sum l r

/-- The product of two operands, where the products and quotients of the right one take the left one
in. -/
def mulLeft (l : Expr) : Expr → Expr
  | .multiply a b => .multiply (mulLeft l a) b
  | .divide a b => .divide (mulLeft l a) b
  | r => .multiply l r

/-- The expression with all operators associated to the left. -/
def rotated : Expr → Expr
  | .sum l r => addLeft l.rotated r.rotated
  | .subtract l r => .subtract l.rotated r.rotated
  | .multiply l r => mulLeft l.rotated r.rotated
  | .divide l r => .divide l.rotated r.rotated
  | .negate e => .negate e.rotated
  | .number x => .number x
  | .field id => .field id

/-- What is no sum and no difference is added as a whole. -/
theorem addLeft_of_precedence {r : Expr} (h : r.precedence ≠ 1) (l : Expr) :
    addLeft l r = .sum l r := by
  cases r with
  | sum | subtract => exact absurd rfl h
  | multiply | divide | negate | number | field => rfl

theorem mulLeft_of_precedence {r : Expr} (h : r.precedence ≠ 2) (l : Expr) :
    mulLeft l r = .multiply l r := by
  cases r with
  | multiply | divide => exact absurd rfl h
  | sum | subtract | negate | number | field => rfl

theorem precedence_addLeft (l r : Expr) : (addLeft l r).precedence = 1 := by
  cases r <;> rfl

theorem precedence_mulLeft (l r : Expr) : (mulLeft l r).precedence = 2 := by
  cases r <;> rfl

theorem precedence_rotated (e : Expr) : e.rotated.precedence = e.precedence := by
  cases e with
  | sum => exact precedence_addLeft _ _
  | multiply => exact precedence_mulLeft _ _
  | subtract | divide | negate | number | field => rfl

/-! ## One result -/

theorem addLeft_assoc (a b c : Expr) : addLeft a (addLeft b c) = addLeft (addLeft a b) c := by
  induction c with
  | sum x y ih => exact congrArg (Expr.sum · y) ih
  | subtract x y ih => exact congrArg (Expr.subtract · y) ih
  | multiply | divide | negate | number | field => rfl

theorem mulLeft_assoc (a b c : Expr) : mulLeft a (mulLeft b c) = mulLeft (mulLeft a b) c := by
  induction c with
  | multiply x y ih => exact congrArg (Expr.multiply · y) ih
  | divide x y ih => exact congrArg (Expr.divide · y) ih
  | sum | subtract | negate | number | field => rfl

end Expr

/-- The operator between two operands that are associated to the left. -/
def SumOp.join : SumOp → Expr → Expr → Expr
  | .sum => Expr.addLeft
  | .subtract => Expr.subtract

def ProductOp.join : ProductOp → Expr → Expr → Expr
  | .multiply => Expr.mulLeft
  | .divide => Expr.divide

theorem SumOp.rotated_build (op : SumOp) (l r : Expr) :
    (op.build l r).rotated = op.join l.rotated r.rotated := by
  cases op <;> rfl

theorem ProductOp.rotated_build (op : ProductOp) (l r : Expr) :
    (op.build l r).rotated = op.join l.rotated r.rotated := by
  cases op <;> rfl

theorem SumOp.addLeft_join (op : SumOp) (l a b : Expr) :
    Expr.addLeft l (op.join a b) = op.join (Expr.addLeft l a) b := by
  cases op with
  | sum => exact Expr.addLeft_assoc l a b
  | subtract => rfl

theorem ProductOp.mulLeft_join (op : ProductOp) (l a b : Expr) :
    Expr.mulLeft l (op.join a b) = op.join (Expr.mulLeft l a) b := by
  cases op with
  | multiply => exact Expr.mulLeft_assoc l a b
  | divide => rfl

namespace Expr

/-- A rotation does not change where the rotations lead. -/
theorem rotated_of_rotates {e e' : Expr} (h : Rotates e e') : e.rotated = e'.rotated := by
  induction h with
  | sum op a b c =>
    rw [op.rotated_build, rotated, rotated, op.rotated_build]
    exact op.addLeft_join _ _ _
  | product op a b c =>
    rw [op.rotated_build, rotated, rotated, op.rotated_build]
    exact op.mulLeft_join _ _ _
  | sumLeft op r _ ih | sumRight op l _ ih => rw [op.rotated_build, op.rotated_build, ih]
  | productLeft op r _ ih | productRight op l _ ih => rw [op.rotated_build, op.rotated_build, ih]
  | negate _ ih => exact congrArg Expr.negate ih

section Sequences

open Relation (ReflTransGen)

variable {a a' b b' : Expr}

theorem rotates_build (op : SumOp) (ha : ReflTransGen Rotates a a')
    (hb : ReflTransGen Rotates b b') : ReflTransGen Rotates (op.build a b) (op.build a' b') :=
  (ha.lift (op.build · b) fun _ _ => .sumLeft op b).trans
    (hb.lift (op.build a' ·) fun _ _ => .sumRight op a')

theorem rotates_build_product (op : ProductOp) (ha : ReflTransGen Rotates a a')
    (hb : ReflTransGen Rotates b b') : ReflTransGen Rotates (op.build a b) (op.build a' b') :=
  (ha.lift (op.build · b) fun _ _ => .productLeft op b).trans
    (hb.lift (op.build a' ·) fun _ _ => .productRight op a')

theorem rotates_addLeft (l r : Expr) : ReflTransGen Rotates (.sum l r) (addLeft l r) := by
  induction r with
  | sum a b ih => exact .head (.sum .sum l a b) (rotates_build .sum ih .refl)
  | subtract a b ih => exact .head (.sum .subtract l a b) (rotates_build .subtract ih .refl)
  | multiply | divide | negate | number | field => exact .refl

theorem rotates_mulLeft (l r : Expr) : ReflTransGen Rotates (.multiply l r) (mulLeft l r) := by
  induction r with
  | multiply a b ih =>
    exact .head (.product .multiply l a b) (rotates_build_product .multiply ih .refl)
  | divide a b ih => exact .head (.product .divide l a b) (rotates_build_product .divide ih .refl)
  | sum | subtract | negate | number | field => exact .refl

/-- Rotations lead to the rotated expression. -/
theorem rotates_rotated (e : Expr) : ReflTransGen Rotates e e.rotated := by
  induction e with
  | sum l r hl hr => exact (rotates_build .sum hl hr).trans (rotates_addLeft _ _)
  | subtract l r hl hr => exact rotates_build .subtract hl hr
  | multiply l r hl hr => exact (rotates_build_product .multiply hl hr).trans (rotates_mulLeft _ _)
  | divide l r hl hr => exact rotates_build_product .divide hl hr
  | negate e ih => exact ih.lift Expr.negate fun _ _ => .negate
  | number | field => exact .refl

end Sequences

/-! ## No rotation left -/

/-- No sum has a sum or difference on its right, and no product a product or quotient. -/
def LeftAligned : Expr → Prop
  | .sum l r => l.LeftAligned ∧ r.LeftAligned ∧ r.precedence ≠ 1
  | .multiply l r => l.LeftAligned ∧ r.LeftAligned ∧ r.precedence ≠ 2
  | .subtract l r | .divide l r => l.LeftAligned ∧ r.LeftAligned
  | .negate e => e.LeftAligned
  | .number _ | .field _ => True

theorem leftAligned_addLeft {l r : Expr} (hl : l.LeftAligned) (hr : r.LeftAligned) :
    (addLeft l r).LeftAligned := by
  induction r with
  | sum a b iha => exact ⟨iha hr.1, hr.2⟩
  | subtract a b iha => exact ⟨iha hr.1, hr.2⟩
  | multiply | divide | negate | number | field => exact ⟨hl, hr, nofun⟩

theorem leftAligned_mulLeft {l r : Expr} (hl : l.LeftAligned) (hr : r.LeftAligned) :
    (mulLeft l r).LeftAligned := by
  induction r with
  | multiply a b iha => exact ⟨iha hr.1, hr.2⟩
  | divide a b iha => exact ⟨iha hr.1, hr.2⟩
  | sum | subtract | negate | number | field => exact ⟨hl, hr, nofun⟩

theorem leftAligned_rotated (e : Expr) : e.rotated.LeftAligned := by
  induction e with
  | sum l r hl hr => exact leftAligned_addLeft hl hr
  | multiply l r hl hr => exact leftAligned_mulLeft hl hr
  | subtract l r hl hr | divide l r hl hr => exact ⟨hl, hr⟩
  | negate e ih => exact ih
  | number | field => trivial

theorem Rotates.not_leftAligned {e e' : Expr} (h : Rotates e e') : ¬ e.LeftAligned := by
  induction h with
  | sum op a b c =>
    intro h
    exact h.2.2 (op.precedence_build b c)
  | product op a b c =>
    intro h
    exact h.2.2 (op.precedence_build b c)
  | sumLeft op r _ ih | productLeft op r _ ih => cases op <;> exact fun h => ih h.1
  | sumRight op l _ ih =>
    cases op with
    | sum => exact fun h => ih h.2.1
    | subtract => exact fun h => ih h.2
  | productRight op l _ ih =>
    cases op with
    | multiply => exact fun h => ih h.2.1
    | divide => exact fun h => ih h.2
  | negate _ ih => exact ih

theorem rotatesTo_rotated (e : Expr) : e.RotatesTo e.rotated :=
  ⟨rotates_rotated e, fun _ h => h.not_leftAligned (leftAligned_rotated e)⟩

/-- An expression is its rotated one where no rotation is left. -/
theorem rotated_eq_self_iff (e : Expr) : e.rotated = e ↔ ∀ r, ¬ Rotates e r := by
  constructor
  · intro h r hr
    exact hr.not_leftAligned (h ▸ leftAligned_rotated e)
  · intro h
    rcases (rotates_rotated e).cases_head with heq | ⟨r, hr, -⟩
    · exact heq.symm
    · exact absurd hr (h r)

theorem rotated_of_reflTransGen {e r : Expr} (h : Relation.ReflTransGen Rotates e r) :
    e.rotated = r.rotated := by
  induction h with
  | refl => rfl
  | tail _ hstep ih => exact ih.trans (rotated_of_rotates hstep)

/-- However an expression is rotated until no rotation is left, it ends as the rotated one. -/
theorem rotatesTo_iff (e r : Expr) : e.RotatesTo r ↔ r = e.rotated := by
  constructor
  · rintro ⟨hsteps, hend⟩
    rw [rotated_of_reflTransGen hsteps, (rotated_eq_self_iff r).2 hend]
  · rintro rfl
    exact rotatesTo_rotated e

/-! ## Rotations end -/

/-- How many operators and operands an expression has. -/
def size : Expr → Nat
  | .sum l r | .subtract l r | .multiply l r | .divide l r => l.size + r.size + 1
  | .negate e => e.size + 1
  | .number _ | .field _ => 1

/-- How much stands on the right of operators, counted for every operator. -/
def rightWeight : Expr → Nat
  | .sum l r | .subtract l r | .multiply l r | .divide l r => l.rightWeight + r.rightWeight + r.size
  | .negate e => e.rightWeight
  | .number _ | .field _ => 0

theorem size_build (op : SumOp) (l r : Expr) : (op.build l r).size = l.size + r.size + 1 := by
  cases op <;> rfl

theorem size_build_product (op : ProductOp) (l r : Expr) :
    (op.build l r).size = l.size + r.size + 1 := by
  cases op <;> rfl

theorem rightWeight_build (op : SumOp) (l r : Expr) :
    (op.build l r).rightWeight = l.rightWeight + r.rightWeight + r.size := by
  cases op <;> rfl

theorem rightWeight_build_product (op : ProductOp) (l r : Expr) :
    (op.build l r).rightWeight = l.rightWeight + r.rightWeight + r.size := by
  cases op <;> rfl

theorem Rotates.size_eq {e e' : Expr} (h : Rotates e e') : e'.size = e.size := by
  induction h with
  | sum op a b c =>
    simp only [size, size_build]
    omega
  | product op a b c =>
    simp only [size, size_build_product]
    omega
  | sumLeft op r _ ih | sumRight op l _ ih => simp only [size_build, ih]
  | productLeft op r _ ih | productRight op l _ ih => simp only [size_build_product, ih]
  | negate _ ih => simp only [size, ih]

theorem Rotates.rightWeight_lt {e e' : Expr} (h : Rotates e e') :
    e'.rightWeight < e.rightWeight := by
  induction h with
  | sum op a b c =>
    simp only [rightWeight, rightWeight_build, size_build]
    omega
  | product op a b c =>
    simp only [rightWeight, rightWeight_build_product, size_build_product]
    omega
  | sumLeft op r _ ih =>
    simp only [rightWeight_build]
    omega
  | sumRight op l h ih =>
    simp only [rightWeight_build, h.size_eq]
    omega
  | productLeft op r _ ih =>
    simp only [rightWeight_build_product]
    omega
  | productRight op l h ih =>
    simp only [rightWeight_build_product, h.size_eq]
    omega
  | negate _ ih => exact ih

/-- No expression can be rotated forever. -/
theorem wellFounded_rotates : WellFounded fun e' e => Rotates e e' :=
  Subrelation.wf Rotates.rightWeight_lt (measure rightWeight).wf

end Expr

end FormBuilder.Formula
