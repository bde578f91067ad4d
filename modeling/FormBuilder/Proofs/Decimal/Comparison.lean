/-
Comparison of doubles: two doubles are compared the same from either side, and a double is equal to
itself unless it is no number.
-/
import FormBuilder.Decimal.Binary
import Mathlib.Order.Basic

namespace FormBuilder.Decimal

open Float.Model Float.Model.UnpackedFloat

theorem swap_compare_then (e₁ e₂ : Int) (m₁ m₂ : Nat) :
    ((compare e₁ e₂).then (compare m₁ m₂)).swap = (compare e₂ e₁).then (compare m₂ m₁) := by
  rw [Ordering.swap_then, ← Std.OrientedOrd.eq_swap, ← Std.OrientedOrd.eq_swap]

/-- Comparison from the other side turns the order round. -/
theorem compare_swap (a b : UnpackedFloat) : b.compare a = (a.compare b).map Ordering.swap := by
  cases a with
  | notANumber => cases b <;> rfl
  | infinity s =>
    cases b with
    | finite t => cases s <;> cases t <;> rfl
    | infinity t | zero t => cases s <;> cases t <;> rfl
    | notANumber => cases s <;> rfl
  | zero s =>
    cases b with
    | finite t => cases t <;> rfl
    | infinity t | zero t => cases t <;> rfl
    | notANumber => rfl
  | finite s m e hm =>
    cases b with
    | finite t n k hn =>
      cases s <;> cases t
      · exact congrArg (some ∘ Ordering.swap) (swap_compare_then e k m n).symm
      · rfl
      · rfl
      · exact congrArg some (swap_compare_then e k m n).symm
    | infinity t | zero t => cases s <;> cases t <;> rfl
    | notANumber => cases s <;> rfl

theorem compare_self (a : UnpackedFloat) :
    a.compare a = if a.isNaN then none else some .eq := by
  cases a with
  | notANumber => rfl
  | infinity s | zero s => cases s <;> rfl
  | finite s m e hm =>
    have hself : (compare e e).then (compare m m) = .eq := by
      rw [Std.ReflOrd.compare_self, Std.ReflOrd.compare_self]
      rfl
    cases s with
    | negative =>
      show some ((compare e e).then (compare m m)).swap = some .eq
      rw [hself]
      rfl
    | positive =>
      show some ((compare e e).then (compare m m)) = some .eq
      rw [hself]

theorem beq_comm (x y : Float) : (x == y) = (y == x) := by
  have hswap := compare_swap x.toModel.unpack y.toModel.unpack
  show (x.toModel.unpack.compare y.toModel.unpack == some .eq)
    = (y.toModel.unpack.compare x.toModel.unpack == some .eq)
  rw [hswap]
  cases x.toModel.unpack.compare y.toModel.unpack with
  | none => rfl
  | some o => cases o <;> rfl

/-- Only what is no number differs from itself. -/
theorem beq_self (x : Float) : (x == x) = !x.isNaN := by
  show (x.toModel.unpack.compare x.toModel.unpack == some .eq) = !x.toModel.unpack.isNaN
  rw [compare_self]
  cases x.toModel.unpack.isNaN <;> rfl

end FormBuilder.Decimal
