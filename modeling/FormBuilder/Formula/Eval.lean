/-
The value of an expression on the inputs of a form, in double-precision arithmetic: division by
zero gives an infinity or no number, never an error.
-/
import FormBuilder.Formula.Expr
import FormBuilder.Value.Basic

namespace FormBuilder.Formula

/-- The number of a referenced input. Unset inputs and those that count as no number are zero. -/
def inputNumber (inputs : Inputs) (id : String) : Float :=
  match inputs.get? id with
  | none => 0.0
  | some v => if v.toNumber.isNaN then 0.0 else v.toNumber

def Expr.eval (inputs : Inputs) : Expr → Float
  | .sum l r => l.eval inputs + r.eval inputs
  | .subtract l r => l.eval inputs - r.eval inputs
  | .multiply l r => l.eval inputs * r.eval inputs
  | .divide l r => l.eval inputs / r.eval inputs
  | .negate e => -e.eval inputs
  | .number x => x
  | .field id => inputNumber inputs id

end FormBuilder.Formula
