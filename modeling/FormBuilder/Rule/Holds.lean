/-
When conditions hold on the inputs of a form, and which messages their evaluation leaves.
-/
import FormBuilder.Rule.Basic
import FormBuilder.Log

namespace FormBuilder

/-! ## Operands -/

/-- The number of an operand. One that is absent counts as no number. -/
def operandNumber (v : Option Value) : Float := (v.map Value.toNumber).getD Decimal.nan

/-- The text of an operand. One that is absent reads as `undefined`. -/
def operandText (v : Option Value) : String := (v.map Value.display).getD "undefined"

/-- Whether a text occurs inside another one. -/
def occursIn (part : List Char) : List Char → Bool
  | [] => part.isEmpty
  | c :: cs => part.isPrefixOf (c :: cs) || occursIn part cs

def textContains (whole part : String) : Bool := occursIn part.toList whole.toList

/-! ## Conditions -/

def Operator.holds (op : Operator) (source expected : Option Value) : Bool :=
  match op with
  | .eq => Value.looseEq source expected
  | .neq => !Value.looseEq source expected
  | .gt => operandNumber source > operandNumber expected
  | .lt => operandNumber source < operandNumber expected
  | .contains => textContains (operandText source) (operandText expected)
  | .notContains => !textContains (operandText source) (operandText expected)
  | .isEmpty => Value.isEmpty source
  | .isNotEmpty => !Value.isEmpty source
  | .other _ => false

def Condition.holds (inputs : Inputs) (c : Condition) : Bool :=
  c.operator.holds (inputs.get? c.source) c.value

/-- Whether a group holds. An empty group does. -/
def ConditionGroup.holds (inputs : Inputs) (g : ConditionGroup) : Bool :=
  g.conditions.isEmpty ||
    match g.conjunction with
    | .and => g.conditions.all (·.holds inputs)
    | _ => g.conditions.any (·.holds inputs)

def Rule.fires (inputs : Inputs) (r : Rule) : Bool := r.conditions.holds inputs

/-! ## Messages -/

def Condition.log (c : Condition) : Log.Entries :=
  match c.operator with
  | .other spelling => [Log.debug ("Unknown operator '" ++ spelling ++ "' evaluates to false")]
  | _ => []

/-- The conditions up to and including the first one that answers `settled`. -/
def Condition.examined (inputs : Inputs) (settled : Bool) : List Condition → List Condition
  | [] => []
  | c :: cs => if c.holds inputs == settled then [c] else c :: examined inputs settled cs

/-- Conditions are examined only until they settle the group. -/
def ConditionGroup.log (inputs : Inputs) (g : ConditionGroup) : Log.Entries :=
  let settled := match g.conjunction with
    | .and => false
    | _ => true
  (Condition.examined inputs settled g.conditions).flatMap Condition.log

end FormBuilder
