/-
Declarative rules of a form: when the conditions of a rule hold, its actions apply. A rule is
stored on one field and may read and target any field of the form.
-/
import FormBuilder.Value.Basic

namespace FormBuilder

/-! ## Vocabulary -/

/-- The comparison of a condition. An unknown one keeps its spelling and never holds. -/
inductive Operator where
  | eq | neq | gt | lt | contains | notContains | isEmpty | isNotEmpty
  | other (spelling : String)
  deriving DecidableEq, Repr

/-- The effect of an action. An unknown one keeps its spelling and changes nothing. -/
inductive Effect where
  | show | hide | enable | disable | setValue
  | other (spelling : String)
  deriving DecidableEq, Repr

/-- How conditions combine. Anything but `and` combines like `or`. -/
inductive Conjunction where
  | and | or
  | other (spelling : String)
  deriving DecidableEq, Repr

def Operator.text : Operator → String
  | .eq => "eq"
  | .neq => "neq"
  | .gt => "gt"
  | .lt => "lt"
  | .contains => "contains"
  | .notContains => "not_contains"
  | .isEmpty => "is_empty"
  | .isNotEmpty => "is_not_empty"
  | .other spelling => spelling

def Operator.ofText : String → Operator
  | "eq" => .eq
  | "neq" => .neq
  | "gt" => .gt
  | "lt" => .lt
  | "contains" => .contains
  | "not_contains" => .notContains
  | "is_empty" => .isEmpty
  | "is_not_empty" => .isNotEmpty
  | spelling => .other spelling

def Effect.text : Effect → String
  | .show => "show"
  | .hide => "hide"
  | .enable => "enable"
  | .disable => "disable"
  | .setValue => "setValue"
  | .other spelling => spelling

def Effect.ofText : String → Effect
  | "show" => .show
  | "hide" => .hide
  | "enable" => .enable
  | "disable" => .disable
  | "setValue" => .setValue
  | spelling => .other spelling

def Conjunction.text : Conjunction → String
  | .and => "and"
  | .or => "or"
  | .other spelling => spelling

def Conjunction.ofText : String → Conjunction
  | "and" => .and
  | "or" => .or
  | spelling => .other spelling

/-! ## Rules -/

/-- Compares the input of a field with a literal; the literal may be absent. -/
structure Condition where
  id : String
  source : String
  operator : Operator
  value : Option Value
  deriving BEq

structure ConditionGroup where
  conjunction : Conjunction
  conditions : List Condition
  deriving BEq

/-- A group that always holds. -/
def ConditionGroup.always : ConditionGroup := ⟨.and, []⟩

structure Action where
  id : String
  effect : Effect
  target : String
  value : Option Value
  deriving BEq

structure Rule where
  id : String
  name : String
  conditions : ConditionGroup
  actions : List Action
  deriving BEq

/-- An unlimited stock of ids that are in use nowhere: the ids `stock 0`, `stock 1` and so on. -/
abbrev FreshIds := Nat → String

/-- The stock without its first `n` ids. -/
def FreshIds.skip (n : Nat) (stock : FreshIds) : FreshIds := fun i => stock (n + i)

end FormBuilder
