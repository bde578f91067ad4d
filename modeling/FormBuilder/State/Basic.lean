/-
What inputs make of a form: for every field whether it is visible, whether it is read-only, and its
value. Rules look at the inputs as they were entered, never at what other rules made of them.
-/
import FormBuilder.Tree.Basic
import FormBuilder.Rule.Holds
import FormBuilder.Formula.Calculation

namespace FormBuilder

/-- The state of one field. The value may be unset. -/
structure FieldState where
  isVisible : Bool
  isReadOnly : Bool
  value : Option Value
  deriving BEq

/-- The states of all fields by id, in the order in which the ids are first visited. -/
abbrev FormState := Table FieldState

namespace FormState

def isVisible (s : FormState) (id : String) : Bool := (s.get? id).any (·.isVisible)

def isReadOnly (s : FormState) (id : String) : Bool := (s.get? id).any (·.isReadOnly)

def value? (s : FormState) (id : String) : Option Value := (s.get? id).bind (·.value)

def visibleIds (s : FormState) : List String :=
  (s.rows.filter fun r => r.2.isVisible).map (·.1)

end FormState

/-! ## Rules -/

/-- The state of a field before rules apply. -/
def FieldState.initial (inputs : Inputs) (f : Field) : FieldState :=
  ⟨true, f.head.readOnly, inputs.get? f.id⟩

def Action.applyTo (a : Action) (s : FieldState) : FieldState :=
  match a.effect with
  | .show => { s with isVisible := true }
  | .hide => { s with isVisible := false }
  | .enable => { s with isReadOnly := false }
  | .disable => { s with isReadOnly := true }
  | .setValue => { s with value := a.value }
  | .other _ => s

/-- Applies an action to the state of its target, if the form has it. -/
def Action.apply (a : Action) (s : FormState) : FormState := s.update a.target a.applyTo

namespace Tree

/-- All rules of a form, in the order of the fields that hold them. -/
def rules (t : Tree) : List Rule := t.flatten.flatMap (·.head.rules)

/-- The actions of the rules whose conditions hold, in the order in which they apply. -/
def actions (t : Tree) (inputs : Inputs) : List Action :=
  (t.rules.filter (·.fires inputs)).flatMap (·.actions)

/-! ## Evaluation -/

def initialState (t : Tree) (inputs : Inputs) : FormState :=
  t.flatten.foldl (fun s f => s.add f.id (.initial inputs f)) .empty

/-- Shows the result of a calculated field that has a formula. -/
def calculateField (inputs : Inputs) (s : FormState) (f : Field) : FormState :=
  match f.calculation? with
  | some c =>
    if c.formula.isEmpty then s
    else s.update f.id fun st => { st with value := some (.text (c.calculate inputs)) }
  | none => s

/-- The state of a form: rules apply first, then the results of formulas are put in. -/
def evaluate (t : Tree) (inputs : Inputs) : FormState :=
  t.flatten.foldl (calculateField inputs)
    ((t.actions inputs).foldl (fun s a => a.apply s) (t.initialState inputs))

/-! ## Messages -/

/-- A message about an action of unknown effect on a field of the form. -/
def actionLog (t : Tree) (r : Rule) (a : Action) : Log.Entries :=
  match a.effect with
  | .other spelling =>
    if t.contains a.target then
      [Log.debug ("Ignoring unknown action '" ++ spelling ++ "' in rule '" ++ r.name ++ "'")]
    else []
  | _ => []

def ruleLog (t : Tree) (inputs : Inputs) (r : Rule) : Log.Entries :=
  r.conditions.log inputs ++ if r.fires inputs then r.actions.flatMap (t.actionLog r) else []

def formulaLog (f : Field) : Log.Entries :=
  match f.calculation? with
  | some c => if c.formula.isEmpty then [] else c.log
  | none => []

def evaluateLog (t : Tree) (inputs : Inputs) : Log.Entries :=
  t.rules.flatMap (t.ruleLog inputs) ++ t.flatten.flatMap formulaLog

end Tree

end FormBuilder
