/-
Checks of what a respondent has entered: required fields must not be blank, and texts must match the
patterns of their fields.
-/
import FormBuilder.View
import FormBuilder.Pattern.Parser

namespace FormBuilder

/-! ## Issues -/

inductive Issue where
  | required (id : String)
  | pattern (id message : String)
  /-- The pattern of the field is no regular expression. -/
  | invalidPattern (id regex : String)
  deriving DecidableEq, Repr

namespace Issue

def fieldId : Issue → String
  | .required id | .pattern id _ | .invalidPattern id _ => id

def text : Issue → String
  | .required id => id ++ ": This field is required"
  | .pattern id message => id ++ ": " ++ message
  | .invalidPattern id regex => id ++ ": invalid pattern '" ++ regex ++ "': "

end Issue

/-! ## Fields -/

/-- Whether a field counts as left blank. A checkbox does when it is not checked. -/
def Field.isBlank (f : Field) : Option Value → Bool
  | none | some .null => true
  | some (.text s) => s.isEmpty
  | some (.list items) => items.isEmpty
  | some (.bool checked) => f.type == .checkbox && !checked
  | some _ => false

/-- What is said of a text that does not match, when the field does not say it. -/
def Validation.defaultMessage : String := "Invalid value"

def Validation.message (v : Validation) : String :=
  if v.errorMessage.isEmpty then defaultMessage else v.errorMessage

/-- Checks a text against the pattern of a field. -/
def Validation.check (v : Validation) (id text : String) : List Issue :=
  match Pattern.parse? v.regex with
  | none => [.invalidPattern id v.regex]
  | some p => if p.occursIn text then [] else [.pattern id v.message]

/-- The pattern that applies to a field: only text fields and text areas have one, and an empty one
asks for nothing. -/
def Field.pattern? (f : Field) : Option Validation :=
  if f.type == .text || f.type == .textarea then f.head.validation.filter fun v => !v.regex.isEmpty
  else none

/-- What is wrong with the value of a field. Patterns apply to values that are not blank. -/
def validateField (f : Field) (value : Option Value) : List Issue :=
  let blank := f.isBlank value
  (if f.isRequired && blank then [Issue.required f.id] else [])
    ++ match f.pattern? with
      | some v => if blank then [] else v.check f.id ((value.map Value.display).getD "")
      | none => []

/-! ## Pages -/

mutual

/-- What is wrong with a field that is shown and with what is shown inside it. -/
def View.validate : View → List Issue
  | .mk f s slots => validateField f s.value ++ validateSlots slots

def validateSlots : List (SlotView View) → List Issue
  | [] => []
  | ⟨_, _, views⟩ :: slots => validateViews views ++ validateSlots slots

/-- What is wrong with the fields that are shown. Fields that are hidden are not checked. -/
def validateViews : List View → List Issue
  | [] => []
  | v :: vs => v.validate ++ validateViews vs

end

/-! ## Messages -/

def Issue.log : Issue → Log.Entries
  | .invalidPattern id _ => [Log.warn ("Field '" ++ id ++ "' has an invalid pattern: ")]
  | _ => []

end FormBuilder
