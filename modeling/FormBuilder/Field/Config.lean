/-
What fields of each type can be configured with. Every property has a default, so that a
configuration may leave any of them out.
-/
import FormBuilder.Field.Type
import FormBuilder.Text.Blank
import FormBuilder.Text.Case

namespace FormBuilder

/-! ## Parts -/

/-- A choice of a select or radio field. -/
structure Choice where
  id : String
  label : String
  value : String
  deriving DecidableEq, Repr

/-- The value of a choice: the words of its label in lower case with underscores between them. -/
def Choice.valueOf (label : String) : String :=
  "_".intercalate ((Text.words label.toList).map fun w => String.ofList (Text.lower w))

def Choice.ofLabel (id label : String) : Choice := ⟨id, label, Choice.valueOf label⟩

/-- The heading of a row or column of a matrix. -/
structure Axis where
  id : String
  label : String
  deriving DecidableEq, Repr

inductive CellInput where
  | text | number | checkbox | radio
  deriving DecidableEq, Repr

namespace CellInput

def all : List CellInput := [.text, .number, .checkbox, .radio]

def name : CellInput → String
  | .text => "text"
  | .number => "number"
  | .checkbox => "checkbox"
  | .radio => "radio"

def ofName? (s : String) : Option CellInput := all.find? fun t => t.name == s

end CellInput

/-- How the result of a formula is shown. -/
inductive Formatting where
  | plain | currency
  deriving DecidableEq, Repr

namespace Formatting

def all : List Formatting := [.plain, .currency]

def name : Formatting → String
  | .plain => "none"
  | .currency => "currency_usd"

def ofName? (s : String) : Option Formatting := all.find? fun t => t.name == s

end Formatting

inductive Gateway where
  | stripe | paypal
  deriving DecidableEq, Repr

namespace Gateway

def all : List Gateway := [.stripe, .paypal]

def name : Gateway → String
  | .stripe => "stripe"
  | .paypal => "paypal"

def ofName? (s : String) : Option Gateway := all.find? fun t => t.name == s

end Gateway

/-- A pattern that the text of a field has to match, and what to say when it does not. An empty
pattern asks for nothing. -/
structure Validation where
  regex : String := ""
  errorMessage : String := ""
  deriving DecidableEq, Repr

/-! ## Inputs -/

structure TextConfig where
  subtype : TextSubtype := .text
  placeholder : String := ""
  helperText : String := ""
  required : Bool := false
  deriving DecidableEq, Repr

structure TextareaConfig where
  placeholder : String := ""
  helperText : String := ""
  required : Bool := false
  rows : UInt32 := 0
  richText : Bool := false
  deriving DecidableEq, Repr

structure SelectConfig where
  placeholder : String := ""
  helperText : String := ""
  required : Bool := false
  options : List Choice := []
  searchable : Bool := false
  deriving DecidableEq, Repr

structure RadioGroupConfig where
  helperText : String := ""
  required : Bool := false
  options : List Choice := []
  deriving DecidableEq, Repr

/-- The configuration of inputs that have a helper text and can be required, and nothing else. -/
structure InputConfig where
  helperText : String := ""
  required : Bool := false
  deriving DecidableEq, Repr

structure FileUploadConfig where
  helperText : String := ""
  required : Bool := false
  multiple : Bool := false
  maxSizeInMb : Float := 0.0
  /-- The accepted file name extensions between commas; none means any. -/
  allowedFileTypes : String := ""
  deriving BEq

structure RatingConfig where
  helperText : String := ""
  required : Bool := false
  maxRating : UInt32 := 0
  deriving DecidableEq, Repr

structure SliderConfig where
  helperText : String := ""
  required : Bool := false
  min : Float := 0.0
  max : Float := 0.0
  step : Float := 0.0
  deriving BEq

structure MatrixConfig where
  helperText : String := ""
  rows : List Axis := []
  columns : List Axis := []
  cellInput : CellInput := .text
  deriving DecidableEq, Repr

structure LookupConfig where
  placeholder : String := ""
  helperText : String := ""
  required : Bool := false
  dataSourceUrl : String := ""
  deriving DecidableEq, Repr

structure PaymentConfig where
  helperText : String := ""
  gateway : Gateway := .stripe
  deriving DecidableEq, Repr

structure CalculatedConfig where
  helperText : String := ""
  formula : String := ""
  formatting : Formatting := .plain
  deriving DecidableEq, Repr

/-! ## Content -/

structure SectionBreakConfig where
  description : String := ""
  deriving DecidableEq, Repr

structure ImageConfig where
  src : String := ""
  alt : String := ""
  width : String := ""
  height : String := ""
  deriving DecidableEq, Repr

structure HtmlConfig where
  html : String := ""
  deriving DecidableEq, Repr

end FormBuilder
