/-
The closed set of field types, and the subtypes of text fields.
-/
namespace FormBuilder

inductive TextSubtype where
  | text | email | phone | url | password
  deriving DecidableEq, Repr

namespace TextSubtype

def all : List TextSubtype := [.text, .email, .phone, .url, .password]

def name : TextSubtype → String
  | .text => "text"
  | .email => "email"
  | .phone => "phone"
  | .url => "url"
  | .password => "password"

def ofName? (s : String) : Option TextSubtype := all.find? fun t => t.name == s

/-- The label of a new field of the subtype. -/
def label : TextSubtype → String
  | .text => "Text Field"
  | .email => "Email Field"
  | .phone => "Phone Field"
  | .url => "URL Field"
  | .password => "Password Field"

end TextSubtype

inductive FieldType where
  | text | textarea | select | checkbox | radioGroup | datePicker | time | dateTime | fileUpload
  | signature | rating | slider | sectionBreak | calculated | group | pageBreak | tabs | image
  | html | matrix | lookup | geolocation | payment | repeater | progressTracker | abTest
  deriving DecidableEq, Repr

namespace FieldType

/-- Every type, in the order in which types are numbered. -/
def all : List FieldType :=
  [.text, .textarea, .select, .checkbox, .radioGroup, .datePicker, .time, .dateTime, .fileUpload,
    .signature, .rating, .slider, .sectionBreak, .calculated, .group, .pageBreak, .tabs, .image,
    .html, .matrix, .lookup, .geolocation, .payment, .repeater, .progressTracker, .abTest]

/-- The tag of a type in saved forms. -/
def name : FieldType → String
  | .text => "TextField"
  | .textarea => "TextareaField"
  | .select => "SelectField"
  | .checkbox => "CheckboxField"
  | .radioGroup => "RadioGroupField"
  | .datePicker => "DatePickerField"
  | .time => "TimeField"
  | .dateTime => "DateTimeField"
  | .fileUpload => "FileUploadField"
  | .signature => "SignatureField"
  | .rating => "RatingField"
  | .slider => "SliderField"
  | .sectionBreak => "SectionBreak"
  | .calculated => "CalculatedField"
  | .group => "GroupField"
  | .pageBreak => "PageBreak"
  | .tabs => "TabsField"
  | .image => "ImageField"
  | .html => "HtmlField"
  | .matrix => "MatrixField"
  | .lookup => "LookupField"
  | .geolocation => "GeolocationField"
  | .payment => "PaymentField"
  | .repeater => "RepeaterField"
  | .progressTracker => "ProgressTrackerField"
  | .abTest => "ABTestField"

def ofName? (s : String) : Option FieldType := all.find? fun t => t.name == s

/-- The number of a type. -/
def index (t : FieldType) : Nat := all.idxOf t

/-- Whether fields of the type hold other fields. -/
def isContainer : FieldType → Bool
  | .group | .repeater | .tabs | .abTest => true
  | _ => false

end FieldType

end FormBuilder
