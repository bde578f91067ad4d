/-
New fields, with the content that a designer starts from. The ids of their parts come from a stock
of fresh ids.
-/
import FormBuilder.Field.Basic

namespace FormBuilder

/-- The choice that a new select or radio field offers. -/
def Choice.initial (id : String) : Choice := ⟨id, "Option 1", "option1"⟩

namespace FieldType

/-- How many fresh ids the parts of a new field take. -/
def freshCount : FieldType → Nat
  | .select | .radioGroup => 1
  | .tabs => 2
  | .matrix => 4
  | _ => 0

/-- The label of a new field. Text fields are labelled by their subtype. -/
def label (subtype : TextSubtype) : FieldType → String
  | .text => subtype.label
  | .textarea => "Textarea Field"
  | .select => "Select Field"
  | .checkbox => "Checkbox Field"
  | .radioGroup => "Radio Group"
  | .datePicker => "Date Picker"
  | .time => "Time Picker"
  | .dateTime => "Date Time Picker"
  | .fileUpload => "File Upload"
  | .signature => "Signature"
  | .rating => "Rating"
  | .slider => "Slider"
  | .sectionBreak => "Section Break"
  | .calculated => "Calculated Field"
  | .group => "Container"
  | .pageBreak => "Page Break"
  | .tabs => "Tabs"
  | .image => "Image"
  | .html => "HTML Embed"
  | .matrix => "Matrix Table"
  | .lookup => "Lookup Field"
  | .geolocation => "Location Picker"
  | .payment => "Payment Information"
  | .repeater => "Replicating Group"
  | .progressTracker => "Progress Tracker"
  | .abTest => "A/B Test Variant"

/-- The default value of a new field. -/
def defaultValue : FieldType → Value
  | .checkbox => .bool false
  | .rating => .number 0.0
  | .slider => .number 50.0
  | _ => .text ""

end FieldType

def InputType.helperText : InputType → String
  | .signature => "Please sign here"
  | .geolocation => "Pin a location on the map."
  | _ => "Helper text"

namespace Field

/-- A new field of a type. Only text fields heed the subtype. -/
def new (id : String) (type : FieldType) (subtype : Option TextSubtype) (fresh : FreshIds) :
    Field :=
  let subtype := subtype.getD .text
  let head : Head :=
    { id, label := type.label subtype, defaultValue := some type.defaultValue, styles := [],
      rules := [], validation := some {}, readOnly := false }
  let placeholder := "Value here..."
  let helperText := "Helper text"
  let input (t : InputType) : Field := .leaf head (.input t { helperText := t.helperText })
  match type with
  | .text => .leaf head (.text { subtype, placeholder, helperText })
  | .textarea => .leaf head (.textarea { placeholder, helperText, rows := 3 })
  | .select =>
    .leaf head (.select
      { placeholder := "Select an option", helperText, options := [.initial (fresh 0)] })
  | .radioGroup => .leaf head (.radioGroup { helperText, options := [.initial (fresh 0)] })
  | .checkbox => input .checkbox
  | .datePicker => input .datePicker
  | .time => input .time
  | .dateTime => input .dateTime
  | .signature => input .signature
  | .geolocation => input .geolocation
  | .fileUpload => .leaf head (.fileUpload { helperText, maxSizeInMb := 5.0 })
  | .rating => .leaf head (.rating { helperText := "Rate your experience", maxRating := 5 })
  | .slider => .leaf head (.slider { helperText := "Select a value", max := 100.0, step := 1.0 })
  | .sectionBreak =>
    .leaf head (.sectionBreak { description := "A description for the new section" })
  | .calculated =>
    .leaf head (.calculated { helperText := "This field is calculated automatically" })
  | .matrix =>
    .leaf head (.matrix
      { helperText := "Fill out the table below.",
        rows := [⟨fresh 0, "Row 1"⟩, ⟨fresh 1, "Row 2"⟩],
        columns := [⟨fresh 2, "Column 1"⟩, ⟨fresh 3, "Column 2"⟩] })
  | .lookup =>
    .leaf head (.lookup
      { placeholder := "Search for an item...",
        helperText := "This dropdown is populated from an external source.",
        dataSourceUrl := "https://api.example.com/data" })
  | .payment =>
    .leaf head (.payment { helperText := "Your payment information is secure." })
  | .image =>
    .leaf head (.image
      { src := "https://via.placeholder.com/400x200", alt := "Placeholder Image",
        width := "100%", height := "auto" })
  | .html => .leaf head (.html { html := "<p>Your custom HTML here.</p>" })
  | .pageBreak => .leaf head .pageBreak
  | .progressTracker => .leaf head .progressTracker
  | .group => .group head 1 []
  | .repeater => .repeater head "Add another item" []
  | .tabs => .tabs head [⟨fresh 0, "Tab 1", []⟩, ⟨fresh 1, "Tab 2", []⟩]
  | .abTest => .abTest head [] []

end Field

end FormBuilder
