/-
The palette: the controls that a designer can drag into a form.
-/
import FormBuilder.Field.New

namespace FormBuilder

inductive Category where
  | basic | layout | advanced | smart
  deriving DecidableEq, Repr

def Category.name : Category → String
  | .basic => "Basic"
  | .layout => "Layout"
  | .advanced => "Advanced"
  | .smart => "UX & Smart"

/-- A control of the palette. Dropping it makes a new field. -/
structure Control where
  key : String
  type : FieldType
  subtype : Option TextSubtype
  label : String
  category : Category
  deriving DecidableEq, Repr

/-- The field that dropping a control makes. -/
def Control.field (c : Control) (id : String) (fresh : FreshIds) : Field :=
  .new id c.type c.subtype fresh

namespace Palette

/-- The controls in the order in which they are shown. -/
def controls : List Control :=
  [⟨"TextField", .text, some .text, "Text Field", .basic⟩,
    ⟨"EmailField", .text, some .email, "Email Field", .basic⟩,
    ⟨"PhoneField", .text, some .phone, "Phone Field", .basic⟩,
    ⟨"UrlField", .text, some .url, "URL Field", .basic⟩,
    ⟨"PasswordField", .text, some .password, "Password Field", .basic⟩,
    ⟨"TextareaField", .textarea, none, "Textarea Field", .basic⟩,
    ⟨"SelectField", .select, none, "Select Field", .basic⟩,
    ⟨"CheckboxField", .checkbox, none, "Checkbox Field", .basic⟩,
    ⟨"RadioGroupField", .radioGroup, none, "Radio Group", .basic⟩,
    ⟨"DatePickerField", .datePicker, none, "Date Picker", .basic⟩,
    ⟨"TimeField", .time, none, "Time Picker", .basic⟩,
    ⟨"DateTimeField", .dateTime, none, "Date Time Picker", .basic⟩,
    ⟨"SectionBreak", .sectionBreak, none, "Section Break", .layout⟩,
    ⟨"GroupField", .group, none, "Container (Grid)", .layout⟩,
    ⟨"PageBreak", .pageBreak, none, "Page Break", .layout⟩,
    ⟨"TabsField", .tabs, none, "Tabs", .layout⟩,
    ⟨"ImageField", .image, none, "Image", .layout⟩,
    ⟨"HtmlField", .html, none, "HTML Embed", .layout⟩,
    ⟨"FileUploadField", .fileUpload, none, "File Upload", .advanced⟩,
    ⟨"SignatureField", .signature, none, "Signature", .advanced⟩,
    ⟨"RatingField", .rating, none, "Rating", .advanced⟩,
    ⟨"CalculatedField", .calculated, none, "Calculated Field", .advanced⟩,
    ⟨"MatrixField", .matrix, none, "Matrix Table", .advanced⟩,
    ⟨"LookupField", .lookup, none, "Lookup/Dynamic Dropdown", .advanced⟩,
    ⟨"GeolocationField", .geolocation, none, "Geolocation Picker", .advanced⟩,
    ⟨"PaymentField", .payment, none, "Payment Information", .advanced⟩,
    ⟨"SliderField", .slider, none, "Slider", .smart⟩,
    ⟨"ProgressTrackerField", .progressTracker, none, "Progress Tracker", .smart⟩,
    ⟨"RepeaterField", .repeater, none, "Replicating Group", .smart⟩,
    ⟨"ABTestField", .abTest, none, "A/B Test Variant", .smart⟩]

/-- The control for a type and subtype, or the first control of the type when none has the
subtype. -/
def control? (type : FieldType) (subtype : Option TextSubtype) : Option Control :=
  (controls.find? fun c => c.type == type && c.subtype == subtype).or
    (controls.find? fun c => c.type == type)

end Palette

end FormBuilder
