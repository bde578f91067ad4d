/-
Fields as JSON: one object that holds what every field has, the tag of the type and the properties
of the type. Reading accepts what writing makes; properties of a type that are left out have their
defaults.
-/
import FormBuilder.Field.Basic
import FormBuilder.Rule.Json

namespace FormBuilder

open Json (required orElse string? bool? float? uint32? list?)

/-! ## Parts -/

def Choice.toJson (c : Choice) : Json :=
  .object [("id", .string c.id), ("label", .string c.label), ("value", .string c.value)]

def Choice.ofJson? (j : Json) : Option Choice := do
  let es ← j.members? ["id", "label", "value"]
  return ⟨← required es "id" string?, ← required es "label" string?, ← required es "value" string?⟩

def Axis.toJson (a : Axis) : Json := .object [("id", .string a.id), ("label", .string a.label)]

def Axis.ofJson? (j : Json) : Option Axis := do
  let es ← j.members? ["id", "label"]
  return ⟨← required es "id" string?, ← required es "label" string?⟩

namespace Validation

def toJson (v : Validation) : Json :=
  .object [("regex", .string v.regex), ("errorMessage", .string v.errorMessage)]

def names : List String := ["regex", "errorMessage"]

def ofJson? (j : Json) : Option Validation := do
  let es ← j.members? names
  return ⟨← orElse es "regex" "" string?, ← orElse es "errorMessage" "" string?⟩

def shape : Json.Shape :=
  .record [("regex", .string), ("errorMessage", .string)] .skipped true fun j => (ofJson? j).isSome

end Validation

/-! ## What every field has -/

namespace Field.Head

def names : List String :=
  ["id", "label", "defaultValue", "styles", "logic", "validation", "readOnly"]

def entries (h : Head) : List (String × Json) :=
  [("id", .string h.id), ("label", .string h.label)]
    ++ Value.entry "defaultValue" h.defaultValue
    ++ (if h.styles.isEmpty then [] else [("styles", .object (Value.entriesToJson h.styles))])
    ++ [("logic", .array (h.rules.map Rule.toJson))]
    ++ (match h.validation with
        | none => []
        | some v => [("validation", v.toJson)])
    ++ [("readOnly", .bool h.readOnly)]

/-- A value that may be null. -/
def optional? (decode : Json → Option α) (j : Json) : Option (Option α) :=
  if j.isNull then some none else (decode j).map some

def ofEntries? (es : List (String × Json)) : Option Head := do
  return {
    id := ← required es "id" string?
    label := ← required es "label" string?
    defaultValue := Value.entry? es "defaultValue"
    styles := ← orElse es "styles" [] Value.mapOfJson?
    rules := ← orElse es "logic" [] (list? Rule.ofJson?)
    validation := ← orElse es "validation" none (optional? Validation.ofJson?)
    readOnly := ← orElse es "readOnly" false bool? }

end Field.Head

/-! ## The properties of each type -/

/-- A property that holds text. -/
def Json.textOr (es : List (String × Json)) (name : String) : Option String :=
  orElse es name "" string?

def Json.flagOr (es : List (String × Json)) (name : String) : Option Bool :=
  orElse es name false bool?

/-- A property that holds one of several names. -/
def Json.nameOr (es : List (String × Json)) (name : String) (default : α)
    (ofName? : String → Option α) : Option α :=
  orElse es name default fun j => j.keptChoice?.bind ofName?

open Json (textOr flagOr nameOr)

namespace Leaf

def entries : Leaf → List (String × Json)
  | .text c =>
    [("subtype", .string c.subtype.name), ("placeholder", .string c.placeholder),
      ("helperText", .string c.helperText), ("required", .bool c.required)]
  | .textarea c =>
    [("placeholder", .string c.placeholder), ("helperText", .string c.helperText),
      ("required", .bool c.required), ("rows", .integer c.rows.toNat), ("richText", .bool c.richText)]
  | .select c =>
    [("placeholder", .string c.placeholder), ("helperText", .string c.helperText),
      ("required", .bool c.required), ("options", .array (c.options.map Choice.toJson)),
      ("searchable", .bool c.searchable)]
  | .radioGroup c =>
    [("helperText", .string c.helperText), ("required", .bool c.required),
      ("options", .array (c.options.map Choice.toJson))]
  | .input _ c => [("helperText", .string c.helperText), ("required", .bool c.required)]
  | .fileUpload c =>
    [("helperText", .string c.helperText), ("required", .bool c.required),
      ("multiple", .bool c.multiple), ("maxSizeInMb", .float c.maxSizeInMb),
      ("allowedFileTypes", .string c.allowedFileTypes)]
  | .rating c =>
    [("helperText", .string c.helperText), ("required", .bool c.required),
      ("maxRating", .integer c.maxRating.toNat)]
  | .slider c =>
    [("helperText", .string c.helperText), ("required", .bool c.required), ("min", .float c.min),
      ("max", .float c.max), ("step", .float c.step)]
  | .matrix c =>
    [("helperText", .string c.helperText), ("rows", .array (c.rows.map Axis.toJson)),
      ("columns", .array (c.columns.map Axis.toJson)), ("cellInputType", .string c.cellInput.name)]
  | .lookup c =>
    [("placeholder", .string c.placeholder), ("helperText", .string c.helperText),
      ("required", .bool c.required), ("dataSourceUrl", .string c.dataSourceUrl)]
  | .payment c => [("helperText", .string c.helperText), ("gateway", .string c.gateway.name)]
  | .calculated c =>
    [("helperText", .string c.helperText), ("formula", .string c.formula),
      ("formatting", .string c.formatting.name)]
  | .sectionBreak c => [("description", .string c.description)]
  | .image c =>
    [("src", .string c.src), ("alt", .string c.alt), ("width", .string c.width),
      ("height", .string c.height)]
  | .html c => [("html", .string c.html)]
  | .pageBreak | .progressTracker => []

end Leaf

/-- The names of the properties of a type. Page breaks and progress trackers have none and let
anything stand beside their tag. -/
def FieldType.names : FieldType → List String
  | .text => ["subtype", "placeholder", "helperText", "required"]
  | .textarea => ["placeholder", "helperText", "required", "rows", "richText"]
  | .select => ["placeholder", "helperText", "required", "options", "searchable"]
  | .radioGroup => ["helperText", "required", "options"]
  | .checkbox | .datePicker | .time | .dateTime | .signature | .geolocation =>
    ["helperText", "required"]
  | .fileUpload => ["helperText", "required", "multiple", "maxSizeInMb", "allowedFileTypes"]
  | .rating => ["helperText", "required", "maxRating"]
  | .slider => ["helperText", "required", "min", "max", "step"]
  | .matrix => ["helperText", "rows", "columns", "cellInputType"]
  | .lookup => ["placeholder", "helperText", "required", "dataSourceUrl"]
  | .payment => ["helperText", "gateway"]
  | .calculated => ["helperText", "formula", "formatting"]
  | .sectionBreak => ["description"]
  | .image => ["src", "alt", "width", "height"]
  | .html => ["html"]
  | .pageBreak | .progressTracker => []
  | .group => ["columns", "children"]
  | .repeater => ["addButtonLabel", "children"]
  | .tabs => ["tabs"]
  | .abTest => ["variantA", "variantB"]

/-- The tag of a type: its name, or its number. -/
def FieldType.ofTag? : Json → Option FieldType
  | .string s => ofName? s
  | .integer n => if 0 ≤ n then all[n.toNat]? else none
  | _ => none

def Tab.ofJson? (item : Json → Option α) (j : Json) : Option (Tab α) := do
  let es ← j.members? ["id", "label", "children"]
  return {
    id := ← required es "id" string?
    label := ← required es "label" string?
    children := ← orElse es "children" [] (list? item) }

def InputConfig.ofEntries? (es : List (String × Json)) : Option InputConfig := do
  return ⟨← textOr es "helperText", ← flagOr es "required"⟩

namespace Field

/-! ## Writing -/

mutual

/-- The tag of the type and the properties of the type. -/
def kindEntries : Field → List (String × Json)
  | .leaf _ k => ("type", .string k.fieldType.name) :: k.entries
  | .group _ columns cs =>
    [("type", .string FieldType.group.name), ("columns", .integer columns.toNat),
      ("children", .array (listToJson cs))]
  | .repeater _ addLabel cs =>
    [("type", .string FieldType.repeater.name), ("addButtonLabel", .string addLabel),
      ("children", .array (listToJson cs))]
  | .tabs _ ts => [("type", .string FieldType.tabs.name), ("tabs", .array (tabsToJson ts))]
  | .abTest _ a b =>
    [("type", .string FieldType.abTest.name), ("variantA", .array (listToJson a)),
      ("variantB", .array (listToJson b))]

def listToJson : List Field → List Json
  | [] => []
  | f :: fs => .object (f.head.entries ++ f.kindEntries) :: listToJson fs

def tabsToJson : List (Tab Field) → List Json
  | [] => []
  | ⟨id, label, cs⟩ :: ts =>
    .object [("id", .string id), ("label", .string label), ("children", .array (listToJson cs))]
      :: tabsToJson ts

end

def toJson (f : Field) : Json := .object (f.head.entries ++ f.kindEntries)

/-! ## Reading -/

/-- The field of a type with a head and the properties of the type, where `item` reads the fields
inside. -/
def ofProperties? (item : Json → Option Field) (head : Head) (es : List (String × Json))
    (type : FieldType) : Option Field := do
  let input (t : InputType) : Option Field :=
    (InputConfig.ofEntries? es).map fun c => .leaf head (.input t c)
  match type with
  | .text => return .leaf head (.text {
      subtype := ← nameOr es "subtype" .text TextSubtype.ofName?
      placeholder := ← textOr es "placeholder"
      helperText := ← textOr es "helperText"
      required := ← flagOr es "required" })
  | .textarea => return .leaf head (.textarea {
      placeholder := ← textOr es "placeholder"
      helperText := ← textOr es "helperText"
      required := ← flagOr es "required"
      rows := ← orElse es "rows" 0 uint32?
      richText := ← flagOr es "richText" })
  | .select => return .leaf head (.select {
      placeholder := ← textOr es "placeholder"
      helperText := ← textOr es "helperText"
      required := ← flagOr es "required"
      options := ← orElse es "options" [] (list? Choice.ofJson?)
      searchable := ← flagOr es "searchable" })
  | .radioGroup => return .leaf head (.radioGroup {
      helperText := ← textOr es "helperText"
      required := ← flagOr es "required"
      options := ← orElse es "options" [] (list? Choice.ofJson?) })
  | .checkbox => input .checkbox
  | .datePicker => input .datePicker
  | .time => input .time
  | .dateTime => input .dateTime
  | .signature => input .signature
  | .geolocation => input .geolocation
  | .fileUpload => return .leaf head (.fileUpload {
      helperText := ← textOr es "helperText"
      required := ← flagOr es "required"
      multiple := ← flagOr es "multiple"
      maxSizeInMb := ← orElse es "maxSizeInMb" 0.0 float?
      allowedFileTypes := ← textOr es "allowedFileTypes" })
  | .rating => return .leaf head (.rating {
      helperText := ← textOr es "helperText"
      required := ← flagOr es "required"
      maxRating := ← orElse es "maxRating" 0 uint32? })
  | .slider => return .leaf head (.slider {
      helperText := ← textOr es "helperText"
      required := ← flagOr es "required"
      min := ← orElse es "min" 0.0 float?
      max := ← orElse es "max" 0.0 float?
      step := ← orElse es "step" 0.0 float? })
  | .matrix => return .leaf head (.matrix {
      helperText := ← textOr es "helperText"
      rows := ← orElse es "rows" [] (list? Axis.ofJson?)
      columns := ← orElse es "columns" [] (list? Axis.ofJson?)
      cellInput := ← nameOr es "cellInputType" .text CellInput.ofName? })
  | .lookup => return .leaf head (.lookup {
      placeholder := ← textOr es "placeholder"
      helperText := ← textOr es "helperText"
      required := ← flagOr es "required"
      dataSourceUrl := ← textOr es "dataSourceUrl" })
  | .payment => return .leaf head (.payment {
      helperText := ← textOr es "helperText"
      gateway := ← nameOr es "gateway" .stripe Gateway.ofName? })
  | .calculated => return .leaf head (.calculated {
      helperText := ← textOr es "helperText"
      formula := ← textOr es "formula"
      formatting := ← nameOr es "formatting" .plain Formatting.ofName? })
  | .sectionBreak => return .leaf head (.sectionBreak { description := ← textOr es "description" })
  | .image => return .leaf head (.image {
      src := ← textOr es "src"
      alt := ← textOr es "alt"
      width := ← textOr es "width"
      height := ← textOr es "height" })
  | .html => return .leaf head (.html { html := ← textOr es "html" })
  | .pageBreak => return .leaf head .pageBreak
  | .progressTracker => return .leaf head .progressTracker
  | .group =>
    return .group head (← orElse es "columns" 0 uint32?) (← orElse es "children" [] (list? item))
  | .repeater =>
    return .repeater head (← textOr es "addButtonLabel") (← orElse es "children" [] (list? item))
  | .tabs => return .tabs head (← orElse es "tabs" [] (list? (Tab.ofJson? item)))
  | .abTest =>
    return .abTest head (← orElse es "variantA" [] (list? item)) (← orElse es "variantB" [] (list? item))

/-- The field with a head and a tag with properties. -/
def ofEntries? (item : Json → Option Field) (head : Head) (es : List (String × Json)) :
    Option Field := do
  guard (Json.occurrences "type" es ≤ 1)
  let type ← (es.lookup "type").bind FieldType.ofTag?
  guard (type.names.all fun n => Json.occurrences n es ≤ 1)
  ofProperties? item head es type

/-- Reads a field nested at most `fuel` deep. -/
def ofJsonWithin? : Nat → Json → Option Field
  | fuel + 1, .object es => do
    guard (Head.names.all fun n => Json.occurrences n es ≤ 1)
    let head ← Head.ofEntries? es
    ofEntries? (ofJsonWithin? fuel) head (es.filter fun e => !Head.names.contains e.1)
  | _, _ => none

def ofJson? (j : Json) : Option Field := ofJsonWithin? j.depth j

def shape : Json.Shape :=
  .record [("id", .string), ("label", .string), ("defaultValue", .any), ("styles", .table),
    ("logic", .list Rule.shape), ("validation", .optional Validation.shape), ("readOnly", .flag)]
    .any false fun j => (ofJson? j).isSome

end Field

end FormBuilder
