/-
What a run shows as JSON, for a program that draws it: views, issues, pages and progress.
-/
import FormBuilder.Run
import FormBuilder.Value.Json

namespace FormBuilder

mutual

/-- A view; containers have slots, be there any or none. -/
def View.toJson : View → Json
  | .mk f s slots =>
    .object ([("id", .string f.id), ("kind", .string f.type.renderKind.name),
        ("readOnly", .bool s.isReadOnly)]
      ++ Value.entry "value" s.value
      ++ if f.isContainer then [("slots", .array (slotViewsToJson slots))] else [])

def slotViewsToJson : List (SlotView View) → List Json
  | [] => []
  | ⟨slot, label, views⟩ :: slots =>
    .object [("slot", .string slot.display), ("label", (label.map Json.string).getD .null),
      ("views", .array (viewsToJson views))] :: slotViewsToJson slots

def viewsToJson : List View → List Json
  | [] => []
  | v :: vs => v.toJson :: viewsToJson vs

end

def Issue.toJson (i : Issue) : Json :=
  let details : List (String × Json) := match i with
    | .required _ => [("kind", .string "Required")]
    | .pattern _ message => [("kind", .string "Pattern"), ("message", .string message)]
    | .invalidPattern _ regex => [("kind", .string "InvalidPattern"), ("pattern", .string regex)]
  .object (details ++ [("fieldId", .string i.fieldId), ("text", .string i.text)])

def Page.toJson (p : Page) : Json :=
  .object [("label", .string p.label), ("fields", .array (p.fields.map fun f => .string f.id))]

def Progress.toJson (p : Progress) : Json :=
  .object [("currentStep", .integer p.step), ("totalSteps", .integer p.total),
    ("label", .string p.label), ("title", .string p.title), ("fraction", .float p.fraction)]

end FormBuilder
