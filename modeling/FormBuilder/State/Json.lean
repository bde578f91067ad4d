/-
States as JSON.
-/
import FormBuilder.State.Basic
import FormBuilder.Value.Json

namespace FormBuilder

/-- A value that is unset is written as null. -/
def FieldState.toJson (s : FieldState) : Json :=
  .object [("isVisible", .bool s.isVisible), ("isReadOnly", .bool s.isReadOnly),
    ("value", (s.value.map Value.toJson).getD .null)]

def FormState.toJson (s : FormState) : Json := .object (s.rows.map fun r => (r.1, r.2.toJson))

end FormBuilder
