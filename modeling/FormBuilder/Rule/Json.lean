/-
Rules as JSON. A value that is absent stays absent, and an explicit null stays a null.
-/
import FormBuilder.Rule.Basic
import FormBuilder.Value.Json
import FormBuilder.Json.Shape

namespace FormBuilder

open Json (required orElse string? list?)

namespace Condition

def toJson (c : Condition) : Json :=
  .object ([("id", .string c.id), ("sourceField", .string c.source),
    ("operator", .string c.operator.text)] ++ Value.entry "value" c.value)

def names : List String := ["id", "sourceField", "operator", "value"]

def ofJson? (j : Json) : Option Condition := do
  let es ← j.members? names
  return {
    id := ← required es "id" string?
    source := ← required es "sourceField" string?
    operator := ← required es "operator" (·.string?.map Operator.ofText)
    value := Value.entry? es "value" }

def shape : Json.Shape :=
  .record [("id", .string), ("sourceField", .string), ("operator", .string), ("value", .any)]
    .skipped true fun j => (ofJson? j).isSome

end Condition

namespace ConditionGroup

def toJson (g : ConditionGroup) : Json :=
  .object [("conjunction", .string g.conjunction.text),
    ("conditions", .array (g.conditions.map Condition.toJson))]

def names : List String := ["conjunction", "conditions"]

def ofJson? (j : Json) : Option ConditionGroup := do
  let es ← j.members? names
  return {
    conjunction := ← required es "conjunction" (·.string?.map Conjunction.ofText)
    conditions := ← orElse es "conditions" [] (list? Condition.ofJson?) }

def shape : Json.Shape :=
  .record [("conjunction", .string), ("conditions", .list Condition.shape)]
    .skipped true fun j => (ofJson? j).isSome

end ConditionGroup

namespace Action

def toJson (a : Action) : Json :=
  .object ([("id", .string a.id), ("actionType", .string a.effect.text),
    ("targetFieldId", .string a.target)] ++ Value.entry "value" a.value)

def names : List String := ["id", "actionType", "targetFieldId", "value"]

def ofJson? (j : Json) : Option Action := do
  let es ← j.members? names
  return {
    id := ← required es "id" string?
    effect := ← required es "actionType" (·.string?.map Effect.ofText)
    target := ← required es "targetFieldId" string?
    value := Value.entry? es "value" }

def shape : Json.Shape :=
  .record [("id", .string), ("actionType", .string), ("targetFieldId", .string), ("value", .any)]
    .skipped true fun j => (ofJson? j).isSome

end Action

namespace Rule

def toJson (r : Rule) : Json :=
  .object [("id", .string r.id), ("name", .string r.name), ("conditions", r.conditions.toJson),
    ("actions", .array (r.actions.map Action.toJson))]

def names : List String := ["id", "name", "conditions", "actions"]

def ofJson? (j : Json) : Option Rule := do
  let es ← j.members? names
  return {
    id := ← required es "id" string?
    name := ← required es "name" string?
    conditions := ← orElse es "conditions" .always ConditionGroup.ofJson?
    actions := ← orElse es "actions" [] (list? Action.ofJson?) }

def shape : Json.Shape :=
  .record [("id", .string), ("name", .string), ("conditions", ConditionGroup.shape),
    ("actions", .list Action.shape)] .skipped true fun j => (ofJson? j).isSome

end Rule

end FormBuilder
