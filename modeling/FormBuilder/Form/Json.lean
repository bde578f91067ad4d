/-
Saved forms as JSON.
-/
import FormBuilder.Form.Basic
import FormBuilder.Field.Json

namespace FormBuilder

open Json (required orElse string? list?)

namespace UrlMapping

def names : List String := ["id", "paramName", "targetFieldId"]

def toJson (m : UrlMapping) : Json :=
  .object [("id", .string m.id), ("paramName", .string m.parameter),
    ("targetFieldId", .string m.target)]

def ofJson? (j : Json) : Option UrlMapping := do
  let es ← j.members? names
  return ⟨← required es "id" string?, ← required es "paramName" string?,
    ← required es "targetFieldId" string?⟩

def shape : Json.Shape :=
  .record [("id", .string), ("paramName", .string), ("targetFieldId", .string)] .skipped true
    fun j => (ofJson? j).isSome

end UrlMapping

namespace FormSettings

def names : List String := ["name", "urlParameterMapping"]

def toJson (s : FormSettings) : Json :=
  .object [("name", .string s.name),
    ("urlParameterMapping", .array (s.urlMappings.map UrlMapping.toJson))]

def ofJson? (j : Json) : Option FormSettings := do
  let es ← j.members? names
  return ⟨← required es "name" string?,
    ← orElse es "urlParameterMapping" [] (list? UrlMapping.ofJson?)⟩

def shape : Json.Shape :=
  .record [("name", .string), ("urlParameterMapping", .list UrlMapping.shape)] .skipped true
    fun j => (ofJson? j).isSome

end FormSettings

def Tree.toJson (t : Tree) : Json := .array (Field.listToJson t.fields)

def Timestamp.ofJson? (j : Json) : Option Timestamp := j.string?.bind ofText?

namespace SavedForm

def names : List String := ["id", "organizationId", "fields", "formSettings", "savedAt"]

def toJson (f : SavedForm) : Json :=
  .object [("id", .string f.id), ("organizationId", .string f.organizationId),
    ("fields", f.tree.toJson), ("formSettings", f.settings.toJson),
    ("savedAt", .string f.savedAt.text)]

def ofJson? (j : Json) : Option SavedForm := do
  let es ← j.members? names
  return {
    id := ← required es "id" string?
    organizationId := ← required es "organizationId" string?
    tree := ⟨← required es "fields" (list? Field.ofJson?)⟩
    settings := ← required es "formSettings" FormSettings.ofJson?
    savedAt := ← required es "savedAt" Timestamp.ofJson? }

def shape : Json.Shape :=
  .record [("id", .string), ("organizationId", .string), ("fields", .list Field.shape),
    ("formSettings", FormSettings.shape),
    ("savedAt", .text fun s => (Timestamp.ofText? s).isSome)] .skipped true
    fun j => (ofJson? j).isSome

end SavedForm

end FormBuilder
