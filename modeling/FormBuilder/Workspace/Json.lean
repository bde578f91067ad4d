/-
Workspaces as JSON.
-/
import FormBuilder.Workspace.Basic
import FormBuilder.Form.Json

namespace FormBuilder

open Json (required orElse string? list?)

namespace Permission

def toJson (p : Permission) : Json := .string p.name

def ofJson? (j : Json) : Option Permission := j.choice?.bind ofName?

end Permission

def Identity.toJson (who : Identity) : Json :=
  .object [("userId", .string who.userId), ("organizationId", .string who.organizationId),
    ("permissions", .array (who.permissions.map Permission.toJson))]

namespace Role

def toJson (r : Role) : Json :=
  .object [("id", .string r.id), ("name", .string r.name), ("description", .string r.description),
    ("permissions", .array (r.permissions.map Permission.toJson))]

def names : List String := ["id", "name", "description", "permissions"]

def ofJson? (j : Json) : Option Role := do
  let es ← j.members? names
  return ⟨← required es "id" string?, ← required es "name" string?,
    ← required es "description" string?, ← required es "permissions" (list? Permission.ofJson?)⟩

/-- The name of a permission, or the object of that one key. -/
def permissionShape : Json.Shape := .any

def shape : Json.Shape :=
  .record [("id", .string), ("name", .string), ("description", .string),
    ("permissions", .list permissionShape)] .skipped true fun j => (ofJson? j).isSome

end Role

namespace User

def toJson (u : User) : Json :=
  .object [("id", .string u.id), ("email", .string u.email),
    ("organizationId", .string u.organizationId), ("roleId", .string u.roleId)]

def names : List String := ["id", "email", "organizationId", "roleId"]

def ofJson? (j : Json) : Option User := do
  let es ← j.members? names
  return ⟨← required es "id" string?, ← required es "email" string?,
    ← required es "organizationId" string?, ← required es "roleId" string?⟩

def shape : Json.Shape :=
  .record [("id", .string), ("email", .string), ("organizationId", .string), ("roleId", .string)]
    .skipped true fun j => (ofJson? j).isSome

end User

namespace Organization

def toJson (o : Organization) : Json := .object [("id", .string o.id), ("name", .string o.name)]

def names : List String := ["id", "name"]

def ofJson? (j : Json) : Option Organization := do
  let es ← j.members? names
  return ⟨← required es "id" string?, ← required es "name" string?⟩

def shape : Json.Shape :=
  .record [("id", .string), ("name", .string)] .skipped true fun j => (ofJson? j).isSome

end Organization

namespace Workspace

def toJson (w : Workspace) : Json :=
  .object [("users", .array (w.users.map User.toJson)),
    ("organizations", .array (w.organizations.map Organization.toJson)),
    ("roles", .array (w.roles.map Role.toJson)),
    ("forms", .array (w.forms.map SavedForm.toJson))]

def names : List String := ["users", "organizations", "roles", "forms"]

def ofJson? (j : Json) : Option Workspace := do
  let es ← j.members? names
  return {
    users := ← orElse es "users" [] (list? User.ofJson?)
    organizations := ← orElse es "organizations" [] (list? Organization.ofJson?)
    roles := ← orElse es "roles" [] (list? Role.ofJson?)
    forms := ← orElse es "forms" [] (list? SavedForm.ofJson?) }

def shape : Json.Shape :=
  .record [("users", .list User.shape), ("organizations", .list Organization.shape),
    ("roles", .list Role.shape), ("forms", .list SavedForm.shape)] .skipped true
    fun j => (ofJson? j).isSome

end Workspace

end FormBuilder
