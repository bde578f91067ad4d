/-
Workspaces: the organizations, their users, the roles that users have, and the forms that
organizations own. Ids need not be distinct; an id means its first record.
-/
import FormBuilder.Form.Basic
import FormBuilder.Workspace.Permission

namespace FormBuilder

structure Role where
  id : String
  name : String
  description : String
  permissions : List Permission
  deriving DecidableEq, Repr

structure User where
  id : String
  email : String
  organizationId : String
  roleId : String
  deriving DecidableEq, Repr

structure Organization where
  id : String
  name : String
  deriving DecidableEq, Repr

structure Workspace where
  users : List User
  organizations : List Organization
  roles : List Role
  forms : List SavedForm

/-- Who acts: a user, the organization of the user, and what the user may do. -/
structure Identity where
  userId : String
  organizationId : String
  permissions : List Permission
  deriving DecidableEq, Repr

def Identity.can (who : Identity) (p : Permission) : Bool := who.permissions.contains p

namespace Workspace

/-! ## Equality -/

def same (w v : Workspace) : Bool :=
  w.users == v.users && w.organizations == v.organizations && w.roles == v.roles
    && w.forms == v.forms

instance : BEq Workspace := ⟨same⟩

/-! ## Lookup -/

def user? (w : Workspace) (id : String) : Option User := w.users.find? (·.id == id)

/-- Lower case of ASCII letters alone. -/
def plainLower (s : String) : String :=
  s.map fun c => if 'A' ≤ c && c ≤ 'Z' then Char.ofNat (c.toNat + 32) else c

/-- The user with an address, of which the case of ASCII letters does not count. -/
def userByEmail? (w : Workspace) (email : String) : Option User :=
  w.users.find? fun u => plainLower u.email == plainLower email

def role? (w : Workspace) (id : String) : Option Role := w.roles.find? (·.id == id)

def organization? (w : Workspace) (id : String) : Option Organization :=
  w.organizations.find? (·.id == id)

def form? (w : Workspace) (id : String) : Option SavedForm := w.forms.find? (·.id == id)

/-- The identity of a user. A user without a role that exists may do nothing. -/
def identity? (w : Workspace) (userId : String) : Option Identity :=
  (w.user? userId).map fun u =>
    ⟨u.id, u.organizationId, ((w.role? u.roleId).map (·.permissions)).getD []⟩

/-! ## The initial workspace -/

def defaultUserId : String := "user_default"

/-- A system and a default organization with one user each, and three roles. -/
def initial : Workspace where
  users :=
    [⟨"user_system_admin", "admin@system.com", "org_system", "role_system_admin"⟩,
      ⟨defaultUserId, "user@example.com", "org_default", "role_org_admin"⟩]
  organizations := [⟨"org_system", "System Administration"⟩, ⟨"org_default", "Default Inc."⟩]
  roles :=
    [⟨"role_system_admin", "System Admin", "Has all permissions across the entire system.",
        Permission.all⟩,
      ⟨"role_org_admin", "Organization Admin", "Manages users and forms within their organization.",
        [.userInvite, .userRead, .userUpdate, .userDelete, .formCreate, .formRead, .formUpdate,
          .formDelete, .formShare]⟩,
      ⟨"role_form_creator", "Form Creator", "Can create and manage their own forms.",
        [.formCreate, .formRead, .formUpdate, .formDelete]⟩]
  forms := []

end Workspace

end FormBuilder
