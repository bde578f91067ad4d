/-
What users may do, by the kind of record and the kind of access.
-/
namespace FormBuilder

inductive Permission where
  | userCreate | userRead | userUpdate | userDelete | userInvite
  | formCreate | formRead | formUpdate | formDelete | formShare
  | roleCreate | roleRead | roleUpdate | roleDelete
  | organizationCreate | organizationRead | organizationUpdate | organizationDelete
  deriving DecidableEq, Repr

namespace Permission

def all : List Permission :=
  [.userCreate, .userRead, .userUpdate, .userDelete, .userInvite, .formCreate, .formRead,
    .formUpdate, .formDelete, .formShare, .roleCreate, .roleRead, .roleUpdate, .roleDelete,
    .organizationCreate, .organizationRead, .organizationUpdate, .organizationDelete]

def name : Permission → String
  | .userCreate => "user:create"
  | .userRead => "user:read"
  | .userUpdate => "user:update"
  | .userDelete => "user:delete"
  | .userInvite => "user:invite"
  | .formCreate => "form:create"
  | .formRead => "form:read"
  | .formUpdate => "form:update"
  | .formDelete => "form:delete"
  | .formShare => "form:share"
  | .roleCreate => "role:create"
  | .roleRead => "role:read"
  | .roleUpdate => "role:update"
  | .roleDelete => "role:delete"
  | .organizationCreate => "organization:create"
  | .organizationRead => "organization:read"
  | .organizationUpdate => "organization:update"
  | .organizationDelete => "organization:delete"

def ofName? (s : String) : Option Permission := all.find? fun p => p.name == s

end Permission

end FormBuilder
