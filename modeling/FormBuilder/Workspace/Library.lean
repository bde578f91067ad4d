/-
The library of saved forms. Every call is made by an identity; it sees and changes the forms of its
own organization only, as far as its permissions go. A change counts once the store has accepted it.
-/
import FormBuilder.Workspace.Store

namespace FormBuilder

/-- The workspace at hand, and the state of the store that keeps it. -/
structure Library (σ : Type) where
  workspace : Workspace
  store : σ

namespace Library

/-- Why a call is refused. -/
inductive Error where
  | permissionDenied (userId : String) (permission : Permission)
  | wrongOrganization (formId : String)
  | formNotFound (formId : String)
  | store (e : StoreError)
  deriving DecidableEq, Repr

/-- The name of the cause. -/
def Error.kind : Error → String
  | .permissionDenied _ _ => "PermissionDenied"
  | .wrongOrganization _ => "WrongOrganization"
  | .formNotFound _ => "FormNotFound"
  | .store e => e.kind

def Error.message : Error → String
  | .permissionDenied user p => "User '" ++ user ++ "' lacks the '" ++ p.name ++ "' permission"
  | .wrongOrganization id => "Form '" ++ id ++ "' belongs to another organization"
  | .formNotFound id => "Form '" ++ id ++ "' was not found"
  | .store e => e.message

variable {σ : Type}

/-! ## Opening -/

/-- Opens the library on a store. A store without a snapshot begins with the initial workspace. -/
def openOn (s : Store σ) (state : σ) : Except StoreError (Library σ) :=
  (s.load state).map fun w => ⟨w.getD .initial, state⟩

def openLog (s : Store σ) (state : σ) : Log.Entries :=
  s.loadLog state ++
    match s.load state with
    | .ok none => [Log.info "No stored workspace, starting from the seeded defaults"]
    | _ => []

/-! ## Checks -/

def require (who : Identity) (p : Permission) : Except Error Unit :=
  if who.can p then .ok () else .error (.permissionDenied who.userId p)

def sameOrganization (who : Identity) (f : SavedForm) : Except Error Unit :=
  if f.organizationId = who.organizationId then .ok () else .error (.wrongOrganization f.id)

/-- Lets the store keep a workspace and goes on with it. -/
def commit (s : Store σ) (lib : Library σ) (w : Workspace) : Except Error (Library σ) :=
  match s.save lib.store w with
  | .ok state => .ok ⟨w, state⟩
  | .error e => .error (.store e)

/-! ## Calls -/

/-- The forms of the caller's organization. -/
def list (lib : Library σ) (who : Identity) : Except Error (List SavedForm) := do
  require who .formRead
  return lib.workspace.forms.filter fun f => f.organizationId = who.organizationId

/-- A new form of the caller's organization, which is not saved yet. -/
def create (who : Identity) (id : String) (now : Timestamp) : Except Error SavedForm := do
  require who .formCreate
  return .new id who.organizationId now

def load (lib : Library σ) (who : Identity) (formId : String) : Except Error SavedForm := do
  require who .formRead
  match lib.workspace.form? formId with
  | none => throw (.formNotFound formId)
  | some f =>
    sameOrganization who f
    return f

/-- Puts a form in the place of the first form of its id, or at the end. -/
def putForm (f : SavedForm) : List SavedForm → List SavedForm
  | [] => [f]
  | g :: gs => if g.id == f.id then f :: gs else g :: putForm f gs

/-- Saves a form as of now, and gives the form as it was saved. -/
def save (s : Store σ) (lib : Library σ) (who : Identity) (f : SavedForm) (now : Timestamp) :
    Except Error (Library σ × SavedForm) := do
  sameOrganization who f
  match lib.workspace.form? f.id with
  | some old =>
    require who .formUpdate
    sameOrganization who old
  | none => require who .formCreate
  let f := { f with savedAt := now }
  let lib ← commit s lib { lib.workspace with forms := putForm f lib.workspace.forms }
  return (lib, f)

/-- Deletes the first form of an id, and gives it back. -/
def delete (s : Store σ) (lib : Library σ) (who : Identity) (formId : String) :
    Except Error (Library σ × SavedForm) := do
  require who .formDelete
  match lib.workspace.form? formId with
  | none => throw (.formNotFound formId)
  | some f =>
    sameOrganization who f
    let forms := lib.workspace.forms.eraseP (·.id == formId)
    let lib ← commit s lib { lib.workspace with forms }
    return (lib, f)

/-! ## Messages -/

def savedLog (s : Store σ) (lib : Library σ) (f : SavedForm) : Log.Entries :=
  s.savedLog lib.store ++ [Log.info ("Saved form '" ++ f.name ++ "' (" ++ f.id ++ ")")]

def deletedLog (s : Store σ) (lib : Library σ) (f : SavedForm) : Log.Entries :=
  s.savedLog lib.store ++ [Log.info ("Deleted form '" ++ f.id ++ "'")]

end Library

end FormBuilder
