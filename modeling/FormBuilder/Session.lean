/-
A form that is being edited, the field that is selected, and what is being dragged. An edit that
fails changes nothing.
-/
import FormBuilder.Drag
import FormBuilder.Run
import FormBuilder.Tree.Patch
import FormBuilder.Workspace.Library

namespace FormBuilder

structure Session where
  form : SavedForm
  selected : Option String := none
  dragging : Option Drag.Payload := none

namespace Session

def tree (s : Session) : Tree := s.form.tree

def withTree (t : Tree) (s : Session) : Session := { s with form := { s.form with tree := t } }

/-! ## Selection -/

def select (id : Option String) (s : Session) : Session := { s with selected := id }

/-- The field that is selected, if it is in the form. -/
def selectedField? (s : Session) : Option Field := s.selected.bind s.tree.find?

/-! ## Fields -/

/-- Inserts a new field, which is then selected, and tells its id and index. -/
def addField (target : Slot) (type : FieldType) (subtype : Option TextSubtype)
    (position : Option Nat) (fresh : FreshIds) (s : Session) :
    Except Tree.Error (Session × String × Nat) :=
  let id := fresh 0
  (s.tree.insert target (.new id type subtype (fresh.skip 1)) position).map fun (t, index) =>
    ((s.withTree t).select (some id), id, index)

/-- Removes a field. Nothing is selected afterwards. -/
def removeField (id : String) (s : Session) : Option (Session × Field) :=
  (s.tree.remove? id).map fun (t, f) => ((s.withTree t).select none, f)

/-- Patches a field, and tells whether the form has it. -/
def updateField (id : String) (p : Patch) (s : Session) : Except Tree.Error (Session × Bool) :=
  (s.tree.update id p).map fun (t, found) => (s.withTree t, found)

/-- Edits a field of the form. -/
def edit {α : Type} (id : String) (change : Field → Except Field.Unsupported (Field × α)) (s : Session) :
    Except Tree.Error (Session × α) :=
  match s.tree.find? id with
  | none => .error (.fieldNotFound id)
  | some f =>
    match change f with
    | .error e => .error (.unsupported e)
    | .ok (g, a) => .ok (s.withTree (s.tree.replace id g), a)

def addOption (id label : String) (fresh : FreshIds) (s : Session) :
    Except Tree.Error (Session × String) :=
  s.edit id (Field.addOption (fresh 0) label)

def removeOption (id option : String) (s : Session) : Except Tree.Error (Session × Bool) :=
  s.edit id (Field.removeOption option)

def renameOption (id option label : String) (s : Session) : Except Tree.Error (Session × Bool) :=
  s.edit id (Field.renameOption option label)

def addTab (id label : String) (fresh : FreshIds) (s : Session) :
    Except Tree.Error (Session × String) :=
  s.edit id (Field.addTab (fresh 0) label)

/-- Removes a tab with the fields in it. If the selected field was among them, nothing is selected
afterwards. -/
def removeTab (id tab : String) (s : Session) : Except Tree.Error (Session × Option (Tab Field)) :=
  (s.edit id (Field.removeTab tab)).map fun (s, removed) =>
    (if s.selected.any fun i => !s.tree.contains i then s.select none else s, removed)

/-! ## Dragging -/

/-- Begins a drag. A field that is dragged is selected. -/
def beginDrag (source : Drag.Source) (fresh : FreshIds) (s : Session) : Session :=
  let dragging := Drag.payload? source s.tree fresh
  match dragging with
  | some (.existing f) => { s with dragging, selected := some f.id }
  | _ => { s with dragging }

def cancelDrag (s : Session) : Session := { s with dragging := none }

/-- Drops what is dragged. A new field is selected. -/
def drop (target : Option Drag.Target) (fresh : FreshIds) (s : Session) : Session × Drag.Drop :=
  let d := Drag.drop s.dragging target s.tree fresh
  let s := (s.withTree d.tree).cancelDrag
  match d.outcome with
  | .inserted id _ => (s.select (some id), d)
  | _ => (s, d)

/-! ## The form -/

def withSettings (settings : FormSettings) (s : Session) : Session :=
  { s with form := { s.form with settings } }

/-- Opens the form as a respondent would. -/
def preview (params : QueryParams) (s : Session) : Run := Run.start s.form params

/-- Saves the form, and goes on with the form as it was saved. -/
def save {σ : Type} (store : Store σ) (lib : Library σ) (who : Identity) (now : Timestamp)
    (s : Session) : Except Library.Error (Session × Library σ) :=
  (lib.save store who s.form now).map fun (lib, f) => ({ s with form := f }, lib)

end Session

end FormBuilder
