/-
A form as a respondent fills it in: the inputs so far, the state that they make, and the current
page. The state is computed anew after every change.
-/
import FormBuilder.Form.Seed
import FormBuilder.Page
import FormBuilder.Validation

namespace FormBuilder

structure Run where
  tree : Tree
  inputs : Inputs
  state : FormState
  navigator : Navigator

/-- What a respondent enters into a field. -/
structure ValueChange where
  fieldId : String
  value : Value

/-- The pages of a form. -/
def Tree.pagination (t : Tree) : Pagination := .ofFields t.fields

namespace Run

/-! ## Steps -/

/-- Opens a form under an address with parameters. -/
def start (f : SavedForm) (params : QueryParams) : Run :=
  let inputs := seed f.tree f.settings params
  ⟨f.tree, inputs, f.tree.evaluate inputs, .ofPages f.tree.pagination.count⟩

def enter (id : String) (v : Value) (r : Run) : Run :=
  let inputs := r.inputs.put id v
  { r with inputs, state := r.tree.evaluate inputs }

def apply (c : ValueChange) (r : Run) : Run := r.enter c.fieldId c.value

/-- Goes on with another tree and the same inputs. -/
def reload (t : Tree) (r : Run) : Run :=
  { r with
    tree := t
    state := t.evaluate r.inputs
    navigator := r.navigator.resize t.pagination.count }

def next (r : Run) : Run := { r with navigator := r.navigator.next }

def previous (r : Run) : Run := { r with navigator := r.navigator.previous }

/-! ## The current page -/

/-- What is shown of the current page. -/
def views (r : Run) : List View :=
  match r.tree.pagination.page? r.navigator.current with
  | some p => Field.visibleViews r.state p.fields
  | none => []

def progress? (r : Run) : Option Progress := r.tree.pagination.progress? r.navigator.current

def issues (r : Run) : List Issue := validateViews r.views

/-- Goes to the next page if nothing is wrong on this one, and tells whether it went. -/
def nextValidated (r : Run) : Except (List Issue) (Run × Bool) :=
  if r.issues.isEmpty then .ok (r.next, r.navigator.canGoNext) else .error r.issues

/-! ## Messages -/

def startLog (f : SavedForm) (params : QueryParams) : Log.Entries :=
  seedLog f.settings params ++ f.tree.evaluateLog (seed f.tree f.settings params)

/-- Messages of computing the state of a run. -/
def stateLog (r : Run) : Log.Entries := r.tree.evaluateLog r.inputs

def issuesLog (r : Run) : Log.Entries := r.issues.flatMap Issue.log

end Run

end FormBuilder
