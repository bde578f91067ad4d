/-
Saved forms: the fields of a form, its settings, the organization that owns it and when it was saved.
-/
import FormBuilder.Tree.Basic
import FormBuilder.Form.Timestamp

namespace FormBuilder

/-- Gives a field the value of a parameter of the address under which a form is opened. -/
structure UrlMapping where
  id : String
  parameter : String
  target : String
  deriving DecidableEq, Repr

structure FormSettings where
  name : String
  urlMappings : List UrlMapping
  deriving DecidableEq, Repr

namespace FormSettings

/-- The settings of a new form. -/
def initial : FormSettings := ⟨"Untitled Form", []⟩

def addMapping (id parameter target : String) (s : FormSettings) : FormSettings :=
  { s with urlMappings := s.urlMappings ++ [⟨id, parameter, target⟩] }

/-- Removes every mapping with the id. -/
def removeMapping (id : String) (s : FormSettings) : FormSettings :=
  { s with urlMappings := s.urlMappings.filter (·.id != id) }

def hasMapping (id : String) (s : FormSettings) : Bool := s.urlMappings.any (·.id == id)

end FormSettings

structure SavedForm where
  id : String
  organizationId : String
  tree : Tree
  settings : FormSettings
  savedAt : Timestamp

namespace SavedForm

/-- A form without fields. -/
def new (id organizationId : String) (now : Timestamp) : SavedForm :=
  ⟨id, organizationId, .empty, .initial, now⟩

def name (f : SavedForm) : String := f.settings.name

/-- Equality of structure, where numbers are compared as numbers. -/
def same (f g : SavedForm) : Bool :=
  f.id == g.id && f.organizationId == g.organizationId && f.tree.fields == g.tree.fields
    && f.settings == g.settings && f.savedAt == g.savedAt

instance : BEq SavedForm := ⟨same⟩

end SavedForm

end FormBuilder
