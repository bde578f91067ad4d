/-
The inputs that a form is opened with: the defaults of its fields, and above them the parameters of
the address.
-/
import FormBuilder.Form.Basic
import FormBuilder.Log

namespace FormBuilder

/-- The parameters of an address in their order; a name may occur more than once. -/
abbrev QueryParams := List (String × String)

namespace QueryParams

/-- The first value of a parameter. -/
def first? (params : QueryParams) (name : String) : Option String := params.lookup name

end QueryParams

/-! ## Seeding -/

/-- The default values of all fields; of several fields with one id the last default counts. -/
def Tree.defaults (t : Tree) : Inputs :=
  t.flatten.foldl
    (fun inputs f =>
      match f.head.defaultValue with
      | some v => inputs.put f.id v
      | none => inputs)
    .empty

/-- The value that a mapping takes from the parameters, if it is complete and its parameter is
there. -/
def UrlMapping.value? (params : QueryParams) (m : UrlMapping) : Option String :=
  if m.parameter.isEmpty || m.target.isEmpty then none else params.first? m.parameter

/-- The values of a form that is opened. -/
def seed (t : Tree) (settings : FormSettings) (params : QueryParams) : Inputs :=
  settings.urlMappings.foldl
    (fun inputs m =>
      match m.value? params with
      | some s => inputs.put m.target (.text s)
      | none => inputs)
    t.defaults

def seedLog (settings : FormSettings) (params : QueryParams) : Log.Entries :=
  settings.urlMappings.filterMap fun m =>
    (m.value? params).map fun _ =>
      Log.debug ("Seeding '" ++ m.target ++ "' from URL parameter '" ++ m.parameter ++ "'")

end FormBuilder
