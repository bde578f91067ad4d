/-
Patches: new values for some properties of a field. The properties of a field's type are kept as
JSON and replace those of the same name; everything that a patch does not name stays. The id and the
type of a field can never be patched.
-/
import FormBuilder.Tree.Edit
import FormBuilder.Field.Json

namespace FormBuilder

/-- New values where given. The default value and the validation can also be taken away. The
properties of the type are in ascending order of their keys. -/
structure Patch where
  label : Option String := none
  defaultValue : Option (Option Value) := none
  styles : Option (List (String × Value)) := none
  rules : Option (List Rule) := none
  validation : Option (Option Validation) := none
  readOnly : Option Bool := none
  properties : List (String × Json) := []

namespace Patch

def isProtected (key : String) : Bool := key == "id" || key == "type"

def isEmpty (p : Patch) : Bool :=
  p.label.isNone && p.defaultValue.isNone && p.styles.isNone && p.rules.isNone
    && p.validation.isNone && p.readOnly.isNone && p.properties.isEmpty

/-! ## Reading -/

/-- The patch with one more entry of a JSON object. -/
def addEntry (p : Patch) (key : String) (j : Json) : Except Tree.Error Patch :=
  let typed {α : Type} (value : Option α) (put : α → Patch) : Except Tree.Error Patch :=
    match value with
    | some a => .ok (put a)
    | none => .error (.invalidPatchValue key)
  match key with
  | "id" | "type" => .error (.protectedKey key)
  | "label" => typed j.string? fun s => { p with label := some s }
  | "defaultValue" => .ok { p with defaultValue := some (some (Value.ofJson j)) }
  | "styles" => typed (Value.mapOfJson? j) fun m => { p with styles := some m }
  | "logic" => typed (Json.list? Rule.ofJson? j) fun rs => { p with rules := some rs }
  | "validation" =>
    typed (Field.Head.optional? Validation.ofJson? j) fun v => { p with validation := some v }
  | "readOnly" => typed j.bool? fun b => { p with readOnly := some b }
  | _ => .ok { p with properties := putSorted key j p.properties }

/-- The patch that the entries of a JSON object spell. They are read in ascending order of their
keys, and the first one that is wrong is reported. -/
def ofEntries (entries : List (String × Json)) : Except Tree.Error Patch :=
  (sortEntries entries).foldlM (fun p e => p.addEntry e.1 e.2) {}

/-! ## Application -/

/-- The field with the properties of its type merged with those of the patch. -/
def mergeKind (p : Patch) (f : Field) : Except Tree.Error Field :=
  if p.properties.isEmpty then .ok f
  else match p.properties.find? fun e => isProtected e.1 with
    | some e => .error (.protectedKey e.1)
    | none =>
      let merged := p.properties.foldl (fun es e => Json.putEntry e.1 e.2 es)
        (Json.storableEntries f.kindEntries)
      match Field.ofEntries? (Field.ofJsonWithin? (Json.depthEntries merged)) f.head merged with
      | some g => .ok g
      | none => .error (.invalidPatch f.id)

/-- What every field has, with the new values of the patch. -/
def patchHead (p : Patch) (h : Field.Head) : Field.Head :=
  { h with
    label := p.label.getD h.label
    defaultValue := p.defaultValue.getD h.defaultValue
    styles := p.styles.getD h.styles
    rules := p.rules.getD h.rules
    validation := p.validation.getD h.validation
    readOnly := p.readOnly.getD h.readOnly }

def apply (p : Patch) (f : Field) : Except Tree.Error Field :=
  (p.mergeKind f).map fun g => g.withHead (p.patchHead g.head)

end Patch

/-- Patches a field, and tells whether there is one with the id. -/
def Tree.update (t : Tree) (id : String) (p : Patch) : Except Tree.Error (Tree × Bool) :=
  match t.find? id with
  | none => .ok (t, false)
  | some f => (p.apply f).map fun g => (t.replace id g, true)

end FormBuilder
