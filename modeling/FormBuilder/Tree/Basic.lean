/-
The tree of a form's fields, and looking things up in it. Fields are visited in one order
everywhere: the fields of a slot one after the other, each before the fields inside it, and the
slots of a field in their own order. An id that occurs more than once means its first field.
-/
import FormBuilder.Field.Basic
import FormBuilder.Field.Capability

namespace FormBuilder

structure Tree where
  fields : List Field

/-- A field of a tree with its place: the slot that it stands in and its index there. -/
structure Tree.Entry where
  slot : Slot
  index : Nat
  field : Field

/-- The entry as one line: its address and the id of its field. -/
def Tree.Entry.text (e : Tree.Entry) : String :=
  e.slot.display ++ "#" ++ toString e.index ++ ":" ++ e.field.id

/-! ## Order -/

namespace Field

mutual

/-- The entries of everything inside a field. -/
def inside : Field → List Tree.Entry
  | .leaf _ _ => []
  | .group h _ cs | .repeater h _ cs => entriesFrom (.children h.id) 0 cs
  | .tabs h ts => insideTabs h.id ts
  | .abTest h a b => entriesFrom (.variant h.id .a) 0 a ++ entriesFrom (.variant h.id .b) 0 b

/-- The entries of the fields of a slot from an index on, with everything inside them. -/
def entriesFrom (slot : Slot) (index : Nat) : List Field → List Tree.Entry
  | [] => []
  | f :: fs => ⟨slot, index, f⟩ :: (inside f ++ entriesFrom slot (index + 1) fs)

def insideTabs (id : String) : List (Tab Field) → List Tree.Entry
  | [] => []
  | ⟨tab, _, cs⟩ :: ts => entriesFrom (.tab id tab) 0 cs ++ insideTabs id ts

end

end Field

namespace Tree

def empty : Tree := ⟨[]⟩

/-- Every field with its place, in the order in which fields are visited. -/
def entries (t : Tree) : List Entry := Field.entriesFrom .root 0 t.fields

/-- Every field, in the order in which fields are visited. -/
def flatten (t : Tree) : List Field := t.entries.map (·.field)

def size (t : Tree) : Nat := t.entries.length

def isEmpty (t : Tree) : Bool := t.fields.isEmpty

/-! ## Lookup -/

def entry? (t : Tree) (id : String) : Option Entry := t.entries.find? (·.field.id == id)

def find? (t : Tree) (id : String) : Option Field := (t.entry? id).map (·.field)

def contains (t : Tree) (id : String) : Bool := (t.find? id).isSome

/-- The slot of a field and its index there. -/
def locate? (t : Tree) (id : String) : Option (Slot × Nat) :=
  (t.entry? id).map fun e => (e.slot, e.index)

/-- The ids that stand for the second time at some place of the list, in that order, when the ids
`seen` stand before it. -/
def secondOccurrences (seen : List String) : List String → List String
  | [] => []
  | i :: is =>
    if seen.count i = 1 then i :: secondOccurrences (i :: seen) is
    else secondOccurrences (i :: seen) is

/-- The ids that more than one field has, ordered by their second field. -/
def duplicateIds (t : Tree) : List String := secondOccurrences [] (t.flatten.map (·.id))

/-! ## Errors -/

/-- Why an edit of a tree is refused. -/
inductive Error where
  | slotNotFound (slot : Slot)
  | fieldNotFound (id : String)
  | protectedKey (key : String)
  | invalidPatch (id : String)
  | invalidPatchValue (key : String)
  | unsupported (edit : Field.Unsupported)
  deriving DecidableEq, Repr

/-- The name of the cause. -/
def Error.kind : Error → String
  | .slotNotFound _ => "SlotNotFound"
  | .fieldNotFound _ => "FieldNotFound"
  | .protectedKey _ => "ProtectedKey"
  | .invalidPatch _ => "InvalidPatch"
  | .invalidPatchValue _ => "InvalidPatchValue"
  | .unsupported _ => "Unsupported"

def Error.message : Error → String
  | .slotNotFound slot => "Slot '" ++ slot.display ++ "' was not found in the field tree"
  | .fieldNotFound id => "Field '" ++ id ++ "' was not found in the field tree"
  | .protectedKey key => "Patch key '" ++ key ++ "' cannot be changed after a field is created"
  | .invalidPatch id => "Patch for field '" ++ id ++ "' is invalid: "
  | .invalidPatchValue key => "Patch key '" ++ key ++ "' has an invalid value: "
  | .unsupported e =>
    "Field '" ++ e.id ++ "' of type " ++ e.type.name ++ " does not support " ++ e.capability

end Tree

end FormBuilder
