/-
Dragging: what is picked up, where it can be dropped, and what a drop does to the tree. A new field
is made from a control of the palette when it is dropped; a field that is moved keeps its id.
-/
import FormBuilder.Tree.Edit
import FormBuilder.Field.New

namespace FormBuilder.Drag

/-! ## Gestures -/

/-- What a drag starts from. -/
inductive Source where
  | control (type : FieldType) (subtype : Option TextSubtype)
  | field (id : String)
  deriving DecidableEq, Repr

/-- What is dragged: a preview of the field that a control makes, or a copy of the field that is
moved. -/
inductive Payload where
  | template (type : FieldType) (subtype : Option TextSubtype) (preview : Field)
  | existing (field : Field)

/-- The field to draw under the pointer. -/
def Payload.field : Payload → Field
  | .template _ _ preview => preview
  | .existing f => f

/-- What lies under the pointer: a field, before which a moved field lands, or a slot, at whose end
it lands. -/
inductive Target where
  | field (id : String)
  | slot (slot : Slot)
  deriving DecidableEq, Repr

/-- The target that carries these tags. A container that does not say which one it is, is the
root. -/
def Target.ofTags (hovered : String) (isContainer : Bool) (container tab : Option String)
    (variant : Option Variant) : Target :=
  if isContainer then .slot (.ofTags (container.getD Slot.rootId) tab variant) else .field hovered

inductive Outcome where
  | inserted (id : String) (slot : Slot)
  | moved (id : String) (slot : Slot)
  /-- The drop means nothing: on the field itself, on nothing in the tree, or into the field. -/
  | unchanged
  /-- There was no drag or no target. -/
  | cancelled
  deriving DecidableEq, Repr

/-- The outcome in words: what happened, to which field, and in which slot. -/
def Outcome.words : Outcome → List String
  | .inserted id slot => ["Inserted", id, slot.display]
  | .moved id slot => ["Moved", id, slot.display]
  | .unchanged => ["Unchanged"]
  | .cancelled => ["Cancelled"]

/-! ## Beginning -/

/-- The id of previews, which never stand in a tree. -/
def previewId : String := "__drag_preview__"

/-- What a source gives to drag; a field has to be in the tree. -/
def payload? (source : Source) (t : Tree) (fresh : FreshIds) : Option Payload :=
  match source with
  | .control type subtype => some (.template type subtype (.new previewId type subtype fresh))
  | .field id => (t.find? id).map .existing

def beginLog (source : Source) (t : Tree) (fresh : FreshIds) : Log.Entries :=
  match payload? source t fresh, source with
  | some p, _ => [Log.debug ("Drag started with '" ++ p.field.label ++ "'")]
  | none, .field id => [Log.warn ("Drag started on unknown field '" ++ id ++ "'")]
  | none, .control _ _ => []

/-! ## Dropping -/

/-- What a drop did. -/
structure Drop where
  outcome : Outcome
  tree : Tree
  log : Log.Entries := []

/-- Drops a new field at the end of the target, or of the slot in which the target stands. -/
def dropNew (t : Tree) (f : Field) (target : Target) : Drop :=
  let slot? := match target with
    | .slot s => some s
    | .field hovered => (t.locate? hovered).map (·.1)
  match slot? with
  | none => ⟨.unchanged, t, []⟩
  | some slot =>
    match t.insert slot f none with
    | .ok (t', index) =>
      ⟨.inserted f.id slot, t',
        [Tree.insertLog slot f.id index,
          Log.info ("Dropped new field '" ++ f.id ++ "' into '" ++ slot.display ++ "'")]⟩
    | .error e => ⟨.unchanged, t, [Log.warn ("Palette drop discarded: " ++ e.message)]⟩

/-- Moves a field to the end of the target, or before it. The target is looked up after the field
has been taken out, so a target inside the field is not found. -/
def dropExisting (t : Tree) (id : String) (target : Target) : Drop :=
  if target = .field id then ⟨.unchanged, t, []⟩
  else match t.remove? id with
    | none => ⟨.unchanged, t, []⟩
    | some (rest, f) =>
      let place? := match target with
        | .slot s => some (s, none)
        | .field hovered => (rest.locate? hovered).map fun (s, i) => (s, some i)
      match place? with
      | none => ⟨.unchanged, t, [Tree.removeLog id]⟩
      | some (slot, position) =>
        match rest.insert slot f position with
        | .ok (t', index) =>
          ⟨.moved id slot, t',
            [Tree.removeLog id, Tree.insertLog slot f.id index,
              Log.info ("Moved field '" ++ id ++ "' into '" ++ slot.display ++ "'")]⟩
        | .error e =>
          ⟨.unchanged, t,
            [Tree.removeLog id, Log.warn ("Move of '" ++ id ++ "' discarded: " ++ e.message)]⟩

/-- Drops what is dragged, if anything is, on the target, if there is one. A new field takes its id
from the stock. -/
def drop (dragging : Option Payload) (target : Option Target) (t : Tree) (fresh : FreshIds) :
    Drop :=
  match dragging, target with
  | some (.template type subtype _), some target =>
    dropNew t (.new (fresh 0) type subtype (fresh.skip 1)) target
  | some (.existing f), some target => dropExisting t f.id target
  | _, _ => ⟨.cancelled, t, []⟩

end FormBuilder.Drag
