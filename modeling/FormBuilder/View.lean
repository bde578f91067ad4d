/-
What is shown of a form: the visible fields with their states, and inside containers the views of
their slots.
-/
import FormBuilder.State.Basic

namespace FormBuilder

/-- The families in which types of fields are drawn. -/
inductive RenderKind where
  | input | choice | computed | layout | container
  /-- Not drawn: page breaks and progress trackers. -/
  | structural
  deriving DecidableEq, Repr

def RenderKind.name : RenderKind → String
  | .input => "Input"
  | .choice => "Choice"
  | .computed => "Computed"
  | .layout => "Layout"
  | .container => "Container"
  | .structural => "Structural"

def FieldType.renderKind : FieldType → RenderKind
  | .select | .radioGroup | .lookup => .choice
  | .calculated => .computed
  | .sectionBreak | .image | .html => .layout
  | .group | .repeater | .tabs | .abTest => .container
  | .pageBreak | .progressTracker => .structural
  | _ => .input

/-- The views of one slot of a container; a tab has a label. -/
structure SlotView (α : Type) where
  slot : Slot
  label : Option String
  views : List α

inductive View where
  | mk (field : Field) (state : FieldState) (slots : List (SlotView View))

namespace View

def field : View → Field
  | mk f _ _ => f

def state : View → FieldState
  | mk _ s _ => s

def slots : View → List (SlotView View)
  | mk _ _ ss => ss

def kind (v : View) : RenderKind := v.field.type.renderKind

end View

/-- The state in which a field is drawn, if it is drawn. -/
def FormState.shown? (s : FormState) (f : Field) : Option FieldState :=
  (s.get? f.id).filter fun st => st.isVisible && f.type.renderKind != .structural

namespace Field

mutual

/-- The views of the slots of a field. Of an A/B test the first variant is shown. -/
def slotViews (s : FormState) : Field → List (SlotView View)
  | .leaf _ _ => []
  | .group h _ cs | .repeater h _ cs => [⟨.children h.id, none, visibleViews s cs⟩]
  | .tabs h ts => tabViews s h.id ts
  | .abTest h a _ => [⟨.variant h.id .a, none, visibleViews s a⟩]

/-- The views of those fields that are visible and drawn. -/
def visibleViews (s : FormState) : List Field → List View
  | [] => []
  | f :: fs =>
    match s.shown? f with
    | some st => .mk f st (slotViews s f) :: visibleViews s fs
    | none => visibleViews s fs

def tabViews (s : FormState) (id : String) : List (Tab Field) → List (SlotView View)
  | [] => []
  | ⟨tab, label, cs⟩ :: ts => ⟨.tab id tab, some label, visibleViews s cs⟩ :: tabViews s id ts

end

end Field

end FormBuilder
