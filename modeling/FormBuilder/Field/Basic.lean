/-
Fields: what all of them have, what the type of each adds, and, for containers, the fields inside.
-/
import FormBuilder.Field.Config
import FormBuilder.Field.Slot
import FormBuilder.Rule.Basic

namespace FormBuilder

/-! ## The parts of a field -/

/-- What fields of every type have. The default value may be absent, which differs from a default
of null. The styles are in ascending order of their keys. -/
structure Field.Head where
  id : String
  label : String
  defaultValue : Option Value
  styles : List (String × Value)
  rules : List Rule
  validation : Option Validation
  readOnly : Bool
  deriving BEq

/-- The types that are configured as plain inputs. -/
inductive InputType where
  | checkbox | datePicker | time | dateTime | signature | geolocation
  deriving DecidableEq, Repr

def InputType.fieldType : InputType → FieldType
  | .checkbox => .checkbox
  | .datePicker => .datePicker
  | .time => .time
  | .dateTime => .dateTime
  | .signature => .signature
  | .geolocation => .geolocation

/-- The type of a field without fields inside, with its configuration. -/
inductive Leaf where
  | text (config : TextConfig)
  | textarea (config : TextareaConfig)
  | select (config : SelectConfig)
  | radioGroup (config : RadioGroupConfig)
  | input (type : InputType) (config : InputConfig)
  | fileUpload (config : FileUploadConfig)
  | rating (config : RatingConfig)
  | slider (config : SliderConfig)
  | matrix (config : MatrixConfig)
  | lookup (config : LookupConfig)
  | payment (config : PaymentConfig)
  | calculated (config : CalculatedConfig)
  | sectionBreak (config : SectionBreakConfig)
  | image (config : ImageConfig)
  | html (config : HtmlConfig)
  | pageBreak
  | progressTracker
  deriving BEq

def Leaf.fieldType : Leaf → FieldType
  | .text _ => .text
  | .textarea _ => .textarea
  | .select _ => .select
  | .radioGroup _ => .radioGroup
  | .input type _ => type.fieldType
  | .fileUpload _ => .fileUpload
  | .rating _ => .rating
  | .slider _ => .slider
  | .matrix _ => .matrix
  | .lookup _ => .lookup
  | .payment _ => .payment
  | .calculated _ => .calculated
  | .sectionBreak _ => .sectionBreak
  | .image _ => .image
  | .html _ => .html
  | .pageBreak => .pageBreak
  | .progressTracker => .progressTracker

structure Tab (α : Type) where
  id : String
  label : String
  children : List α

/-- One element of a form. -/
inductive Field where
  | leaf (head : Field.Head) (kind : Leaf)
  | group (head : Field.Head) (columns : UInt32) (children : List Field)
  | repeater (head : Field.Head) (addLabel : String) (children : List Field)
  | tabs (head : Field.Head) (tabs : List (Tab Field))
  | abTest (head : Field.Head) (variantA variantB : List Field)

namespace Field

/-! ## Access -/

def head : Field → Head
  | .leaf h _ | .group h _ _ | .repeater h _ _ | .tabs h _ | .abTest h _ _ => h

/-- The field with another head. -/
def withHead (h : Head) : Field → Field
  | .leaf _ k => .leaf h k
  | .group _ n cs => .group h n cs
  | .repeater _ l cs => .repeater h l cs
  | .tabs _ ts => .tabs h ts
  | .abTest _ a b => .abTest h a b

def id (f : Field) : String := f.head.id

def label (f : Field) : String := f.head.label

def type : Field → FieldType
  | .leaf _ k => k.fieldType
  | .group _ _ _ => .group
  | .repeater _ _ _ => .repeater
  | .tabs _ _ => .tabs
  | .abTest _ _ _ => .abTest

def isContainer (f : Field) : Bool := f.type.isContainer

/-- The slots of a container in the order in which they are visited. -/
def slots : Field → List (Slot × List Field)
  | .leaf _ _ => []
  | .group h _ cs | .repeater h _ cs => [(.children h.id, cs)]
  | .tabs h ts => ts.map fun t => (.tab h.id t.id, t.children)
  | .abTest h a b => [(.variant h.id .a, a), (.variant h.id .b, b)]

/-- Changes the contents of the slots, each told its place among them. -/
def mapSlots (change : Nat → List Field → List Field) : Field → Field
  | .leaf h k => .leaf h k
  | .group h n cs => .group h n (change 0 cs)
  | .repeater h l cs => .repeater h l (change 0 cs)
  | .tabs h ts => .tabs h (ts.mapIdx fun i t => { t with children := change i t.children })
  | .abTest h a b => .abTest h (change 0 a) (change 1 b)

/-! ## Equality -/

mutual

/-- Equality of structure, where numbers are compared as numbers. -/
def same : Field → Field → Bool
  | .leaf h k, .leaf h' k' => h == h' && k == k'
  | .group h n cs, .group h' n' cs' => h == h' && n == n' && sameList cs cs'
  | .repeater h l cs, .repeater h' l' cs' => h == h' && l == l' && sameList cs cs'
  | .tabs h ts, .tabs h' ts' => h == h' && sameTabs ts ts'
  | .abTest h a b, .abTest h' a' b' => h == h' && sameList a a' && sameList b b'
  | _, _ => false

def sameList : List Field → List Field → Bool
  | [], [] => true
  | f :: fs, g :: gs => same f g && sameList fs gs
  | _, _ => false

def sameTabs : List (Tab Field) → List (Tab Field) → Bool
  | [], [] => true
  | ⟨i, l, cs⟩ :: ts, ⟨i', l', cs'⟩ :: ts' =>
    i == i' && l == l' && sameList cs cs' && sameTabs ts ts'
  | _, _ => false

end

instance : BEq Field := ⟨same⟩

end Field

end FormBuilder
