/-
Slots: the sequences of fields that make up a form, each with the address that names it.
-/
namespace FormBuilder

/-- An arm of an A/B test. -/
inductive Variant where
  | a | b
  deriving DecidableEq, Repr

def Variant.name : Variant → String
  | .a => "A"
  | .b => "B"

def Variant.ofName? : String → Option Variant
  | "A" => some .a
  | "B" => some .b
  | _ => none

/-- The address of a sequence of fields. -/
inductive Slot where
  /-- The top-level fields of the form. -/
  | root
  /-- The children of a group or repeater. -/
  | children (container : String)
  | tab (container tab : String)
  | variant (container : String) (variant : Variant)
  deriving DecidableEq, Repr

namespace Slot

/-- The container id that stands for the top-level fields. -/
def rootId : String := "root"

/-- The slot with these tags. The root has no other tags, and a tab goes before a variant. -/
def ofTags (container : String) (tab : Option String) (variant : Option Variant) : Slot :=
  if container = rootId then .root
  else match tab, variant with
    | some t, _ => .tab container t
    | none, some v => .variant container v
    | none, none => .children container

/-- The field that owns the slot. -/
def container? : Slot → Option String
  | .root => none
  | .children c | .tab c _ | .variant c _ => some c

/-- The name of the kind of address. -/
def kind : Slot → String
  | .root => "Root"
  | .children _ => "Children"
  | .tab _ _ => "Tab"
  | .variant _ _ => "Variant"

def display : Slot → String
  | .root => rootId
  | .children c => c
  | .tab c t => c ++ "/tab:" ++ t
  | .variant c v => c ++ "/variant:" ++ v.name

end Slot

end FormBuilder
