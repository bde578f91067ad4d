/-
What the types of fields have in common: placeholders, helper texts, options and the demand for an
input; and the editing of options and tabs.
-/
import FormBuilder.Field.Basic

namespace FormBuilder

namespace Leaf

def placeholder? : Leaf → Option String
  | .text c => some c.placeholder
  | .textarea c => some c.placeholder
  | .select c => some c.placeholder
  | .lookup c => some c.placeholder
  | _ => none

def withPlaceholder (s : String) : Leaf → Leaf
  | .text c => .text { c with placeholder := s }
  | .textarea c => .textarea { c with placeholder := s }
  | .select c => .select { c with placeholder := s }
  | .lookup c => .lookup { c with placeholder := s }
  | k => k

def helperText? : Leaf → Option String
  | .text c => some c.helperText
  | .textarea c => some c.helperText
  | .select c => some c.helperText
  | .radioGroup c => some c.helperText
  | .input _ c => some c.helperText
  | .fileUpload c => some c.helperText
  | .rating c => some c.helperText
  | .slider c => some c.helperText
  | .matrix c => some c.helperText
  | .lookup c => some c.helperText
  | .payment c => some c.helperText
  | .calculated c => some c.helperText
  | _ => none

def withHelperText (s : String) : Leaf → Leaf
  | .text c => .text { c with helperText := s }
  | .textarea c => .textarea { c with helperText := s }
  | .select c => .select { c with helperText := s }
  | .radioGroup c => .radioGroup { c with helperText := s }
  | .input t c => .input t { c with helperText := s }
  | .fileUpload c => .fileUpload { c with helperText := s }
  | .rating c => .rating { c with helperText := s }
  | .slider c => .slider { c with helperText := s }
  | .matrix c => .matrix { c with helperText := s }
  | .lookup c => .lookup { c with helperText := s }
  | .payment c => .payment { c with helperText := s }
  | .calculated c => .calculated { c with helperText := s }
  | k => k

def required? : Leaf → Option Bool
  | .text c => some c.required
  | .textarea c => some c.required
  | .select c => some c.required
  | .radioGroup c => some c.required
  | .input _ c => some c.required
  | .fileUpload c => some c.required
  | .rating c => some c.required
  | .slider c => some c.required
  | .lookup c => some c.required
  | _ => none

def withRequired (b : Bool) : Leaf → Leaf
  | .text c => .text { c with required := b }
  | .textarea c => .textarea { c with required := b }
  | .select c => .select { c with required := b }
  | .radioGroup c => .radioGroup { c with required := b }
  | .input t c => .input t { c with required := b }
  | .fileUpload c => .fileUpload { c with required := b }
  | .rating c => .rating { c with required := b }
  | .slider c => .slider { c with required := b }
  | .lookup c => .lookup { c with required := b }
  | k => k

def options? : Leaf → Option (List Choice)
  | .select c => some c.options
  | .radioGroup c => some c.options
  | _ => none

def withOptions (cs : List Choice) : Leaf → Leaf
  | .select c => .select { c with options := cs }
  | .radioGroup c => .radioGroup { c with options := cs }
  | k => k

end Leaf

/-- An edit that the type of a field does not allow. -/
structure Field.Unsupported where
  id : String
  type : FieldType
  capability : String
  deriving DecidableEq, Repr

namespace Field

/-! ## Access -/

/-- A property of the type of a field; fields with fields inside have none of them. -/
def ofLeaf? (property : Leaf → Option α) : Field → Option α
  | .leaf _ k => property k
  | _ => none

def placeholder? (f : Field) : Option String := f.ofLeaf? Leaf.placeholder?

def helperText? (f : Field) : Option String := f.ofLeaf? Leaf.helperText?

/-- Whether an input is demanded, for types that can demand one. -/
def required? (f : Field) : Option Bool := f.ofLeaf? Leaf.required?

def isRequired (f : Field) : Bool := f.required?.getD false

def options? (f : Field) : Option (List Choice) := f.ofLeaf? Leaf.options?

def options (f : Field) : List Choice := f.options?.getD []

def calculation? : Field → Option CalculatedConfig
  | .leaf _ (.calculated c) => some c
  | _ => none

/-! ## Editing -/

def withLeaf (f : Field) (change : Leaf → Leaf) : Field :=
  match f with
  | .leaf h k => .leaf h (change k)
  | f => f

def withPlaceholder (s : String) (f : Field) : Field := f.withLeaf (Leaf.withPlaceholder s)

def withHelperText (s : String) (f : Field) : Field := f.withLeaf (Leaf.withHelperText s)

def withRequired (b : Bool) (f : Field) : Field := f.withLeaf (Leaf.withRequired b)

def withOptions (cs : List Choice) (f : Field) : Field := f.withLeaf (Leaf.withOptions cs)

def unsupported (f : Field) (capability : String) : Unsupported := ⟨f.id, f.type, capability⟩

def editOptions (f : Field) (edit : List Choice → List Choice × α) :
    Except Unsupported (Field × α) :=
  match f.options? with
  | none => .error (f.unsupported "options")
  | some cs => .ok (f.withOptions (edit cs).1, (edit cs).2)

def addOption (id label : String) (f : Field) : Except Unsupported (Field × String) :=
  f.editOptions fun cs => (cs ++ [Choice.ofLabel id label], id)

/-- Removes every option with the id, and says whether there was one. -/
def removeOption (option : String) (f : Field) : Except Unsupported (Field × Bool) :=
  f.editOptions fun cs => (cs.filter (·.id != option), cs.any (·.id == option))

/-- Gives the first option with the id another label and the value of that label. -/
def relabel (option label : String) : List Choice → List Choice
  | [] => []
  | c :: cs => if c.id == option then Choice.ofLabel c.id label :: cs else c :: relabel option label cs

def renameOption (option label : String) (f : Field) : Except Unsupported (Field × Bool) :=
  f.editOptions fun cs => (relabel option label cs, cs.any (·.id == option))

def editTabs (f : Field) (edit : List (Tab Field) → List (Tab Field) × α) :
    Except Unsupported (Field × α) :=
  match f with
  | .tabs h ts => .ok (.tabs h (edit ts).1, (edit ts).2)
  | f => .error (f.unsupported "tabs")

def addTab (id label : String) (f : Field) : Except Unsupported (Field × String) :=
  f.editTabs fun ts => (ts ++ [⟨id, label, []⟩], id)

/-- Removes the first tab with the id together with the fields inside it. -/
def removeTab (tab : String) (f : Field) : Except Unsupported (Field × Option (Tab Field)) :=
  f.editTabs fun ts => (ts.eraseP (·.id == tab), ts.find? (·.id == tab))

end Field

end FormBuilder
