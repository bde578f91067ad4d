/-
Values written out in full, with the kind of each, as a designer inspects them.
-/
import FormBuilder.Value.Basic
import FormBuilder.Text.Quoted

namespace FormBuilder.Value

/-- Numbers keep a point, and an exponent is used below `10^-4` and from `10^16` on. -/
def inspectLayout : Decimal.Layout := ⟨some (-4, 15), true, false⟩

mutual

def inspect : Value → String
  | .null => "Null"
  | .bool b => "Bool(" ++ (if b then "true" else "false") ++ ")"
  | .number x => "Number(" ++ inspectLayout.write x ++ ")"
  | .text s => "Text(" ++ Text.quoted s ++ ")"
  | .list items => "List([" ++ inspectItems items ++ "])"
  | .map entries => "Map(\x7b" ++ inspectEntries entries ++ "\x7d)"

def inspectItems : List Value → String
  | [] => ""
  | [v] => v.inspect
  | v :: vs => v.inspect ++ ", " ++ inspectItems vs

def inspectEntries : List (String × Value) → String
  | [] => ""
  | [(k, v)] => Text.quoted k ++ ": " ++ v.inspect
  | (k, v) :: es => Text.quoted k ++ ": " ++ v.inspect ++ ", " ++ inspectEntries es

end

end FormBuilder.Value
