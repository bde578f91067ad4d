/-
The values that inputs hold, that fields start from and that rules compare with: null, booleans,
numbers, text, lists and maps. An input that was never set is no value at all, which differs from
an explicit null.
-/
import FormBuilder.Value.Number
import FormBuilder.Table

namespace FormBuilder

/-- A runtime value. The entries of a map are in ascending order of their keys, each key once. -/
inductive Value where
  | null
  | bool (b : Bool)
  | number (x : Float)
  | text (s : String)
  | list (items : List Value)
  | map (entries : List (String × Value))
  deriving Inhabited

namespace Value

/-! ## Equality -/

mutual

/-- Equality of structure, in which a number is equal to another as numbers are: no number that is
not a number equals anything, and the two zeros are equal. -/
def same : Value → Value → Bool
  | .null, .null => true
  | .bool a, .bool b => a == b
  | .number a, .number b => a == b
  | .text a, .text b => a == b
  | .list a, .list b => sameItems a b
  | .map a, .map b => sameEntries a b
  | _, _ => false

def sameItems : List Value → List Value → Bool
  | [], [] => true
  | a :: as, b :: bs => same a b && sameItems as bs
  | _, _ => false

def sameEntries : List (String × Value) → List (String × Value) → Bool
  | [], [] => true
  | (k, a) :: as, (l, b) :: bs => k == l && same a b && sameEntries as bs
  | _, _ => false

end

instance : BEq Value := ⟨same⟩

/-! ## Display -/

mutual

/-- The text of a value: the items of a list between commas, with nothing for null. -/
def display : Value → String
  | .null => "null"
  | .bool b => if b then "true" else "false"
  | .number x => formatNumber x
  | .text s => s
  | .list items => displayItems items
  | .map _ => "[object Object]"

def displayItem : Value → String
  | .null => ""
  | .bool b => if b then "true" else "false"
  | .number x => formatNumber x
  | .text s => s
  | .list items => displayItems items
  | .map _ => "[object Object]"

def displayItems : List Value → String
  | [] => ""
  | [v] => displayItem v
  | v :: vs => displayItem v ++ "," ++ displayItems vs

end

/-! ## Coercion -/

def boolNumber (b : Bool) : Float := if b then 1.0 else 0.0

/-- The number that a value counts as. Text that spells no number and maps count as no number. -/
def toNumber : Value → Float
  | .null => 0.0
  | .bool b => boolNumber b
  | .number x => x
  | .text s => parseNumber s
  | .list items => parseNumber (displayItems items)
  | .map _ => Decimal.nan

def asText? : Value → Option String
  | .text s => some s
  | _ => none

def isStructured : Value → Bool
  | .list _ | .map _ => true
  | _ => false

def isNull : Value → Bool
  | .null => true
  | _ => false

/-- Whether an input is unset, null or the empty text. -/
def isEmpty : Option Value → Bool
  | none | some .null => true
  | some (.text s) => s.isEmpty
  | some _ => false

/-! ## Loose equality -/

/-- What a value is compared as: a boolean as its number, and against a value without structure a
list or map as its text. -/
def asScalar : Value → Value
  | .bool b => .number (boolNumber b)
  | .list items => .text (displayItems items)
  | .map entries => .text (display (.map entries))
  | v => v

/-- Equality of numbers and texts, where text counts as the number it spells when it meets a
number. -/
def scalarEq : Value → Value → Bool
  | .number a, .number b => a == b
  | .text a, .text b => a == b
  | .number a, .text s => a == parseNumber s
  | .text s, .number b => parseNumber s == b
  | _, _ => false

/-- Loose equality of two values that are not null. -/
def looseEqValues (a b : Value) : Bool :=
  if a.isStructured && b.isStructured then a == b else scalarEq a.asScalar b.asScalar

/-- Loose equality of two inputs. Unset and null are equal to each other and to nothing else. -/
def looseEq : Option Value → Option Value → Bool
  | none, none | none, some .null | some .null, none | some .null, some .null => true
  | none, some _ | some _, none | some .null, some _ | some _, some .null => false
  | some a, some b => looseEqValues a b

end Value

/-- The inputs of a running form by field id. -/
abbrev Inputs := Table Value

end FormBuilder
