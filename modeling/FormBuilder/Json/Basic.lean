/-
JSON documents. Objects keep their entries in the order in which they were written, repeats
included; whole numbers and floating-point numbers are kept apart.
-/
import FormBuilder.Decimal.Binary

namespace FormBuilder

inductive Json where
  | null
  | bool (b : Bool)
  | integer (n : Int)
  | float (x : Float)
  | string (s : String)
  | array (items : List Json)
  | object (entries : List (String × Json))
  deriving Inhabited

namespace Json

/-! ## Depth -/

mutual

/-- How many arrays and objects stand around the deepest value. -/
def depth : Json → Nat
  | .array items => depthItems items + 1
  | .object entries => depthEntries entries + 1
  | _ => 0

def depthItems : List Json → Nat
  | [] => 0
  | j :: js => max j.depth (depthItems js)

def depthEntries : List (String × Json) → Nat
  | [] => 0
  | (_, j) :: es => max j.depth (depthEntries es)

end

/-! ## Entries -/

/-- The value of the first entry with a key. -/
def get? (key : String) : Json → Option Json
  | .object entries => entries.lookup key
  | _ => none

def isNull : Json → Bool
  | .null => true
  | _ => false

/-- The entries with the entry of `key` replaced, or appended when there is none. -/
def putEntry (key : String) (value : Json) : List (String × Json) → List (String × Json)
  | [] => [(key, value)]
  | (k, v) :: es => if k == key then (k, value) :: es else (k, v) :: putEntry key value es

/-! ## Numbers that a text can hold -/

mutual

/-- The document with null for every number that no JSON text can hold. -/
def storable : Json → Json
  | .float x => if Decimal.isFinite x then .float x else .null
  | .array items => .array (storableItems items)
  | .object entries => .object (storableEntries entries)
  | j => j

def storableItems : List Json → List Json
  | [] => []
  | j :: js => j.storable :: storableItems js

def storableEntries : List (String × Json) → List (String × Json)
  | [] => []
  | (k, j) :: es => (k, j.storable) :: storableEntries es

end

end Json

end FormBuilder
