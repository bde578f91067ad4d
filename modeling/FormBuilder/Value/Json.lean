/-
Values as JSON. Every document is a value: whole numbers become floating-point numbers, and of
several entries of a key the last one counts.
-/
import FormBuilder.Value.Basic
import FormBuilder.Json.Record

namespace FormBuilder.Value

mutual

def toJson : Value → Json
  | .null => .null
  | .bool b => .bool b
  | .number x => .float x
  | .text s => .string s
  | .list items => .array (itemsToJson items)
  | .map entries => .object (entriesToJson entries)

def itemsToJson : List Value → List Json
  | [] => []
  | v :: vs => v.toJson :: itemsToJson vs

def entriesToJson : List (String × Value) → List (String × Json)
  | [] => []
  | (k, v) :: es => (k, v.toJson) :: entriesToJson es

end

mutual

def ofJson : Json → Value
  | .null => .null
  | .bool b => .bool b
  | .integer n => .number (Float.ofInt n)
  | .float x => .number x
  | .string s => .text s
  | .array items => .list (itemsOfJson items)
  | .object entries => .map (sortEntries (entriesOfJson entries))

def itemsOfJson : List Json → List Value
  | [] => []
  | j :: js => ofJson j :: itemsOfJson js

def entriesOfJson : List (String × Json) → List (String × Value)
  | [] => []
  | (k, j) :: es => (k, ofJson j) :: entriesOfJson es

end

/-- Values by key, in ascending order of the keys. -/
def mapOfJson? : Json → Option (List (String × Value))
  | .object entries => some (sortEntries (entriesOfJson entries))
  | _ => none

/-- The entry of an optional value. -/
def entry (key : String) (v : Option Value) : List (String × Json) :=
  match v with
  | none => []
  | some v => [(key, v.toJson)]

/-- The value of an entry that may be absent. -/
def entry? (es : List (String × Json)) (key : String) : Option Value := (es.lookup key).map ofJson

end FormBuilder.Value
