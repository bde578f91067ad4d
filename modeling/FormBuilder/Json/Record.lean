/-
Taking typed values out of JSON documents. A record may be written as an object or as the array of
its members in order; a member that is absent is refused or has a default.
-/
import FormBuilder.Json.Basic

namespace FormBuilder.Json

/-! ## Scalars -/

def string? : Json → Option String
  | .string s => some s
  | _ => none

def bool? : Json → Option Bool
  | .bool b => some b
  | _ => none

/-- A number of either kind. -/
def float? : Json → Option Float
  | .integer n => some (Float.ofInt n)
  | .float x => some x
  | _ => none

/-- A whole number of 32 bits. -/
def uint32? : Json → Option UInt32
  | .integer n => if 0 ≤ n ∧ n.toNat < Nat.pow 2 32 then some (UInt32.ofNat n.toNat) else none
  | _ => none

def list? (item : Json → Option α) : Json → Option (List α)
  | .array items => items.mapM item
  | _ => none

/-- The name of an alternative: a string, or an object of that one key with nothing in it. -/
def choice? : Json → Option String
  | .string s => some s
  | .object [(k, .null)] => some k
  | _ => none

/-- The name of an alternative of a kept value, where an empty object counts as nothing too. -/
def keptChoice? : Json → Option String
  | .object [(k, .object [])] => some k
  | j => j.choice?

/-! ## Records -/

/-- How often a key occurs. -/
def occurrences (key : String) (entries : List (String × Json)) : Nat :=
  entries.countP fun e => e.1 == key

/-- The members of a record by name. No known name may occur twice. -/
def members? (names : List String) : Json → Option (List (String × Json))
  | .object entries =>
    if names.all fun n => occurrences n entries ≤ 1 then some entries else none
  | .array items => if items.length ≤ names.length then some (names.zip items) else none
  | _ => none

/-- A member that has to be there. -/
def required (entries : List (String × Json)) (name : String) (decode : Json → Option α) :
    Option α :=
  (entries.lookup name).bind decode

/-- A member with a default for its absence. -/
def orElse (entries : List (String × Json)) (name : String) (default : α)
    (decode : Json → Option α) : Option α :=
  match entries.lookup name with
  | none => some default
  | some j => decode j

end FormBuilder.Json
