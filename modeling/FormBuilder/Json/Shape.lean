/-
What a reader expects of a JSON document, described closely enough that a document of another shape
is refused at the first place that shows it.
-/
import FormBuilder.Json.Token

namespace FormBuilder.Json

inductive Shape where
  /-- Anything; it is kept as it stands. -/
  | any
  /-- Anything; it is passed over. -/
  | skipped
  /-- A string with a property. -/
  | text (ok : String → Bool)
  | flag
  | list (item : Shape)
  /-- Values of any kind by key. -/
  | table
  /-- Null or a value. -/
  | optional (inner : Shape)
  /-- Members by name, as an object or, where `positional`, as an array in this order. A member
  occurs at most once; members of other names have the shape `others`. The record as a whole is
  judged by `whole` when it ends. -/
  | record (members : List (String × Shape)) (others : Shape) (positional : Bool)
      (whole : Json → Bool)

namespace Shape

/-- A string of any content. -/
def string : Shape := .text fun _ => true

def isSkipped : Shape → Bool
  | .skipped => true
  | _ => false

/-- Whether a value that begins with this bracket can have the shape. -/
def opens (b : Bracket) : Shape → Bool
  | .any | .skipped => true
  | .text _ | .flag => false
  | .list _ => b == .square
  | .table => b == .curly
  | .optional inner => inner.opens b
  | .record _ _ positional _ => positional || b == .curly

/-- The shape of an item of an array by its index; none when there can be no such item. -/
def item? (index : Nat) : Shape → Option Shape
  | .any => some .any
  | .skipped => some .skipped
  | .list item => some item
  | .optional inner => inner.item? index
  | .record members _ _ _ => (members[index]?).map (·.2)
  | .text _ | .flag | .table => none

/-- The shape of the entry of an object by its key. -/
def member (key : String) : Shape → Shape
  | .skipped => .skipped
  | .optional inner => inner.member key
  | .record members others _ _ => (members.lookup key).getD others
  | _ => .any

/-- Whether an object must not have two entries with this key. -/
def single (key : String) : Shape → Bool
  | .optional inner => inner.single key
  | .record members _ _ _ => (members.lookup key).isSome
  | _ => false

/-- Whether a value that was read to its end has the shape. -/
def fits : Shape → Json → Bool
  | .any, _ | .skipped, _ => true
  | .text ok, .string s => ok s
  | .flag, .bool _ => true
  | .list _, .array _ => true
  | .table, .object _ => true
  | .optional inner, j => j.isNull || inner.fits j
  | .record _ _ positional whole, .array items => positional && whole (.array items)
  | .record _ _ _ whole, .object entries => whole (.object entries)
  | _, _ => false

end Shape

end FormBuilder.Json
