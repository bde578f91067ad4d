/-
Reading JSON text against a shape. The reader is a machine over tokens with a stack of the arrays
and objects that are open; it stops at the first token that cannot go on, so of several faults in a
text the first one is reported.
-/
import FormBuilder.Json.Shape

namespace FormBuilder.Json

/-- An open array or object: its shape and its items or entries so far, from the last to the
first. -/
inductive Frame where
  | array (shape : Shape) (items : List Json)
  | object (shape : Shape) (entries : List (String × Json)) (key : String)

/-- What has to come next. -/
inductive Phase where
  /-- A value, or in a new array its end. -/
  | value (shape : Shape) (mayClose : Bool)
  /-- A key, or in a new object its end. -/
  | key (mayClose : Bool)
  | colon
  /-- A comma or the end of the innermost array or object. -/
  | separator
  | finished (j : Json)

structure Reading where
  frames : List Frame
  phase : Phase

namespace Frame

def shape : Frame → Shape
  | .array s _ => s
  | .object s _ _ => s

end Frame

/-- The arrays and objects that are open, those that are passed over left out. -/
def Reading.openCount (r : Reading) : Nat :=
  (r.frames.filter fun f => !f.shape.isSkipped).length

/-- Hands a finished value to the innermost open array or object. -/
def supply (frames : List Frame) (j : Json) : Reading :=
  match frames with
  | [] => ⟨[], .finished j⟩
  | .array s items :: rest => ⟨.array s (j :: items) :: rest, .separator⟩
  | .object s entries key :: rest =>
    if (s.member key).isSkipped then ⟨.object s entries key :: rest, .separator⟩
    else ⟨.object s ((key, j) :: entries) key :: rest, .separator⟩

/-- Ends the innermost array or object. -/
def close (frames : List Frame) (b : Bracket) : Except Fault Reading :=
  let finish (s : Shape) (j : Json) (rest : List Frame) : Except Fault Reading :=
    if s.fits j then .ok (supply rest j) else .error .mismatched
  match frames, b with
  | .array s items :: rest, .square => finish s (.array items.reverse) rest
  | .object s entries _ :: rest, .curly => finish s (.object entries.reverse) rest
  | _, _ => .error .malformed

/-- Begins an array or object where a value of the shape has to stand. -/
def begin (limit : Nat) (r : Reading) (s : Shape) (b : Bracket) : Except Fault Reading :=
  if !s.opens b then .error .mismatched
  else if !s.isSkipped && limit ≤ r.openCount then .error .malformed
  else match b with
    | .curly => .ok ⟨.object s [] "" :: r.frames, .key true⟩
    | .square =>
      match s.item? 0 with
      | some item => .ok ⟨.array s [] :: r.frames, .value item true⟩
      | none => .ok ⟨.array s [] :: r.frames, .separator⟩

/-- A string, number or word where a value of the shape has to stand. -/
def takeScalar (r : Reading) (s : Shape) (kept : Except Fault Json) (passed : Except Fault Unit) :
    Except Fault Reading :=
  if s.isSkipped then passed.map fun _ => supply r.frames .null
  else match kept with
    | .error f => .error f
    | .ok j => if s.fits j then .ok (supply r.frames j) else .error .mismatched

/-- A string where a key has to stand. -/
def takeKey (frames : List Frame) (kept : Except Fault Json) (passed : Except Fault Unit) :
    Except Fault Reading :=
  match frames with
  | .object s entries _ :: rest =>
    if s.isSkipped then passed.map fun _ => ⟨.object s entries "" :: rest, .colon⟩
    else match kept with
      | .error f => .error f
      | .ok (.string k) =>
        if s.single k && (entries.lookup k).isSome then .error .mismatched
        else .ok ⟨.object s entries k :: rest, .colon⟩
      | .ok _ => .error .malformed
  | _ => .error .malformed

/-- One token. At most `limit` arrays and objects may be open. -/
def step (limit : Nat) (r : Reading) (t : Token) : Except Fault Reading :=
  match r.phase, t with
  | .value s _, .opening b => begin limit r s b
  | .value s _, .scalar _ kept passed => takeScalar r s kept passed
  | .value _ true, .closing b => close r.frames b
  | .key _, .scalar true kept passed => takeKey r.frames kept passed
  | .key true, .closing b => close r.frames b
  | .colon, .colon =>
    match r.frames with
    | .object s entries key :: rest =>
      .ok ⟨.object s entries key :: rest, .value (s.member key) false⟩
    | _ => .error .malformed
  | .separator, .comma =>
    match r.frames with
    | .array s items :: _ =>
      match s.item? items.length with
      | some item => .ok ⟨r.frames, .value item false⟩
      | none => .error .malformed
    | .object _ _ _ :: _ => .ok ⟨r.frames, .key false⟩
    | [] => .error .malformed
  | .separator, .closing b => close r.frames b
  | _, _ => .error .malformed

/-- Reads a text that holds one document of the shape, nested at most `limit` deep. -/
def readWithin (limit : Nat) (shape : Shape) (text : String) : Except Fault Json :=
  match (tokens text).foldlM (step limit) ⟨[], .value shape false⟩ with
  | .error f => .error f
  | .ok ⟨_, .finished j⟩ => .ok j
  | .ok _ => .error .truncated

/-- How deeply arrays and objects of a text may be nested. -/
def nestingLimit : Nat := 127

def read (shape : Shape) (text : String) : Except Fault Json := readWithin nestingLimit shape text

end FormBuilder.Json
