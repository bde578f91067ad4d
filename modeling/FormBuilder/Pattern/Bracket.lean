/-
Sets of characters between brackets: single characters, ranges, named sets, sets inside sets, and
the operators for intersection, difference and symmetric difference, which group to the left.
-/
import FormBuilder.Pattern.Escape

namespace FormBuilder.Pattern

/-- A set with the depth to which its parts are nested. -/
structure DeepSet where
  set : CharSet
  depth : Nat := 0

/-- How two sets combine. -/
inductive SetOperator where
  | inter | diff | symmDiff

def SetOperator.apply : SetOperator → CharSet → CharSet → CharSet
  | .inter => .inter
  | .diff => .diff
  | .symmDiff => .symmDiff

/-- An open bracket: the operand and operator in front of the part that is being read, and the
members of that part. -/
structure Bracket where
  negated : Bool
  left : Option (DeepSet × SetOperator) := none
  members : List DeepSet := []

namespace Bracket

def push (b : Bracket) (s : DeepSet) : Bracket := { b with members := s :: b.members }

/-- The set of the members. -/
def part (b : Bracket) : DeepSet :=
  match b.members with
  | [] => ⟨.none, 0⟩
  | [s] => s
  | members =>
    ⟨fun c => members.any fun s => s.set c, (members.foldl (fun d s => max d s.depth) 0) + 1⟩

/-- The set so far, the operator applied. -/
def total (f : Flags) (b : Bracket) : DeepSet :=
  match b.left with
  | none => b.part
  | some (l, op) =>
    ⟨op.apply (f.fold l.set) (f.fold b.part.set), max l.depth b.part.depth + 1⟩

def operator (f : Flags) (op : SetOperator) (b : Bracket) : Bracket :=
  { b with left := some (b.total f, op), members := [] }

/-- The set of a bracket that ends. -/
def close (f : Flags) (b : Bracket) : DeepSet :=
  ⟨f.foldThenNegate b.negated (b.total f).set, (b.total f).depth + 1⟩

end Bracket

/-- Hyphens that stand at the beginning of a bracket. -/
def leadingHyphens (f : Flags) : Nat → Bracket → List Char → Bracket × List Char
  | fuel + 1, b, '-' :: cs => leadingHyphens f fuel (b.push ⟨.single '-', 0⟩) (f.skip cs)
  | _, b, cs => (b, cs)

/-- Reads the beginning of a bracket, whose opening character has been read. A closing bracket in
the first place is a member. -/
def openBracket (f : Flags) (cs : List Char) : Bracket × List Char :=
  let (negated, cs) := match f.skip cs with
    | '^' :: cs => (true, f.skip cs)
    | cs => (false, cs)
  match leadingHyphens f cs.length { negated } cs with
  | (b, ']' :: cs) =>
    if b.members.isEmpty then (b.push ⟨.single ']', 0⟩, f.skip cs) else (b, ']' :: cs)
  | r => r

/-- Reads an ASCII set that is named between colons; its opening bracket has been read. -/
def colonSet? (f : Flags) : List Char → Option (CharSet × List Char)
  | ':' :: cs =>
    let (negated, cs) := match cs with
      | '^' :: cs => (true, cs)
      | cs => (false, cs)
    match cs.dropWhile (· != ':') with
    | ':' :: ']' :: rest =>
      (plainSet? (String.ofList (cs.takeWhile (· != ':')))).map fun s =>
        (f.foldThenNegate negated s, rest)
    | _ => none
  | _ => none

/-- Reads a character, an escape or a named set. -/
def member? (f : Flags) : List Char → Option (Atom × List Char)
  | [] => none
  | '\\' :: cs => escape? f cs
  | c :: cs => some (.literal c, cs)

/-- Whether a hyphen here stands between the ends of a range. -/
def rangeFollows (f : Flags) : List Char → Bool
  | '-' :: cs => match f.skip cs with
    | ']' :: _ | '-' :: _ => false
    | _ => true
  | _ => false

/-- Reads a member or a range. -/
def span? (f : Flags) (cs : List Char) : Option (CharSet × List Char) := do
  let (a, rest) ← member? f cs
  let rest := f.skip rest
  if rangeFollows f rest then
    match a, ← member? f (f.skip (rest.drop 1)) with
    | .literal low, (.literal high, rest) => if low ≤ high then some (.range low high, rest) else none
    | _, _ => none
  else match a with
    | .literal c => some (.single c, rest)
    | .set s => some (s, rest)
    | .look _ => none

/-- Reads on inside the open brackets, from the innermost to the outermost, until the last one is
closed. -/
def bracketLoop (f : Flags) : Nat → List Bracket → List Char → Option (DeepSet × List Char)
  | fuel + 1, b :: outer, cs =>
    match f.skip cs with
    | ']' :: rest =>
      match outer with
      | [] => some (b.close f, rest)
      | o :: outer => bracketLoop f fuel (o.push (b.close f) :: outer) rest
    | '[' :: rest =>
      match colonSet? f rest with
      | some (s, rest) => bracketLoop f fuel (b.push ⟨s, 0⟩ :: outer) rest
      | none =>
        let (inner, rest) := openBracket f rest
        bracketLoop f fuel (inner :: b :: outer) rest
    | '&' :: '&' :: rest => bracketLoop f fuel (b.operator f .inter :: outer) rest
    | '-' :: '-' :: rest => bracketLoop f fuel (b.operator f .diff :: outer) rest
    | '~' :: '~' :: rest => bracketLoop f fuel (b.operator f .symmDiff :: outer) rest
    | cs => do
      let (s, rest) ← span? f cs
      bracketLoop f fuel (b.push ⟨s, 0⟩ :: outer) rest
  | _, _, _ => none

/-- Reads a bracket, whose opening character has been read. -/
def bracket? (f : Flags) (cs : List Char) : Option (DeepSet × List Char) :=
  let (b, rest) := openBracket f cs
  bracketLoop f (rest.length + 1) [b] rest

end FormBuilder.Pattern
