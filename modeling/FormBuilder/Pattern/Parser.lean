/-
Reading written patterns. A pattern is refused when it is no regular expression, when it is nested
too deeply or when it would grow too large.
-/
import FormBuilder.Pattern.Bracket

namespace FormBuilder.Pattern

/-! ## State -/

/-- A part of a branch. Switches of flags leave parts that cannot be repeated. -/
structure Part where
  pattern : Pattern
  depth : Nat := 0
  repeatable : Bool := true

/-- An open group: the flags that hold again behind it, its finished branches and the parts of the
branch that is being read, both from the last to the first. -/
structure Group where
  outer : Flags
  branches : List Part := []
  parts : List Part := []

/-- What has been read: the open groups from the innermost to the outermost, the flags that hold and
the names of groups. -/
structure Reading where
  group : Group
  outer : List Group := []
  flags : Flags := {}
  names : List (List Char) := []

def deepest (parts : List Part) : Nat := parts.foldl (fun d p => max d p.depth) 0

/-- The parts in a row. -/
def inSequence : List Part → Part
  | [] => ⟨.empty, 0, true⟩
  | [p] => p
  | p :: parts =>
    ⟨parts.foldl (fun q p => .sequence p.pattern q) p.pattern, deepest (p :: parts) + 1, true⟩

/-- The parts as alternatives. -/
def inChoice : List Part → Part
  | [] => ⟨.empty, 0, true⟩
  | [p] => p
  | p :: parts =>
    ⟨parts.foldl (fun q p => .either p.pattern q) p.pattern, deepest (p :: parts) + 1, true⟩

namespace Group

def push (g : Group) (p : Part) : Group := { g with parts := p :: g.parts }

def endBranch (g : Group) : Group :=
  { g with branches := inSequence g.parts :: g.branches, parts := [] }

/-- Everything in the group. -/
def content (g : Group) : Part := inChoice g.endBranch.branches

end Group

namespace Reading

def push (r : Reading) (p : Part) : Reading := { r with group := r.group.push p }

def pushSet (r : Reading) (s : CharSet) (depth : Nat) : Option Reading :=
  if r.flags.plain && s.beyondPlain then none else some (r.push { pattern := .set s, depth })

def pushAtom (r : Reading) : Atom → Option Reading
  | .literal c => some (r.push { pattern := .set (r.flags.fold (.single c)) })
  | .set s => r.pushSet s 0
  | .look l => some (r.push { pattern := .look l })

/-- Repeats the last part. -/
def repeatLast (r : Reading) (least : Nat) (more : Option Nat) : Option Reading :=
  match r.group.parts with
  | p :: parts =>
    if p.repeatable then
      let p := { p with pattern := .repeated p.pattern least more, depth := p.depth + 1 }
      some { r with group := { r.group with parts := p :: parts } }
    else none
  | [] => none

/-- Opens a group in which other flags hold. -/
def openGroup (r : Reading) (flags : Flags) : Reading :=
  { r with group := { outer := r.flags }, outer := r.group :: r.outer, flags }

def closeGroup (r : Reading) : Option Reading :=
  match r.outer with
  | [] => none
  | g :: outer =>
    let content := r.group.content
    some { r with
      group := g.push { content with depth := content.depth + 1, repeatable := true }
      outer := outer
      flags := r.group.outer }

end Reading

/-! ## Groups -/

/-- Reads switches of flags up to a colon or a closing parenthesis, with the letters so far and
whether a hyphen has been read and was the last character. -/
def switches? (f : Flags) (letters : List Char) (negated dangling : Bool) :
    List Char → Option (Flags × Bool × Char × List Char)
  | [] => none
  | c :: cs =>
    if c == ':' || c == ')' then
      if dangling then none else some (f, letters.isEmpty, c, cs)
    else if c == '-' then
      if negated then none else switches? f letters true true cs
    else if letters.contains c then none
    else (f.set c !negated).bind fun f => switches? f (c :: letters) negated false cs

/-- Whether a name of a group may have this character in it, or in its first place. -/
def isNameChar (first : Bool) (c : Char) : Bool :=
  c == '_' || Text.isAlphabetic c ||
    (!first && (c == '.' || c == '[' || c == ']' || Text.isNumeric c))

/-- Reads the name of a group, which no other group may have. -/
def groupName? (names : List (List Char)) (cs : List Char) : Option (List Char × List Char) :=
  let name := cs.takeWhile (· != '>')
  match name, cs.dropWhile (· != '>') with
  | c :: more, _ :: rest =>
    if isNameChar true c && more.all (isNameChar false) && !names.contains name then
      some (name, rest)
    else none
  | _, _ => none

/-- Reads what stands behind an opening parenthesis. -/
def beginGroup (r : Reading) (cs : List Char) : Option (Reading × List Char) :=
  let named (cs : List Char) : Option (Reading × List Char) :=
    (groupName? r.names cs).map fun (name, rest) =>
      ({ r with names := name :: r.names }.openGroup r.flags, rest)
  match r.flags.skip cs with
  | '?' :: 'P' :: '<' :: cs => named cs
  | '?' :: '<' :: cs => named cs
  | '?' :: cs =>
    (switches? r.flags [] false false cs).bind fun (flags, none?, last, rest) =>
      if last == ':' then some (r.openGroup flags, rest)
      else if none? then none
      else some ({ r with flags }.push { pattern := .empty, repeatable := false }, rest)
  | cs => some (r.openGroup r.flags, cs)

/-! ## Repetition -/

/-- Skips a question mark, which asks for the shortest match. -/
def skipLazy : List Char → List Char
  | '?' :: cs => cs
  | cs => cs

def digitRun (f : Flags) : Nat → List Char → List Char × List Char
  | fuel + 1, c :: cs =>
    if Text.isPlainDigit c then
      let (digits, rest) := digitRun f fuel (f.skip cs)
      (c :: digits, rest)
    else ([], c :: cs)
  | _, cs => ([], cs)

/-- Reads a count of 32 bits with white space around it. -/
def count? (f : Flags) (cs : List Char) : Option (Nat × List Char) :=
  let cs := cs.dropWhile Text.isBlank
  let (digits, rest) := digitRun f cs.length cs
  let n := digits.foldl (fun n c => 10 * n + (c.toNat - 48)) 0
  if digits.isEmpty || Nat.pow 2 32 ≤ n then none else some (n, rest.dropWhile Text.isBlank)

/-- Reads a counted repetition, whose opening brace has been read. -/
def counted? (f : Flags) (cs : List Char) : Option (Nat × Option Nat × List Char) := do
  let (least, rest) ← count? f (f.skip cs)
  let finish (more : Option Nat) (cs : List Char) : Option (Nat × Option Nat × List Char) :=
    match cs with
    | '}' :: cs => some (least, more, skipLazy (f.skip cs))
    | _ => none
  match rest with
  | ',' :: rest =>
    match f.skip rest with
    | '}' :: rest => finish none ('}' :: rest)
    | rest => do
      let (most, rest) ← count? f rest
      if least ≤ most then finish (some (most - least)) rest else none
  | rest => finish (some 0) rest

/-! ## Patterns -/

/-- Reads the next part of a pattern. -/
def readPart (r : Reading) (c : Char) (cs : List Char) : Option (Reading × List Char) :=
  let f := r.flags
  let look (l : Look) : Option (Reading × List Char) := some (r.push { pattern := .look l }, cs)
  let repeated (least : Nat) (more : Option Nat) : Option (Reading × List Char) :=
    (r.repeatLast least more).map fun r => (r, skipLazy cs)
  match c with
  | '(' => beginGroup r cs
  | ')' => r.closeGroup.map fun r => (r, cs)
  | '|' => some ({ r with group := r.group.endBranch }, cs)
  | '[' => do
    let (s, rest) ← bracket? f cs
    return (← r.pushSet s.set s.depth, rest)
  | '?' => repeated 0 (some 1)
  | '*' => repeated 0 none
  | '+' => repeated 1 none
  | '{' => do
    let (least, more, rest) ← counted? f cs
    return (← r.repeatLast least more, rest)
  | '\\' => do
    let (a, rest) ← escape? f cs
    return (← r.pushAtom a, rest)
  | '.' => (r.pushSet f.dotSet 0).map fun r => (r, cs)
  | '^' =>
    look (if !f.multiLine then .textStart else if f.pairedLines then .lineStartPair else .lineStart)
  | '$' =>
    look (if !f.multiLine then .textEnd else if f.pairedLines then .lineEndPair else .lineEnd)
  | c => (r.pushAtom (.literal c)).map fun r => (r, cs)

/-- Reads to the end of a pattern. -/
def readParts : Nat → Reading → List Char → Option Reading
  | 0, _, _ => none
  | fuel + 1, r, cs =>
    match r.flags.skip cs with
    | [] => some r
    | c :: cs => do
      let (r, rest) ← readPart r c cs
      readParts fuel r rest

/-- How deeply the parts of a pattern may be nested. -/
def depthLimit : Nat := 250

/-- The pattern that a text spells. -/
def parse? (text : String) : Option Pattern := do
  let r ← readParts (text.length + 1) { group := { outer := {} } } text.toList
  guard r.outer.isEmpty
  let content := r.group.content
  guard (content.depth ≤ depthLimit && content.pattern.size ≤ sizeLimit)
  return content.pattern

end FormBuilder.Pattern
