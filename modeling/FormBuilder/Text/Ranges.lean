/-
Tables of code points, kept as text: runs of code points for a class of characters, and runs with
an offset for a map from characters to characters.
-/
namespace FormBuilder.Text

/-! ## Numbers in base sixteen -/

def hexDigit? (c : Char) : Option Nat :=
  if '0' ≤ c && c ≤ '9' then some (c.toNat - 48)
  else if 'A' ≤ c && c ≤ 'F' then some (c.toNat - 55)
  else if 'a' ≤ c && c ≤ 'f' then some (c.toNat - 87)
  else none

/-- The number that digits of base sixteen spell; other characters count as nothing. -/
def hexValue (cs : List Char) : Nat :=
  cs.foldl (fun n c => match hexDigit? c with
    | some d => 16 * n + d
    | none => n) 0

/-- The pieces of a text between blanks and line ends. -/
def pieces (cs : List Char) : List (List Char) :=
  let (last, done) := cs.foldl (fun (piece, done) c =>
    if c == ' ' || c == '\n' then ([], piece.reverse :: done) else (c :: piece, done)) ([], [])
  ((last.reverse :: done).reverse).filter (· ≠ [])

/-! ## Ranges -/

/-- Ascending runs of code points, first and last. -/
structure Ranges where
  runs : Array (Nat × Nat)

/-- Reads runs written as `A-B`, or `A` for one code point. -/
def Ranges.ofText (s : String) : Ranges :=
  ⟨((pieces s.toList).map fun piece =>
    match piece.span (· ≠ '-') with
    | (a, []) => (hexValue a, hexValue a)
    | (a, b) => (hexValue a, hexValue b)).toArray⟩

/-- Halves the part `[low, high)` of the table until one run is left. -/
def Ranges.search (r : Ranges) (n : Nat) : (fuel low high : Nat) → Bool
  | 0, _, _ => false
  | fuel + 1, low, high =>
    if low < high then
      let mid := (low + high) / 2
      match r.runs[mid]? with
      | none => false
      | some (a, b) =>
        if n < a then r.search n fuel low mid
        else if b < n then r.search n fuel (mid + 1) high
        else true
    else false

def Ranges.contains (r : Ranges) (c : Char) : Bool :=
  r.search c.toNat r.runs.size 0 r.runs.size

/-! ## Shifts -/

/-- A run of code points, every one or every second of it, that moves by an offset. -/
structure Shift where
  first : Nat
  last : Nat
  step : Nat
  offset : Int

structure Shifts where
  runs : List Shift

def Shift.ofText (piece : List Char) : Shift :=
  let (run, move) := piece.span (fun c => c ≠ '<' && c ≠ '>')
  let offset : Int := if move.head? = some '<' then -(hexValue move : Int) else hexValue move
  match run.span (fun c => c ≠ '-' && c ≠ '=') with
  | (a, []) => ⟨hexValue a, hexValue a, 1, offset⟩
  | (a, b) => ⟨hexValue a, hexValue b, if b.head? = some '=' then 2 else 1, offset⟩

def Shifts.ofText (s : String) : Shifts := ⟨(pieces s.toList).map Shift.ofText⟩

def Shift.moves (s : Shift) (n : Nat) : Bool :=
  s.first ≤ n && n ≤ s.last && (n - s.first) % s.step == 0

def Shifts.find? (t : Shifts) (c : Char) : Option Char :=
  (t.runs.find? (·.moves c.toNat)).map fun s => Char.ofNat ((c.toNat : Int) + s.offset).toNat

def Shifts.apply (t : Shifts) (c : Char) : Char := (t.find? c).getD c

/-- The characters that move onto `c`. -/
def Shifts.sources (t : Shifts) (c : Char) : List Char :=
  t.runs.filterMap fun s =>
    let n := ((c.toNat : Int) - s.offset).toNat
    if s.moves n && (n : Int) + s.offset = c.toNat then some (Char.ofNat n) else none

end FormBuilder.Text
