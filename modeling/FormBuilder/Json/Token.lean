/-
The lexical elements of JSON text. A text is cut into tokens from left to right; an element that
cannot be read ends the list, and says what is wrong with it.
-/
import FormBuilder.Json.Basic
import FormBuilder.Decimal.Literal
import FormBuilder.Text.Ranges

namespace FormBuilder.Json

/-- Why a text was refused. -/
inductive Fault where
  /-- The text is not JSON. -/
  | malformed
  /-- The text ends too early. -/
  | truncated
  /-- The text is JSON of another shape than the reader expects. -/
  | mismatched
  deriving DecidableEq, Repr

/-- The kind of a fault in one word. -/
def Fault.category : Fault → String
  | .malformed => "syntax"
  | .truncated => "eof"
  | .mismatched => "data"

inductive Bracket where
  | square | curly
  deriving DecidableEq, Repr

inductive Token where
  | opening (b : Bracket)
  | closing (b : Bracket)
  | comma
  | colon
  /-- A string, number or word: its value, if it can be kept, and whether a reader that only passes
  over it gets to its end. -/
  | scalar (isString : Bool) (kept : Except Fault Json) (passed : Except Fault Unit)
  /-- A character that begins no element. -/
  | stray

/-! ## Strings -/

/-- The number that the four digits at the start of a text spell. -/
def hexFour (cs : List Char) : Except Fault Nat :=
  if (cs.foldl (fun n c => n + c.utf8Size) 0) < 4 then .error .truncated
  else
    let ds := cs.take 4
    if ds.length == 4 && ds.all fun c => (Text.hexDigit? c).isSome then .ok (Text.hexValue ds)
    else .error .malformed

def isLeadingSurrogate (n : Nat) : Bool := 0xD800 ≤ n && n ≤ 0xDBFF

def isTrailingSurrogate (n : Nat) : Bool := 0xDC00 ≤ n && n ≤ 0xDFFF

/-- The character that an escape stands for, and the length of what follows the backslash. Two
escapes of surrogates make one character; a lone surrogate is none. -/
def escape : List Char → Except Fault (Char × Nat)
  | [] => .error .truncated
  | '"' :: _ => .ok ('"', 1)
  | '\\' :: _ => .ok ('\\', 1)
  | '/' :: _ => .ok ('/', 1)
  | 'b' :: _ => .ok (Char.ofNat 8, 1)
  | 'f' :: _ => .ok (Char.ofNat 12, 1)
  | 'n' :: _ => .ok ('\n', 1)
  | 'r' :: _ => .ok ('\r', 1)
  | 't' :: _ => .ok ('\t', 1)
  | 'u' :: cs => do
    let n ← hexFour cs
    if isTrailingSurrogate n then throw .malformed
    else if isLeadingSurrogate n then
      match cs.drop 4 with
      | [] => throw .truncated
      | ['\\'] => throw .truncated
      | '\\' :: 'u' :: more =>
        let m ← hexFour more
        if isTrailingSurrogate m then
          return (Char.ofNat (0x10000 + (n - 0xD800) * 0x400 + (m - 0xDC00)), 11)
        else throw .malformed
      | _ => throw .malformed
    else return (Char.ofNat n, 5)
  | _ => .error .malformed

/-- The rest of a string after `done`, which holds its characters from the last to the first. The
first `skip` characters belong to an escape that was read. -/
def keptString (done : List Char) (skip length : Nat) : List Char → Except Fault (String × Nat)
  | [] => .error .truncated
  | c :: cs =>
    match skip with
    | skip + 1 => keptString done skip length cs
    | 0 =>
      if c == '"' then .ok (String.ofList done.reverse, length + 1)
      else if c == '\\' then
        match escape cs with
        | .error f => .error f
        | .ok (e, n) => keptString (e :: done) n (length + n + 1) cs
      else if c.toNat < 32 then .error .malformed
      else keptString (c :: done) 0 (length + 1) cs

/-- The length of an escape that is passed over: surrogates need not be paired. -/
def passedEscape : List Char → Except Fault Nat
  | [] => .error .truncated
  | 'u' :: cs => (hexFour cs).map fun _ => 5
  | c :: _ => if "\"\\/bfnrt".contains c then .ok 1 else .error .malformed

/-- The length of the rest of a string that is passed over. -/
def passedString (skip length : Nat) : List Char → Except Fault Nat
  | [] => .error .truncated
  | c :: cs =>
    match skip with
    | skip + 1 => passedString skip length cs
    | 0 =>
      if c == '"' then .ok (length + 1)
      else if c == '\\' then
        match passedEscape cs with
        | .error f => .error f
        | .ok n => passedString n (length + n + 1) cs
      else if c.toNat < 32 then .error .malformed
      else passedString 0 (length + 1) cs

/-! ## Numbers -/

/-- The digits at the start of a text; there has to be one. -/
def someDigits (cs : List Char) : Except Fault (List Char) :=
  match cs.takeWhile Decimal.isDigit with
  | [] => .error (if cs.isEmpty then .truncated else .malformed)
  | ds => .ok ds

/-- The whole part of a number: one zero, or digits that do not begin with a zero. -/
def wholePart (cs : List Char) : Except Fault (List Char) := do
  let ds ← someDigits cs
  if ds.head? = some '0' ∧ 1 < ds.length then throw .malformed else return ds

/-- The digits behind a point, if there is a point. -/
def fractionPart : List Char → Except Fault (Option (List Char))
  | '.' :: ds => (someDigits ds).map some
  | _ => .ok none

/-- The exponent, if there is one, and its length with the mark. -/
def exponentPart : List Char → Except Fault (Option Int × Nat)
  | c :: es =>
    if c == 'e' || c == 'E' then
      let (minus, ds) := Decimal.splitSign es
      (someDigits ds).map fun digits =>
        let n : Int := Decimal.natOfDigits digits
        (some (if minus then -n else n), 1 + (es.length - ds.length) + digits.length)
    else .ok (none, 0)
  | [] => .ok (none, 0)

/-- The length of a fraction with its point. -/
def fractionLength : Option (List Char) → Nat
  | some ds => ds.length + 1
  | none => 0

/-- The length of a number and its parts: sign, whole digits, fraction digits and exponent. -/
def numberParts (cs : List Char) :
    Except Fault (Bool × List Char × Option (List Char) × Option Int × Nat) := do
  let negative : Bool := cs.head? == some '-'
  let cs := if negative then cs.drop 1 else cs
  let whole ← wholePart cs
  let rest := cs.drop whole.length
  let fraction ← fractionPart rest
  let used := fractionLength fraction
  let (exponent, length) ← exponentPart (rest.drop used)
  return (negative, whole, fraction, exponent,
    (if negative then 1 else 0) + whole.length + used + length)

/-- The value of a number. Whole numbers of up to 64 bits stay whole; any other number is the
nearest double, and one beyond all doubles is refused. -/
def numberValue (negative : Bool) (whole : List Char) (fraction : Option (List Char))
    (exponent : Option Int) : Except Fault Json :=
  let n := Decimal.natOfDigits whole
  let double (n : Nat) (e : Int) : Except Fault Json :=
    let x := Decimal.nearest n e
    if Decimal.isFinite x then .ok (.float (Decimal.withSign negative x)) else .error .malformed
  match fraction, exponent with
  | none, none =>
    if !negative && n < Nat.pow 2 64 then .ok (.integer n)
    else if negative && 0 < n && n ≤ Nat.pow 2 63 then .ok (.integer (-n))
    else double n 0
  | _, _ =>
    let ds := fraction.getD []
    double (Decimal.natOfDigits (whole ++ ds)) (exponent.getD 0 - ds.length)

/-! ## Cutting a text -/

/-- The length of a fixed word, if the text begins with it. -/
def word (expected : List Char) (cs : List Char) : Except Fault Nat :=
  let there := cs.take expected.length
  if there == expected then .ok expected.length
  else if there.isPrefixOf expected then .error .truncated
  else .error .malformed

/-- A word as a token, with its length. -/
def wordToken (expected : List Char) (value : Json) (cs : List Char) : Token × Option Nat :=
  match word expected cs with
  | .ok n => (.scalar false (.ok value) (.ok ()), some n)
  | .error f => (.scalar false (.error f) (.error f), none)

/-- The token at the start of a text and its length; no length when the text cannot be cut on. -/
def tokenAt : List Char → Token × Option Nat
  | [] => (.stray, none)
  | '[' :: _ => (.opening .square, some 1)
  | ']' :: _ => (.closing .square, some 1)
  | '\x7b' :: _ => (.opening .curly, some 1)
  | '\x7d' :: _ => (.closing .curly, some 1)
  | ',' :: _ => (.comma, some 1)
  | ':' :: _ => (.colon, some 1)
  | '"' :: cs =>
    match keptString [] 0 1 cs, passedString 0 1 cs with
    | .ok (s, n), _ => (.scalar true (.ok (.string s)) (.ok ()), some n)
    | .error f, .ok n => (.scalar true (.error f) (.ok ()), some n)
    | .error f, .error g => (.scalar true (.error f) (.error g), none)
  | 't' :: cs => wordToken ['t', 'r', 'u', 'e'] (.bool true) ('t' :: cs)
  | 'f' :: cs => wordToken ['f', 'a', 'l', 's', 'e'] (.bool false) ('f' :: cs)
  | 'n' :: cs => wordToken ['n', 'u', 'l', 'l'] .null ('n' :: cs)
  | c :: cs =>
    if c == '-' || Decimal.isDigit c then
      match numberParts (c :: cs) with
      | .ok (negative, whole, fraction, exponent, n) =>
        (.scalar false (numberValue negative whole fraction exponent) (.ok ()), some n)
      | .error f => (.scalar false (.error f) (.error .malformed), none)
    else (.stray, none)

def isSpace (c : Char) : Bool := c == ' ' || c == '\n' || c == '\t' || c == '\r'

/-- The tokens of a text after `done`. The first `skip` characters belong to a token that was
cut. -/
def tokensAfter (done : List Token) (skip : Nat) : List Char → List Token
  | [] => done.reverse
  | c :: cs =>
    match skip with
    | skip + 1 => tokensAfter done skip cs
    | 0 =>
      if isSpace c then tokensAfter done 0 cs
      else
        match tokenAt (c :: cs) with
        | (t, some n) => tokensAfter (t :: done) (n - 1) cs
        | (t, none) => (t :: done).reverse

def tokens (text : String) : List Token := tokensAfter [] 0 text.toList

end FormBuilder.Json
