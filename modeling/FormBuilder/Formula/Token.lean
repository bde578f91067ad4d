/-
The lexical elements of formulas, their places in the source, and what can be wrong with a formula.
-/
import FormBuilder.Decimal.Literal
import FormBuilder.Decimal.Notation
import FormBuilder.Text.Blank

namespace FormBuilder.Formula

inductive Token where
  | number (x : Float)
  /-- A field id between braces. -/
  | field (id : String)
  | plus | minus | star | slash
  | leftParen | rightParen
  deriving BEq

/-- A token and the number of characters before it. -/
structure Placed where
  token : Token
  position : Nat
  deriving BEq

/-- What can end a formula too early. -/
inductive Expected where
  | operand | rightParen
  deriving DecidableEq, Repr

inductive Error where
  | empty
  | unexpectedCharacter (c : Char) (position : Nat)
  | unterminatedReference (position : Nat)
  | emptyReference (position : Nat)
  | invalidNumber (literal : String)
  | unexpectedToken (found : String) (position : Nat)
  | unexpectedEnd (expected : Expected)
  | tooDeep
  deriving DecidableEq, Repr

/-- How deep a formula may be nested, and how tall its expression may be. -/
def depthLimit : Nat := 256

/-! ## Text -/

def braced (id : String) : String := "\x7b" ++ id ++ "\x7d"

def Token.text : Token → String
  | .number x => Decimal.display x
  | .field id => braced id
  | .plus => "+"
  | .minus => "-"
  | .star => "*"
  | .slash => "/"
  | .leftParen => "("
  | .rightParen => ")"

/-- The name of the lexical class. -/
def Token.kind : Token → String
  | .number _ => "Number"
  | .field _ => "FieldRef"
  | .plus => "Plus"
  | .minus => "Minus"
  | .star => "Star"
  | .slash => "Slash"
  | .leftParen => "LeftParen"
  | .rightParen => "RightParen"

def Expected.text : Expected → String
  | .operand => "a number, field reference or '('"
  | .rightParen => "')'"

/-- The name of the cause. -/
def Error.kind : Error → String
  | .empty => "Empty"
  | .unexpectedCharacter _ _ => "UnexpectedCharacter"
  | .unterminatedReference _ => "UnterminatedReference"
  | .emptyReference _ => "EmptyReference"
  | .invalidNumber _ => "InvalidNumber"
  | .unexpectedToken _ _ => "UnexpectedToken"
  | .unexpectedEnd _ => "UnexpectedEnd"
  | .tooDeep => "TooDeep"

def Error.message : Error → String
  | .empty => "Formula is empty"
  | .unexpectedCharacter c position =>
    "Unexpected character '" ++ c.toString ++ "' at position " ++ toString position
  | .unterminatedReference position =>
    "Field reference starting at position " ++ toString position ++ " is not terminated by '\x7d'"
  | .emptyReference position => "Field reference at position " ++ toString position ++ " is empty"
  | .invalidNumber literal => "Invalid number literal '" ++ literal ++ "'"
  | .unexpectedToken found position =>
    "Unexpected token '" ++ found ++ "' at position " ++ toString position
  | .unexpectedEnd expected => "Unexpected end of formula, expected " ++ expected.text
  | .tooDeep => "Formula nests deeper than " ++ toString depthLimit ++ " levels"

/-! ## Lexemes -/

/-- The digits at the start of a text with at most one point among them. -/
def mantissa : List Char → List Char
  | cs =>
    let whole := cs.takeWhile Decimal.isDigit
    match cs.dropWhile Decimal.isDigit with
    | '.' :: rest => whole ++ '.' :: rest.takeWhile Decimal.isDigit
    | _ => whole

/-- The exponent at the start of a text: a mark, an optional sign and at least one digit, or
nothing. -/
def exponent : List Char → List Char
  | c :: cs =>
    if c == 'e' || c == 'E' then
      let sign := match cs with
        | '+' :: _ => ['+']
        | '-' :: _ => ['-']
        | _ => []
      match (cs.drop sign.length).takeWhile Decimal.isDigit with
      | [] => []
      | ds => c :: (sign ++ ds)
    else []
  | [] => []

/-- The longest number at the start of a text. -/
def numeral (cs : List Char) : List Char :=
  let m := mantissa cs
  m ++ exponent (cs.drop m.length)

/-- The symbols that stand for themselves. -/
def symbol? : Char → Option Token
  | '+' => some .plus
  | '-' => some .minus
  | '*' => some .star
  | '/' => some .slash
  | '(' => some .leftParen
  | ')' => some .rightParen
  | _ => none

/-- The token at the start of a text at a position, and the number of its characters. -/
def tokenAt (position : Nat) (c : Char) (cs : List Char) : Except Error (Token × Nat) :=
  match symbol? c with
  | some t => .ok (t, 1)
  | none =>
    if c == '\x7b' then
      let id := cs.takeWhile (· ≠ '\x7d')
      if id.length = cs.length then .error (.unterminatedReference position)
      else if id.isEmpty then .error (.emptyReference position)
      else .ok (.field (String.ofList id), id.length + 2)
    else if Decimal.isDigit c || c == '.' then
      let n := numeral (c :: cs)
      match Decimal.unsigned? n with
      | some x => .ok (.number x, n.length)
      | none => .error (.invalidNumber (String.ofList n))
    else .error (.unexpectedCharacter c position)

/-- The tokens of a text at a position, after `done`, which holds the tokens before it from the
last to the first. The first `skip` characters belong to a token that was cut. -/
def tokensAfter (done : List Placed) (skip position : Nat) :
    List Char → Except Error (List Placed)
  | [] => .ok done.reverse
  | c :: cs =>
    match skip with
    | skip + 1 => tokensAfter done skip (position + 1) cs
    | 0 =>
      if Text.isBlank c then tokensAfter done 0 (position + 1) cs
      else
        match tokenAt position c cs with
        | .error e => .error e
        | .ok (t, n) => tokensAfter (⟨t, position⟩ :: done) (n - 1) (position + 1) cs

/-- Cuts a formula into tokens. White space separates and is dropped. -/
def tokenize (source : String) : Except Error (List Placed) := tokensAfter [] 0 0 source.toList

end FormBuilder.Formula
