/-
Numbers as text: how a text is read as a number, and how a number is shown.
-/
import FormBuilder.Decimal.Literal
import FormBuilder.Decimal.Notation
import FormBuilder.Text.Blank
import FormBuilder.Text.Ranges

namespace FormBuilder

/-! ## Reading -/

/-- The radix that a prefix announces, with the text after the prefix. -/
def radix? : List Char → Option (Nat × List Char)
  | '0' :: 'x' :: cs | '0' :: 'X' :: cs => some (16, cs)
  | '0' :: 'o' :: cs | '0' :: 'O' :: cs => some (8, cs)
  | '0' :: 'b' :: cs | '0' :: 'B' :: cs => some (2, cs)
  | _ => none

def radixDigit? (radix : Nat) (c : Char) : Option Nat :=
  (Text.hexDigit? c).filter (· < radix)

/-- The number that digits of a radix spell. It has to fit into 64 bits. A plus sign may stand in
front. -/
def radixNumber? (radix : Nat) (cs : List Char) : Option Nat :=
  let digits := match cs with
    | '+' :: ds => ds
    | ds => ds
  if digits.isEmpty then none
  else ((digits.mapM (radixDigit? radix)).map fun ds =>
    ds.foldl (fun n d => radix * n + d) 0).filter (· < Nat.pow 2 64)

/-- The characters of decimal literals. -/
def isNumeral (c : Char) : Bool :=
  Decimal.isDigit c || c == '.' || c == 'e' || c == 'E' || c == '+' || c == '-'

/-- Reads a text without white space around it. -/
def parseTrimmed (cs : List Char) : Float :=
  let (negative, unsigned) := Decimal.splitSign cs
  if cs.isEmpty then 0.0
  else if unsigned == "Infinity".toList then Decimal.withSign negative Decimal.infinity
  else match radix? cs with
    | some (radix, digits) =>
      match radixNumber? radix digits with
      | some n => Float.ofNat n
      | none => Decimal.nan
    | none =>
      if unsigned.all isNumeral && unsigned.any Decimal.isDigit then
        (Decimal.literal? cs).getD Decimal.nan
      else Decimal.nan

/-- The number that a text spells, white space around it aside: nothing is zero, a decimal literal
or `Infinity` may have a sign, and `0x`, `0o` and `0b` announce another radix. Any other text is no
number. -/
def parseNumber (s : String) : Float := parseTrimmed (Text.trim s.toList)

/-! ## Showing -/

/-- The text of a number as shown to a respondent. -/
def formatNumber (x : Float) : String :=
  match Decimal.Form.ofFloat x with
  | .notANumber => "NaN"
  | .infinite false => "Infinity"
  | .infinite true => "-Infinity"
  | .finite negative size =>
    if size.mantissa = 0 then "0"
    else
      let digits := if size.isWhole && size.floor < 9 * Nat.pow 10 15 then Decimal.digitChars size.floor
        else Decimal.plainLayout.size size
      String.ofList (if negative then '-' :: digits else digits)

end FormBuilder
