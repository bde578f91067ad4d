/-
The text of a JSON document: compact, and spread over indented lines.
-/
import FormBuilder.Json.Basic
import FormBuilder.Decimal.Notation

namespace FormBuilder.Json

/-- A number is written with the fewest digits that read back. Whole numbers keep a point and a
zero, and an exponent is used below `10^-5` and from `10^16` on. -/
def numberLayout : Decimal.Layout := ⟨some (-5, 15), true, true⟩

def floatText (x : Float) : String :=
  if Decimal.isFinite x then numberLayout.write x else "null"

/-! ## Strings -/

/-- A control character as an escape of four digits. -/
def controlEscape (c : Char) : List Char :=
  let digits := Nat.toDigits 16 c.toNat
  '\\' :: 'u' :: (List.replicate (4 - digits.length) '0' ++ digits)

def escapeChar (c : Char) : List Char :=
  if c == '"' then ['\\', '"']
  else if c == '\\' then ['\\', '\\']
  else if c == '\n' then ['\\', 'n']
  else if c == '\r' then ['\\', 'r']
  else if c == '\t' then ['\\', 't']
  else if c.toNat = 8 then ['\\', 'b']
  else if c.toNat = 12 then ['\\', 'f']
  else if c.toNat < 32 then controlEscape c
  else [c]

def quote (s : String) : String := String.ofList ('"' :: s.toList.flatMap escapeChar ++ ['"'])

/-! ## Compact text -/

mutual

def compact : Json → String
  | .null => "null"
  | .bool b => if b then "true" else "false"
  | .integer n => toString n
  | .float x => floatText x
  | .string s => quote s
  | .array items => "[" ++ compactItems items ++ "]"
  | .object entries => "\x7b" ++ compactEntries entries ++ "\x7d"

def compactItems : List Json → String
  | [] => ""
  | [j] => compact j
  | j :: js => compact j ++ "," ++ compactItems js

def compactEntries : List (String × Json) → String
  | [] => ""
  | [(k, j)] => quote k ++ ":" ++ compact j
  | (k, j) :: es => quote k ++ ":" ++ compact j ++ "," ++ compactEntries es

end

/-! ## Indented text -/

/-- A line end and the indent of a nesting level, two blanks each. -/
def newLine (level : Nat) : String := String.ofList ('\n' :: List.replicate (2 * level) ' ')

mutual

def prettyAt (level : Nat) : Json → String
  | .array [] => "[]"
  | .array items => "[" ++ prettyItems (level + 1) items ++ newLine level ++ "]"
  | .object [] => "\x7b\x7d"
  | .object entries => "\x7b" ++ prettyEntries (level + 1) entries ++ newLine level ++ "\x7d"
  | .null => "null"
  | .bool b => if b then "true" else "false"
  | .integer n => toString n
  | .float x => floatText x
  | .string s => quote s

def prettyItems (level : Nat) : List Json → String
  | [] => ""
  | [j] => newLine level ++ prettyAt level j
  | j :: js => newLine level ++ prettyAt level j ++ "," ++ prettyItems level js

def prettyEntries (level : Nat) : List (String × Json) → String
  | [] => ""
  | [(k, j)] => newLine level ++ quote k ++ ": " ++ prettyAt level j
  | (k, j) :: es =>
    newLine level ++ quote k ++ ": " ++ prettyAt level j ++ "," ++ prettyEntries level es

end

/-- The document over indented lines, with two blanks for each level. -/
def pretty (j : Json) : String := prettyAt 0 j

end FormBuilder.Json
