/-
How the digits of a number are laid out as text. One layout function serves every format; what
distinguishes the formats is a record of decisions.
-/
import FormBuilder.Decimal.Shortest

namespace FormBuilder.Decimal

/-- The decisions of a format. -/
structure Layout where
  /-- The exponents of the leading digit, first and last, that are written without an exponent;
  `none` for all. -/
  plain : Option (Int × Int)
  /-- Whole numbers keep a point and a zero. -/
  pointZero : Bool
  /-- An exponent from zero on has a plus sign. -/
  plus : Bool
  deriving DecidableEq, Repr

/-- Every digit in its place, and nothing after a whole number. -/
def plainLayout : Layout := ⟨none, false, false⟩

def digitChars (n : Nat) : List Char := Nat.toDigits 10 n

def zeros (n : Nat) : List Char := List.replicate n '0'

/-- The digits with the point where it belongs. -/
def positional (pointZero : Bool) (d : Digits) : List Char :=
  let ds := digitChars d.digits
  if 0 ≤ d.exponent then
    ds ++ zeros d.exponent.toNat ++ (if pointZero then ['.', '0'] else [])
  else
    let point := (ds.length : Int) + d.exponent
    if 0 < point then ds.take point.toNat ++ '.' :: ds.drop point.toNat
    else '0' :: '.' :: (zeros (-point).toNat ++ ds)

/-- One digit, the others after a point, and the exponent of the first. -/
def scientific (plus : Bool) (leading : Int) (d : Digits) : List Char :=
  let mantissa := match digitChars d.digits with
    | [] => []
    | [c] => [c]
    | c :: cs => c :: '.' :: cs
  let sign := if leading < 0 then ['-'] else if plus then ['+'] else []
  mantissa ++ 'e' :: (sign ++ digitChars leading.natAbs)

/-- The text of a finite size. -/
def Layout.size (l : Layout) (b : Binary) : List Char :=
  if b.mantissa = 0 then '0' :: (if l.pointZero then ['.', '0'] else [])
  else
    let d := b.shortest
    let leading := ((digitChars d.digits).length : Int) + d.exponent - 1
    match l.plain with
    | none => positional l.pointZero d
    | some (first, last) =>
      if first ≤ leading && leading ≤ last then positional l.pointZero d
      else scientific l.plus leading d

/-- The text of a double. -/
def Layout.write (l : Layout) (x : Float) : String :=
  match Form.ofFloat x with
  | .notANumber => "NaN"
  | .infinite false => "inf"
  | .infinite true => "-inf"
  | .finite false b => String.ofList (l.size b)
  | .finite true b => String.ofList ('-' :: l.size b)

/-- The text of a double with every digit in its place. -/
def display (x : Float) : String := plainLayout.write x

end FormBuilder.Decimal
