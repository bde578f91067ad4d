/-
What a double-precision number stands for: a sign and `mantissa · 2^exponent`, read off its bits,
with exact comparison and rounding to whole numbers over the naturals.
-/
namespace FormBuilder.Decimal

/-- A finite size `mantissa · 2^exponent`. -/
structure Binary where
  mantissa : Nat
  exponent : Int
  /-- The next smaller double is only half as far away as the next larger one. -/
  narrowBelow : Bool
  deriving DecidableEq, Repr

/-- What the bits of a double stand for. -/
inductive Form where
  | notANumber
  | infinite (negative : Bool)
  | finite (negative : Bool) (size : Binary)
  deriving DecidableEq, Repr

/-! ## Reading the bits -/

def isNegative (x : Float) : Bool := Nat.pow 2 63 ≤ x.toBits.toNat

def exponentBits (x : Float) : Nat := x.toBits.toNat / Nat.pow 2 52 % Nat.pow 2 11

def fractionBits (x : Float) : Nat := x.toBits.toNat % Nat.pow 2 52

/-- The size of a finite double. -/
def Binary.ofFloat (x : Float) : Binary :=
  let e := exponentBits x
  let f := fractionBits x
  if e = 0 then ⟨f, -1074, false⟩ else ⟨Nat.pow 2 52 + f, (e : Int) - 1075, f == 0 && 1 < e⟩

def Form.ofFloat (x : Float) : Form :=
  if exponentBits x = 2047 then
    if fractionBits x = 0 then .infinite (isNegative x) else .notANumber
  else .finite (isNegative x) (Binary.ofFloat x)

def isFinite (x : Float) : Bool := exponentBits x != 2047

/-- The size of a double, which keeps its bits but for the sign. -/
def magnitude (x : Float) : Float := if isNegative x then -x else x

def infinity : Float := 1.0 / 0.0

def nan : Float := 0.0 / 0.0

/-! ## Whole numbers -/

namespace Binary

/-- The part of a size below `2^0`, as a numerator over `2^places`. -/
def places (b : Binary) : Nat := (-b.exponent).toNat

/-- The largest whole number that is not above the size. -/
def floor (b : Binary) : Nat := b.mantissa * Nat.pow 2 b.exponent.toNat / Nat.pow 2 b.places

def isWhole (b : Binary) : Bool := b.mantissa % Nat.pow 2 b.places == 0

/-- The nearest whole number; a half goes up. -/
def roundHalfUp (b : Binary) : Nat :=
  (2 * (b.mantissa * Nat.pow 2 b.exponent.toNat) + Nat.pow 2 b.places) / (2 * Nat.pow 2 b.places)

/-- The nearest whole number; a half goes to the even neighbour. -/
def roundHalfEven (b : Binary) : Nat :=
  let n := b.mantissa * Nat.pow 2 b.exponent.toNat
  let d := Nat.pow 2 b.places
  let down := n / d
  let rest := 2 * (n % d)
  if d < rest || (rest == d && down % 2 == 1) then down + 1 else down

end Binary

end FormBuilder.Decimal
