/-
The fewest decimal digits that read back as the same double. A size stands for the interval of
reals that round to it; the digits are those of the coarsest decimal grid with a point in that
interval, the nearer of two such points, and the upper one of two equally near ones.
-/
import FormBuilder.Decimal.Binary

namespace FormBuilder.Decimal

/-- The decimal `digits · 10^exponent`. -/
structure Digits where
  digits : Nat
  exponent : Int
  deriving DecidableEq, Repr

/-! ## Exact comparison -/

/-- Compares `a · 10^i` with `n · 2^j`. -/
def compareScaled (a : Nat) (i : Int) (n : Nat) (j : Int) : Ordering :=
  compare (a * Nat.pow 10 i.toNat * Nat.pow 2 (-j).toNat)
    (n * Nat.pow 2 j.toNat * Nat.pow 10 (-i).toNat)

/-- The decimal lies among the reals that round to the size: between the midpoints to its two
neighbours, and on a midpoint when the mantissa is even. -/
def Binary.readsBack (b : Binary) (d : Digits) : Bool :=
  let low := if b.narrowBelow then 4 * b.mantissa - 1 else 4 * b.mantissa - 2
  let high := 4 * b.mantissa + 2
  let ends := b.mantissa % 2 == 0
  let below := compareScaled d.digits d.exponent low (b.exponent - 2)
  let above := compareScaled d.digits d.exponent high (b.exponent - 2)
  (below == .gt || (ends && below == .eq)) && (above == .lt || (ends && above == .eq))

/-! ## The search -/

/-- The least `k` with the size below `10^k`. The binary logarithm gives `k` up to a few steps. -/
def Binary.scale (b : Binary) : Int :=
  let guess := ((Nat.log2 b.mantissa : Int) + b.exponent) * 30103 / 100000 - 1
  match [guess, guess + 1, guess + 2, guess + 3].find? fun k =>
      compareScaled 1 k b.mantissa b.exponent == .gt with
  | some k => k
  | none => guess + 4

/-- The largest point of the grid `10^p` that is not above the size. -/
def Binary.pointBelow (b : Binary) (p : Int) : Nat :=
  b.mantissa * Nat.pow 2 b.exponent.toNat * Nat.pow 10 (-p).toNat
    / (Nat.pow 2 (-b.exponent).toNat * Nat.pow 10 p.toNat)

/-- The point of the grid `10^p` that reads back and lies nearest, if one reads back. -/
def Binary.pick (b : Binary) (p : Int) : Option Digits :=
  let down : Digits := ⟨b.pointBelow p, p⟩
  let up : Digits := ⟨b.pointBelow p + 1, p⟩
  match b.readsBack down, b.readsBack up with
  | true, true =>
    if compareScaled (2 * down.digits + 1) p (2 * b.mantissa) b.exponent == .gt then some down
    else some up
  | true, false => some down
  | false, true => some up
  | false, false => none

/-- Moves trailing zeros of the digits into the exponent. -/
def Digits.strip : (fuel : Nat) → Digits → Digits
  | 0, d => d
  | fuel + 1, d =>
    if d.digits ≠ 0 ∧ d.digits % 10 = 0 then strip fuel ⟨d.digits / 10, d.exponent + 1⟩ else d

/-- The exact decimal value of a size. -/
def Binary.exact (b : Binary) : Digits :=
  if 0 ≤ b.exponent then ⟨b.mantissa * Nat.pow 2 b.exponent.toNat, 0⟩
  else ⟨b.mantissa * Nat.pow 5 (-b.exponent).toNat, b.exponent⟩

/-- The digits of a size above zero. Seventeen digits always read back. -/
def Binary.shortest (b : Binary) : Digits :=
  let k := b.scale
  let found := (List.range 17).findSome? fun n => b.pick (k - (n + 1 : Nat))
  (found.getD b.exact).strip 20

end FormBuilder.Decimal
