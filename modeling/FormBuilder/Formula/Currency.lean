/-
Amounts of money: dollars in groups of three digits, and two digits of cents.
-/
import FormBuilder.Value.Number

namespace FormBuilder.Formula

/-- From here on a double carries no cents. -/
def exactCentsLimit : Nat := Nat.pow 10 15

/-- Digits in groups of three from the right, with commas between the groups. -/
def grouped (digits : List Char) : List Char :=
  let head := digits.length % 3
  let rest := groupsOf (digits.drop head)
  if head = 0 then rest.drop 1 else digits.take head ++ rest
where
  /-- A comma before every three digits. -/
  groupsOf : List Char → List Char
    | a :: b :: c :: cs => ',' :: a :: b :: c :: groupsOf cs
    | cs => cs

def twoDigits (n : Nat) : List Char :=
  if n < 10 then '0' :: Decimal.digitChars n else Decimal.digitChars n

/-- Whole dollars and cents of an amount: rounded to cents below the limit, a half away from zero,
and to whole dollars above, a half to the even neighbour. -/
def dollarsAndCents (amount : Float) : Nat × Nat :=
  let size := Decimal.magnitude amount
  if size < Float.ofNat exactCentsLimit then
    let cents := (Decimal.Binary.ofFloat (size * 100.0)).roundHalfUp
    (cents / 100, cents % 100)
  else ((Decimal.Binary.ofFloat size).roundHalfEven, 0)

/-- An amount in dollars. What is no finite number is shown as a number. -/
def formatCurrency (amount : Float) : String :=
  if !Decimal.isFinite amount then formatNumber amount
  else
    let (dollars, cents) := dollarsAndCents amount
    let sign := if amount < 0.0 then ['-'] else []
    String.ofList (sign ++ '$' :: (grouped (Decimal.digitChars dollars) ++ '.' :: twoDigits cents))

end FormBuilder.Formula
