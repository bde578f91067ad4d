/-
Expressions over numbers and field references: height, references, equality and text.
-/
import FormBuilder.Formula.Token
import FormBuilder.Value.Number

namespace FormBuilder.Formula

inductive Expr where
  | sum (l r : Expr)
  | subtract (l r : Expr)
  | multiply (l r : Expr)
  | divide (l r : Expr)
  | negate (e : Expr)
  | number (x : Float)
  | field (id : String)

namespace Expr

/-- A leaf counts one, and every operator one more than the taller of its operands. -/
def height : Expr → Nat
  | .sum l r | .subtract l r | .multiply l r | .divide l r => max l.height r.height + 1
  | .negate e => e.height + 1
  | .number _ | .field _ => 1

/-- Equality of structure; numbers are compared as numbers. -/
def same : Expr → Expr → Bool
  | .sum l r, .sum l' r' | .subtract l r, .subtract l' r' | .multiply l r, .multiply l' r'
  | .divide l r, .divide l' r' => same l l' && same r r'
  | .negate e, .negate e' => same e e'
  | .number x, .number y => x == y
  | .field i, .field j => i == j
  | _, _ => false

/-! ## References -/

/-- The ids of all field references from left to right. -/
def fields : Expr → List String
  | .sum l r | .subtract l r | .multiply l r | .divide l r => l.fields ++ r.fields
  | .negate e => e.fields
  | .number _ => []
  | .field id => [id]

/-- The ids without repeats, in the order in which they first occur. -/
def firstOccurrences (seen : List String) : List String → List String
  | [] => []
  | id :: ids =>
    if seen.contains id then firstOccurrences seen ids
    else id :: firstOccurrences (id :: seen) ids

/-- The ids of the fields that the expression reads, in the order in which they first occur. -/
def references (e : Expr) : List String := firstOccurrences [] e.fields

/-! ## Text -/

/-- How tightly the outermost operator binds. -/
def precedence : Expr → Nat
  | .sum _ _ | .subtract _ _ => 1
  | .multiply _ _ | .divide _ _ => 2
  | .negate _ => 3
  | .number _ | .field _ => 4

def parenthesized (wrap : Bool) (s : String) : String := if wrap then "(" ++ s ++ ")" else s

/-- The text of an expression where an operator of precedence `outer` stands around it. The right
operand of a difference or quotient binds one level tighter. -/
def textIn (outer : Nat) (e : Expr) : String :=
  parenthesized (e.precedence < outer) <|
    match e with
    | .number x => formatNumber x
    | .field id => braced id
    | .negate v => "-" ++ textIn 3 v
    | .sum l r => textIn 1 l ++ " + " ++ textIn 1 r
    | .subtract l r => textIn 1 l ++ " - " ++ textIn 2 r
    | .multiply l r => textIn 2 l ++ " * " ++ textIn 2 r
    | .divide l r => textIn 2 l ++ " / " ++ textIn 3 r

/-- The expression as a formula, with no more parentheses than the precedences ask for. -/
def text (e : Expr) : String := textIn 0 e

/-- The expression with every operator in front of its operands and in parentheses of its own, so
that its structure shows. -/
def structureText : Expr → String
  | .sum l r => "(+ " ++ l.structureText ++ " " ++ r.structureText ++ ")"
  | .subtract l r => "(- " ++ l.structureText ++ " " ++ r.structureText ++ ")"
  | .multiply l r => "(* " ++ l.structureText ++ " " ++ r.structureText ++ ")"
  | .divide l r => "(/ " ++ l.structureText ++ " " ++ r.structureText ++ ")"
  | .negate e => "(neg " ++ e.structureText ++ ")"
  | .number x => Decimal.display x
  | .field id => braced id

end Expr

end FormBuilder.Formula
