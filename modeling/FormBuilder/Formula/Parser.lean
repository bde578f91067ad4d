/-
From tokens to expressions. The grammar is

  expression := term (("+" | "-") term)*
  term       := unary (("*" | "/") unary)*
  unary      := ("+" | "-") unary | primary
  primary    := number | reference | "(" expression ")"

and the parser is a machine over the tokens: for every open parenthesis it keeps the operators that
wait for their right operand. Parentheses and signs may be nested at most `depthLimit` deep around
a token, and no expression may be taller than `depthLimit`.
-/
import FormBuilder.Formula.Expr

namespace FormBuilder.Formula

/-- The signs in front of an operand. -/
inductive Sign where
  | plus | minus
  deriving DecidableEq, Repr

/-- The operators of the two levels of precedence. -/
inductive SumOp where
  | sum | subtract
  deriving DecidableEq, Repr

inductive ProductOp where
  | multiply | divide
  deriving DecidableEq, Repr

/-- An expression with its height. -/
structure Parsed where
  expr : Expr
  height : Nat

/-- What waits for an operand inside one pair of parentheses. -/
structure Pending where
  /-- A left operand and the operator that waits for a term. -/
  sum : Option (Parsed × SumOp)
  /-- A left operand and the operator that waits for a factor. -/
  product : Option (Parsed × ProductOp)
  /-- The signs of the next operand, the innermost first. -/
  signs : List Sign

def Pending.none : Pending := ⟨.none, .none, []⟩

/-- What has been read, with the open parentheses around it, the innermost first. -/
inductive State where
  /-- An operand has to come. -/
  | operand (here : Pending) (outer : List Pending)
  /-- A factor is complete; an operator, a closing parenthesis or the end may come. -/
  | operator (sum : Option (Parsed × SumOp)) (factor : Parsed) (outer : List Pending)

/-! ## Building -/

def Parsed.grow (height : Nat) : Except Error Nat :=
  if depthLimit ≤ height then .error .tooDeep else .ok (height + 1)

def SumOp.build : SumOp → Expr → Expr → Expr
  | .sum => .sum
  | .subtract => .subtract

def ProductOp.build : ProductOp → Expr → Expr → Expr
  | .multiply => .multiply
  | .divide => .divide

def Parsed.join (build : Expr → Expr → Expr) (l r : Parsed) : Except Error Parsed := do
  return ⟨build l.expr r.expr, ← Parsed.grow (max l.height r.height)⟩

/-- Puts the signs in front of an operand; a plus leaves no trace. -/
def Parsed.signed : List Sign → Parsed → Except Error Parsed
  | [], p => .ok p
  | .plus :: signs, p => signed signs p
  | .minus :: signs, p => do signed signs ⟨.negate p.expr, ← Parsed.grow p.height⟩

/-- Completes the operator that waits for a term. -/
def Parsed.closeSum (sum : Option (Parsed × SumOp)) (term : Parsed) : Except Error Parsed :=
  match sum with
  | none => .ok term
  | some (l, op) => Parsed.join op.build l term

/-- An operand is complete: its signs and the operator that waits for a factor take it. -/
def Pending.take (here : Pending) (outer : List Pending) (p : Parsed) : Except Error State := do
  let factor ← Parsed.signed here.signs p
  match here.product with
  | .none => return .operator here.sum factor outer
  | some (l, op) => return .operator here.sum (← Parsed.join op.build l factor) outer

/-! ## The machine -/

/-- How many parentheses and signs stand around the next token. -/
def nesting (here : Pending) (outer : List Pending) : Nat :=
  here.signs.length + outer.foldr (fun p n => p.signs.length + 1 + n) 0

def unexpected (t : Placed) : Error := .unexpectedToken t.token.text t.position

/-- A sign or an opening parenthesis nests what follows one level deeper. -/
def nested (here : Pending) (outer : List Pending) (next : State) : Except Error State :=
  if depthLimit ≤ nesting here outer then .error .tooDeep else .ok next

def stepOperand (here : Pending) (outer : List Pending) (t : Placed) : Except Error State :=
  match t.token with
  | .number x => here.take outer ⟨.number x, 1⟩
  | .field id => here.take outer ⟨.field id, 1⟩
  | .minus => nested here outer (.operand ⟨here.sum, here.product, .minus :: here.signs⟩ outer)
  | .plus => nested here outer (.operand ⟨here.sum, here.product, .plus :: here.signs⟩ outer)
  | .leftParen => nested here outer (.operand .none (here :: outer))
  | .star | .slash | .rightParen => .error (unexpected t)

def stepOperator (sum : Option (Parsed × SumOp)) (factor : Parsed) (outer : List Pending)
    (t : Placed) : Except Error State :=
  match t.token with
  | .star => .ok (.operand ⟨sum, some (factor, .multiply), []⟩ outer)
  | .slash => .ok (.operand ⟨sum, some (factor, .divide), []⟩ outer)
  | .plus => do return .operand ⟨some (← Parsed.closeSum sum factor, .sum), .none, []⟩ outer
  | .minus => do return .operand ⟨some (← Parsed.closeSum sum factor, .subtract), .none, []⟩ outer
  | .rightParen => do
    let p ← Parsed.closeSum sum factor
    match outer with
    | [] => .error (unexpected t)
    | here :: outer => here.take outer p
  | .number _ | .field _ | .leftParen => do
    let _ ← Parsed.closeSum sum factor
    .error (unexpected t)

def step : State → Placed → Except Error State
  | .operand here outer, t => stepOperand here outer t
  | .operator sum factor outer, t => stepOperator sum factor outer t

/-- The expression of the tokens read, when they end here. -/
def finish : State → Except Error Expr
  | .operand _ _ => .error (.unexpectedEnd .operand)
  | .operator sum factor outer => do
    let p ← Parsed.closeSum sum factor
    match outer with
    | [] => return p.expr
    | _ :: _ => .error (.unexpectedEnd .rightParen)

/-- Parses tokens as one expression. -/
def parseTokens (tokens : List Placed) : Except Error Expr :=
  if tokens.isEmpty then .error .empty
  else do finish (← tokens.foldlM step (.operand .none []))

/-- Parses the text of a formula. -/
def parse (source : String) : Except Error Expr := do parseTokens (← tokenize source)

end FormBuilder.Formula
