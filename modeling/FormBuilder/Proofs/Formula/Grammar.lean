/-
The grammar of formulas, apart from the parser: which token lists are phrases of which rule, the
expression that a phrase stands for, and how deep parentheses and signs nest in it.
-/
import FormBuilder.Formula.Parser

namespace FormBuilder.Formula

/-! ## Operators -/

def Sign.token : Sign → Token
  | .plus => .plus
  | .minus => .minus

def SumOp.token : SumOp → Token
  | .sum => .plus
  | .subtract => .minus

def ProductOp.token : ProductOp → Token
  | .multiply => .star
  | .divide => .slash

/-- The operand behind a sign; a plus leaves no node. -/
def Sign.apply : Sign → Expr → Expr
  | .plus, e => e
  | .minus, e => .negate e

theorem SumOp.height_build (op : SumOp) (l r : Expr) :
    (op.build l r).height = max l.height r.height + 1 := by
  cases op <;> rfl

theorem ProductOp.height_build (op : ProductOp) (l r : Expr) :
    (op.build l r).height = max l.height r.height + 1 := by
  cases op <;> rfl

/-! ## Phrases -/

/-- The rules of the grammar. -/
inductive Phrase where
  | expression | term | unary | primary
  deriving DecidableEq, Repr

/-- `Derives p ts e d`: the rule `p` derives the tokens `ts` with the expression `e`, and the token
that stands in most parentheses and behind most signs stands in and behind `d` of them. A repetition
of the grammar is folded to the left, which is how its operators associate. -/
inductive Derives : Phrase → List Token → Expr → Nat → Prop where
  | number (x : Float) : Derives .primary [.number x] (.number x) 0
  | field (id : String) : Derives .primary [.field id] (.field id) 0
  | parens {ts e d} (h : Derives .expression ts e d) :
    Derives .primary (.leftParen :: (ts ++ [.rightParen])) e (d + 1)
  | sign {ts e d} (s : Sign) (h : Derives .unary ts e d) :
    Derives .unary (s.token :: ts) (s.apply e) (d + 1)
  | primary {ts e d} (h : Derives .primary ts e d) : Derives .unary ts e d
  | unary {ts e d} (h : Derives .unary ts e d) : Derives .term ts e d
  | product {ts us l r d d'} (op : ProductOp) (hl : Derives .term ts l d)
    (hr : Derives .unary us r d') :
    Derives .term (ts ++ op.token :: us) (op.build l r) (max d d')
  | term {ts e d} (h : Derives .term ts e d) : Derives .expression ts e d
  | sum {ts us l r d d'} (op : SumOp) (hl : Derives .expression ts l d)
    (hr : Derives .term us r d') :
    Derives .expression (ts ++ op.token :: us) (op.build l r) (max d d')

/-- No phrase is empty. -/
theorem Derives.ne_nil {p : Phrase} {ts : List Token} {e : Expr} {d : Nat} (h : Derives p ts e d) :
    ts ≠ [] := by
  induction h with
  | number | field | parens | sign => simp
  | primary _ ih | unary _ ih | term _ ih => exact ih
  | product | sum => simp

end FormBuilder.Formula
