/-
What the parser's machine has read in a state: the phrases of the operands that wait, with their
operators, signs and parentheses between them. Every step reads the token it is given.
-/
import FormBuilder.Proofs.Except
import FormBuilder.Proofs.Formula.Grammar

namespace FormBuilder.Formula

/-! ## The tokens behind a state -/

/-- The tokens of a left operand and the operator that waits for a term. -/
inductive SumReads : Option (Parsed × SumOp) → List Token → Prop where
  | none : SumReads none []
  | some {p ts d} (op : SumOp) (h : Derives .expression ts p.expr d) :
    SumReads (some (p, op)) (ts ++ [op.token])

/-- The tokens of a left operand and the operator that waits for a factor. -/
inductive ProductReads : Option (Parsed × ProductOp) → List Token → Prop where
  | none : ProductReads none []
  | some {p ts d} (op : ProductOp) (h : Derives .term ts p.expr d) :
    ProductReads (some (p, op)) (ts ++ [op.token])

def signTokens (signs : List Sign) : List Token := signs.reverse.map Sign.token

theorem signTokens_cons (s : Sign) (signs : List Sign) :
    signTokens (s :: signs) = signTokens signs ++ [s.token] := by
  simp [signTokens]

inductive Pending.Reads : Pending → List Token → Prop where
  | mk {sum product as bs} (signs : List Sign) (hs : SumReads sum as) (hp : ProductReads product bs) :
    Reads ⟨sum, product, signs⟩ (as ++ bs ++ signTokens signs)

/-- The tokens before the innermost open parenthesis, and the parenthesis. -/
inductive OuterReads : List Pending → List Token → Prop where
  | nil : OuterReads [] []
  | cons {here outer ts us} (ho : OuterReads outer ts) (h : Pending.Reads here us) :
    OuterReads (here :: outer) (ts ++ us ++ [.leftParen])

inductive State.Reads : State → List Token → Prop where
  | operand {here outer ts us} (ho : OuterReads outer ts) (h : Pending.Reads here us) :
    Reads (.operand here outer) (ts ++ us)
  | operator {sum factor outer ts us vs d} (ho : OuterReads outer ts) (hs : SumReads sum us)
    (hf : Derives .term vs factor.expr d) : Reads (.operator sum factor outer) (ts ++ us ++ vs)

theorem Pending.reads_none : Pending.none.Reads [] := .mk [] .none .none

/-! ## Completing an operand -/

theorem Parsed.expr_of_join {build : Expr → Expr → Expr} {l r p : Parsed}
    (h : Parsed.join build l r = .ok p) : p.expr = build l.expr r.expr := by
  obtain ⟨n, -, h⟩ := ok_of_bind h
  cases h
  rfl

theorem Parsed.derives_signed : ∀ (signs : List Sign) {p q : Parsed} {ts : List Token} {d : Nat},
    Parsed.signed signs p = .ok q → Derives .unary ts p.expr d →
    ∃ d', Derives .unary (signTokens signs ++ ts) q.expr d'
  | [], _, _, _, d, h, hd => by
    cases h
    exact ⟨d, hd⟩
  | .plus :: signs, p, q, ts, d, h, hd => by
    obtain ⟨d', hd'⟩ := derives_signed signs h (hd.sign .plus)
    exact ⟨d', by simpa [signTokens] using hd'⟩
  | .minus :: signs, p, q, ts, d, h, hd => by
    obtain ⟨n, -, h⟩ := ok_of_bind h
    obtain ⟨d', hd'⟩ := derives_signed signs (p := ⟨.negate p.expr, n⟩) h (hd.sign .minus)
    exact ⟨d', by simpa [signTokens] using hd'⟩

theorem Parsed.derives_closeSum {sum : Option (Parsed × SumOp)} {factor p : Parsed}
    {ts us : List Token} {d : Nat} (h : Parsed.closeSum sum factor = .ok p) (hs : SumReads sum ts)
    (hf : Derives .term us factor.expr d) : ∃ d', Derives .expression (ts ++ us) p.expr d' := by
  cases hs with
  | none =>
    cases h
    exact ⟨d, hf.term⟩
  | @some l ts d₁ op hl =>
    rw [expr_of_join (show Parsed.join op.build l factor = .ok p from h), List.append_assoc]
    exact ⟨max d₁ d, hl.sum op hf⟩

theorem Pending.reads_take {here : Pending} {outer : List Pending} {p : Parsed} {s : State}
    {ts us vs : List Token} {d : Nat} (h : here.take outer p = .ok s) (ho : OuterReads outer ts)
    (hh : here.Reads us) (hp : Derives .primary vs p.expr d) : s.Reads (ts ++ us ++ vs) := by
  cases hh with
  | @mk sum product as bs signs hs hpr =>
    obtain ⟨factor, hfactor, h⟩ := ok_of_bind h
    obtain ⟨d', hd'⟩ := Parsed.derives_signed signs hfactor hp.primary
    cases hpr with
    | none =>
      cases h
      simpa using State.Reads.operator ho hs hd'.unary
    | @some l bs _ op hl =>
      obtain ⟨q, hq, h⟩ := ok_of_bind h
      cases h
      have hterm := hl.product op hd'
      rw [← Parsed.expr_of_join hq] at hterm
      simpa using State.Reads.operator ho hs hterm

/-! ## Steps -/

theorem ok_of_nested {here : Pending} {outer : List Pending} {next s : State}
    (h : nested here outer next = .ok s) : s = next := by
  unfold nested at h
  split at h
  · cases h
  · cases h
    rfl

theorem Pending.Reads.sign {here : Pending} {ts : List Token} (h : here.Reads ts) (s : Sign) :
    Reads ⟨here.sum, here.product, s :: here.signs⟩ (ts ++ [s.token]) := by
  cases h with
  | mk signs hs hp =>
    rw [List.append_assoc, ← signTokens_cons]
    exact .mk (s :: signs) hs hp

theorem State.reads_stepOperand {here : Pending} {outer : List Pending} {t : Placed} {s : State}
    {ts us : List Token} (h : stepOperand here outer t = .ok s) (ho : OuterReads outer ts)
    (hh : here.Reads us) : s.Reads (ts ++ us ++ [t.token]) := by
  unfold stepOperand at h
  split at h
  next x ht =>
    rw [ht]
    exact Pending.reads_take h ho hh (.number x)
  next id ht =>
    rw [ht]
    exact Pending.reads_take h ho hh (.field id)
  next ht =>
    rw [ht, ok_of_nested h, List.append_assoc]
    exact .operand ho (hh.sign .minus)
  next ht =>
    rw [ht, ok_of_nested h, List.append_assoc]
    exact .operand ho (hh.sign .plus)
  next ht =>
    have hreads := State.Reads.operand (.cons ho hh) Pending.reads_none
    rw [ht, ok_of_nested h]
    simpa using hreads
  all_goals cases h

theorem State.reads_stepOperator {sum : Option (Parsed × SumOp)} {factor : Parsed}
    {outer : List Pending} {t : Placed} {s : State} {ts us vs : List Token} {d : Nat}
    (h : stepOperator sum factor outer t = .ok s) (ho : OuterReads outer ts) (hs : SumReads sum us)
    (hf : Derives .term vs factor.expr d) : s.Reads (ts ++ us ++ vs ++ [t.token]) := by
  -- a factor that waits for the next one reads its own tokens and the operator
  have hproduct : ∀ op, State.Reads (.operand ⟨sum, some (factor, op), []⟩ outer)
      (ts ++ us ++ vs ++ [op.token]) := fun op => by
    have hreads := State.Reads.operand ho (.mk [] hs (.some op hf))
    simpa [signTokens] using hreads
  have hsum : ∀ op p, Parsed.closeSum sum factor = .ok p →
      State.Reads (.operand ⟨some (p, op), none, []⟩ outer) (ts ++ us ++ vs ++ [op.token]) := by
    intro op p hp
    obtain ⟨d', hd'⟩ := Parsed.derives_closeSum hp hs hf
    have hreads := State.Reads.operand ho (.mk [] (.some op hd') .none)
    simpa [signTokens] using hreads
  unfold stepOperator at h
  split at h
  next ht =>
    cases h
    rw [ht]
    exact hproduct .multiply
  next ht =>
    cases h
    rw [ht]
    exact hproduct .divide
  next ht =>
    obtain ⟨p, hp, h⟩ := ok_of_bind h
    cases h
    rw [ht]
    exact hsum .sum p hp
  next ht =>
    obtain ⟨p, hp, h⟩ := ok_of_bind h
    cases h
    rw [ht]
    exact hsum .subtract p hp
  next ht =>
    obtain ⟨p, hp, h⟩ := ok_of_bind h
    obtain ⟨d', hd'⟩ := Parsed.derives_closeSum hp hs hf
    cases ho with
    | nil => cases h
    | cons ho hh =>
      have hreads := Pending.reads_take h ho hh (.parens hd')
      rw [ht]
      simpa using hreads
  all_goals
    obtain ⟨_, _, h⟩ := ok_of_bind h
    cases h

/-- A step reads its token. -/
theorem State.Reads.step {s s' : State} {ts : List Token} {t : Placed} (hs : s.Reads ts)
    (h : step s t = .ok s') : s'.Reads (ts ++ [t.token]) := by
  cases hs with
  | operand ho hh => exact reads_stepOperand h ho hh
  | operator ho hsum hf => exact reads_stepOperator h ho hsum hf

/-- A run reads its tokens. -/
theorem State.reads_foldlM {ts : List Placed} {s : State}
    (h : ts.foldlM Formula.step (.operand .none []) = .ok s) : s.Reads (ts.map Placed.token) := by
  have hstart : State.Reads (.operand .none []) [] := .operand .nil Pending.reads_none
  exact foldlM_prefix (fun done s => s.Reads (done.map Placed.token))
    (fun done b t b' hb hstep => by simpa using hb.step hstep) ts [] _ s hstart h

/-- Where the machine ends with an expression, it has read a phrase with that expression. -/
theorem State.Reads.finish {s : State} {ts : List Token} {e : Expr} (hs : s.Reads ts)
    (h : finish s = .ok e) : ∃ d, Derives .expression ts e d := by
  cases hs with
  | operand => cases h
  | operator ho hsum hf =>
    obtain ⟨p, hp, h⟩ := ok_of_bind h
    cases ho with
    | nil =>
      cases h
      exact Parsed.derives_closeSum hp hsum hf
    | cons => cases h

end FormBuilder.Formula
