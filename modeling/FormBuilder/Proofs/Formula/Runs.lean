/-
What the parser's machine does over the tokens of a phrase, by induction on the derivation: it comes
to the state that the phrase's expression completes, or stops because the phrase exceeds a bound.
-/
import FormBuilder.Proofs.Formula.Grammar

namespace FormBuilder.Formula

/-! ## Building within the bounds -/

/-- An expression with its own height. -/
def Parsed.of (e : Expr) : Parsed := ⟨e, e.height⟩

/-- An expression with its own height, when that is within the limit. -/
def Parsed.bounded (e : Expr) : Except Error Parsed :=
  if e.height ≤ depthLimit then .ok (.of e) else .error .tooDeep

theorem Parsed.grow_eq (n : Nat) :
    Parsed.grow n = if n + 1 ≤ depthLimit then .ok (n + 1) else .error .tooDeep := by
  unfold grow
  by_cases h : depthLimit ≤ n
  · rw [if_pos h, if_neg (by omega)]
  · rw [if_neg h, if_pos (by omega)]

theorem Parsed.join_of {build : Expr → Expr → Expr} {l r : Expr}
    (h : (build l r).height = max l.height r.height + 1) :
    Parsed.join build (.of l) (.of r) = bounded (build l r) := by
  unfold join bounded of
  rw [grow_eq, h]
  by_cases hle : max l.height r.height + 1 ≤ depthLimit
  · rw [if_pos hle, if_pos hle]
    rfl
  · rw [if_neg hle, if_neg hle]
    rfl

theorem Parsed.closeSum_some (op : SumOp) (l r : Expr) :
    closeSum (some (.of l, op)) (.of r) = bounded (op.build l r) :=
  join_of (op.height_build l r)

/-- A sign takes its operand before the signs in front of it do. -/
theorem Pending.take_sign (here : Pending) (outer : List Pending) (s : Sign) {e : Expr}
    (h : e.height ≤ depthLimit) :
    take { here with signs := s :: here.signs } outer (.of e)
      = if (s.apply e).height ≤ depthLimit then here.take outer (.of (s.apply e))
        else .error .tooDeep := by
  cases s with
  | plus => rw [if_pos (show (Sign.plus.apply e).height ≤ depthLimit from h)]; rfl
  | minus =>
    simp only [take, Parsed.signed, Parsed.of, Parsed.grow_eq, Sign.apply, Expr.height]
    by_cases hle : e.height + 1 ≤ depthLimit
    · simp only [if_pos hle]
      rfl
    · simp only [if_neg hle]
      rfl

/-! ## Running over a phrase -/

def run (s : State) (ts : List Placed) : Except Error State := ts.foldlM step s

theorem run_cons (s : State) (t : Placed) (ts : List Placed) :
    run s (t :: ts) = (step s t).bind fun s' => run s' ts := List.foldlM_cons

theorem run_append (s : State) (ts us : List Placed) :
    run s (ts ++ us) = (run s ts).bind fun s' => run s' us := List.foldlM_append

/-- Completes the innermost expression of a state in which an operator may come. -/
def State.close : State → Except Error (Parsed × List Pending)
  | .operand _ _ => .error (.unexpectedEnd .operand)
  | .operator sum factor outer => (Parsed.closeSum sum factor).bind fun p => .ok (p, outer)

/-- What follows when a phrase at a nesting of `n` is complete: nothing, when it exceeds a bound. -/
def within {α : Type} (n d : Nat) (e : Expr) (next : Except Error α) : Except Error α :=
  if n + d ≤ depthLimit ∧ e.height ≤ depthLimit then next else .error .tooDeep

theorem within_of {α : Type} {n d : Nat} {e : Expr} (hn : n + d ≤ depthLimit)
    (he : e.height ≤ depthLimit) (next : Except Error α) : within n d e next = next :=
  if_pos ⟨hn, he⟩

theorem within_of_not {α : Type} {n d : Nat} {e : Expr}
    (h : ¬ (n + d ≤ depthLimit ∧ e.height ≤ depthLimit)) (next : Except Error α) :
    within n d e next = .error .tooDeep :=
  if_neg h

/-- Within the bound on nesting only the height decides. -/
theorem within_of_nesting {α : Type} {n d : Nat} {e : Expr} (hn : n + d ≤ depthLimit)
    (next : Except Error α) :
    within n d e next = if e.height ≤ depthLimit then next else .error .tooDeep := by
  unfold within
  simp only [hn, true_and]

/-- What the machine makes of the tokens of a phrase, from a state that keeps the bound on nesting.
A unary phrase is taken by the signs and the factor that wait for it, a term waits behind a sum,
and an expression is what closing gives. -/
def Runs : Phrase → List Placed → Expr → Nat → Prop
  | .primary, ts, e, d | .unary, ts, e, d => ∀ here outer, nesting here outer ≤ depthLimit →
    run (.operand here outer) ts = within (nesting here outer) d e (here.take outer (.of e))
  | .term, ts, e, d => ∀ sum outer, nesting .none outer ≤ depthLimit →
    run (.operand ⟨sum, .none, []⟩ outer) ts
      = within (nesting .none outer) d e (.ok (.operator sum (.of e) outer))
  | .expression, ts, e, d => ∀ outer, nesting .none outer ≤ depthLimit →
    (run (.operand .none outer) ts).bind State.close
      = within (nesting .none outer) d e (.ok (.of e, outer))

/-! ## One token -/

theorem step_sign {t : Placed} {s : Sign} (ht : t.token = s.token) (here : Pending)
    (outer : List Pending) :
    step (.operand here outer) t
      = nested here outer (.operand { here with signs := s :: here.signs } outer) := by
  cases s <;> simp only [step, stepOperand, ht, Sign.token]

theorem step_leftParen {t : Placed} (ht : t.token = .leftParen) (here : Pending)
    (outer : List Pending) :
    step (.operand here outer) t = nested here outer (.operand .none (here :: outer)) := by
  simp only [step, stepOperand, ht]

theorem step_product {t : Placed} {op : ProductOp} (ht : t.token = op.token)
    (sum : Option (Parsed × SumOp)) (factor : Parsed) (outer : List Pending) :
    step (.operator sum factor outer) t = .ok (.operand ⟨sum, some (factor, op), []⟩ outer) := by
  cases op <;> simp only [step, stepOperator, ht, ProductOp.token]

theorem step_sum {t : Placed} {op : SumOp} (ht : t.token = op.token)
    (sum : Option (Parsed × SumOp)) (factor : Parsed) (outer : List Pending) :
    step (.operator sum factor outer) t
      = (State.close (.operator sum factor outer)).bind fun p =>
          .ok (.operand ⟨some (p.1, op), .none, []⟩ p.2) := by
  unfold State.close
  cases op <;> simp only [step, stepOperator, ht, SumOp.token] <;>
    cases Parsed.closeSum sum factor <;> rfl

/-- The end of the innermost parentheses. -/
def State.leave (t : Placed) : Parsed × List Pending → Except Error State
  | (_, []) => .error (unexpected t)
  | (p, here :: outer) => here.take outer p

theorem step_rightParen {t : Placed} (ht : t.token = .rightParen)
    (sum : Option (Parsed × SumOp)) (factor : Parsed) (outer : List Pending) :
    step (.operator sum factor outer) t
      = (State.close (.operator sum factor outer)).bind (State.leave t) := by
  unfold State.close
  simp only [step, stepOperator, ht]
  cases Parsed.closeSum sum factor with
  | error => rfl
  | ok p => cases outer <;> rfl

/-- A token that closes the innermost expression goes on from what closing gives. -/
theorem bind_step_of_close {t : Placed} {k : Parsed × List Pending → Except Error State}
    (hk : ∀ sum factor outer,
      step (.operator sum factor outer) t = (State.close (.operator sum factor outer)).bind k)
    {s : Except Error State} {r : Except Error (Parsed × List Pending)} (h : s.bind State.close = r)
    (hr : r ≠ .error (.unexpectedEnd .operand)) :
    (s.bind fun s' => step s' t) = r.bind k := by
  subst h
  cases s with
  | error => rfl
  | ok s =>
    cases s with
    | operand => exact absurd rfl hr
    | operator sum factor outer => exact hk sum factor outer

theorem within_ne_unexpectedEnd {n d : Nat} {e : Expr} {r : Parsed × List Pending} :
    within n d e (.ok r) ≠ .error (.unexpectedEnd .operand) := by
  unfold within
  split <;> simp

/-! ## Completeness -/

theorem runs_leaf {t : Placed} {e : Expr} (he : e.height = 1)
    (ht : ∀ here outer, step (.operand here outer) t = here.take outer (.of e)) :
    Runs .primary [t] e 0 := by
  intro here outer hn
  have hone : e.height ≤ depthLimit := by rw [he]; decide
  rw [run_cons, ht, within_of (n := nesting here outer) hn hone]
  cases here.take outer (.of e) <;> rfl

theorem runs_sign {t : Placed} {ts : List Placed} {s : Sign} {e : Expr} {d : Nat}
    (ht : t.token = s.token) (h : Runs .unary ts e d) :
    Runs .unary (t :: ts) (s.apply e) (d + 1) := by
  intro here outer _
  have happly : e.height ≤ (s.apply e).height := by
    cases s <;> simp [Sign.apply, Expr.height]
  have hnest : nesting { here with signs := s :: here.signs } outer = nesting here outer + 1 := by
    unfold nesting
    simp only [List.length_cons]
    omega
  rw [run_cons, step_sign ht, nested]
  by_cases hn : depthLimit ≤ nesting here outer
  · rw [if_pos hn, within_of_not (by omega)]
    rfl
  · rw [if_neg hn]
    show run _ ts = _
    rw [h _ _ (by omega), hnest]
    by_cases hb : nesting here outer + 1 + d ≤ depthLimit ∧ e.height ≤ depthLimit
    · rw [within_of hb.1 hb.2, here.take_sign outer s hb.2, within_of_nesting (by omega)]
    · rw [within_of_not hb, within_of_not (by omega)]

theorem runs_parens {l r : Placed} {ts : List Placed} {e : Expr} {d : Nat}
    (hl : l.token = .leftParen) (hr : r.token = .rightParen) (h : Runs .expression ts e d) :
    Runs .primary (l :: (ts ++ [r])) e (d + 1) := by
  intro here outer _
  have hnest : nesting .none (here :: outer) = nesting here outer + 1 := by
    simp only [nesting, Pending.none, List.length_nil, List.foldr_cons]
    omega
  rw [run_cons, step_leftParen hl, nested]
  by_cases hn : depthLimit ≤ nesting here outer
  · rw [if_pos hn, within_of_not (by omega)]
    rfl
  · rw [if_neg hn]
    show run _ (ts ++ [r]) = _
    -- the phrase inside is run one level deeper, and its last state closes at the parenthesis
    have hclose := h (here :: outer) (by omega)
    rw [hnest] at hclose
    have hone : ∀ s, run s [r] = step s r := fun s => by
      rw [run_cons]
      cases step s r <;> rfl
    simp only [run_append, hone]
    rw [bind_step_of_close (step_rightParen hr) hclose within_ne_unexpectedEnd]
    by_cases hb : nesting here outer + 1 + d ≤ depthLimit ∧ e.height ≤ depthLimit
    · rw [within_of hb.1 hb.2, within_of (by omega) hb.2]
      rfl
    · rw [within_of_not hb, within_of_not (by omega)]
      rfl

theorem runs_unary {ts : List Placed} {e : Expr} {d : Nat} (h : Runs .unary ts e d) :
    Runs .term ts e d :=
  fun sum outer hn => h ⟨sum, .none, []⟩ outer hn

theorem runs_term {ts : List Placed} {e : Expr} {d : Nat} (h : Runs .term ts e d) :
    Runs .expression ts e d := by
  intro outer hn
  show (run (.operand ⟨none, .none, []⟩ outer) ts).bind State.close = _
  rw [h none outer hn]
  by_cases hb : nesting .none outer + d ≤ depthLimit ∧ e.height ≤ depthLimit
  · rw [within_of hb.1 hb.2, within_of hb.1 hb.2]
    rfl
  · rw [within_of_not hb, within_of_not hb]
    rfl

theorem runs_product {t : Placed} {ts us : List Placed} {op : ProductOp} {l r : Expr} {d d' : Nat}
    (ht : t.token = op.token) (hl : Runs .term ts l d) (hr : Runs .unary us r d') :
    Runs .term (ts ++ t :: us) (op.build l r) (max d d') := by
  intro sum outer hn
  have hheight := op.height_build l r
  -- the run stops where the left operand is too deep, or the right one, or the two joined
  rw [run_append, hl sum outer hn]
  by_cases hb : nesting .none outer + d ≤ depthLimit ∧ l.height ≤ depthLimit
  · rw [within_of hb.1 hb.2]
    show run _ (t :: us) = _
    rw [run_cons, step_product ht]
    show run _ us = _
    rw [hr ⟨sum, some (.of l, op), []⟩ outer hn]
    show within (nesting .none outer) d' r _ = _
    by_cases hb' : nesting .none outer + d' ≤ depthLimit ∧ r.height ≤ depthLimit
    · rw [within_of hb'.1 hb'.2]
      show (Parsed.join op.build (.of l) (.of r)).bind _ = _
      rw [Parsed.join_of hheight, Parsed.bounded, within_of_nesting (by omega)]
      split <;> rfl
    · rw [within_of_not hb', within_of_not (by omega)]
  · rw [within_of_not hb, within_of_not (by omega)]
    rfl

theorem runs_sum {t : Placed} {ts us : List Placed} {op : SumOp} {l r : Expr} {d d' : Nat}
    (ht : t.token = op.token) (hl : Runs .expression ts l d) (hr : Runs .term us r d') :
    Runs .expression (ts ++ t :: us) (op.build l r) (max d d') := by
  intro outer hn
  have hheight := op.height_build l r
  have hstep := bind_step_of_close (step_sum ht) (hl outer hn) within_ne_unexpectedEnd
  have hrun : run (.operand .none outer) (ts ++ t :: us)
      = ((run (.operand .none outer) ts).bind fun s => step s t).bind fun s => run s us := by
    simp only [run_append, run_cons]
    cases run (.operand .none outer) ts <;> rfl
  rw [hrun, hstep]
  by_cases hb : nesting .none outer + d ≤ depthLimit ∧ l.height ≤ depthLimit
  · rw [within_of hb.1 hb.2]
    show (run (.operand ⟨some (.of l, op), .none, []⟩ outer) us).bind _ = _
    rw [hr _ outer hn]
    by_cases hb' : nesting .none outer + d' ≤ depthLimit ∧ r.height ≤ depthLimit
    · rw [within_of hb'.1 hb'.2]
      show (Parsed.closeSum (some (.of l, op)) (.of r)).bind _ = _
      rw [Parsed.closeSum_some, Parsed.bounded, within_of_nesting (by omega)]
      split <;> rfl
    · rw [within_of_not hb', within_of_not (by omega)]
      rfl
  · rw [within_of_not hb, within_of_not (by omega)]
    rfl

theorem runs_of_derives {p : Phrase} {ws : List Token} {e : Expr} {d : Nat}
    (h : Derives p ws e d) : ∀ ts : List Placed, ts.map Placed.token = ws → Runs p ts e d := by
  induction h with
  | number x =>
    intro ts hts
    obtain ⟨t, rfl, ht⟩ := List.map_eq_singleton_iff.1 hts
    exact runs_leaf rfl fun here outer => by simp only [step, stepOperand, ht]; rfl
  | field id =>
    intro ts hts
    obtain ⟨t, rfl, ht⟩ := List.map_eq_singleton_iff.1 hts
    exact runs_leaf rfl fun here outer => by simp only [step, stepOperand, ht]; rfl
  | parens _ ih =>
    intro ts hts
    obtain ⟨l, rest, rfl, hl, hrest⟩ := List.map_eq_cons_iff.1 hts
    obtain ⟨us, rs, rfl, hus, hrs⟩ := List.map_eq_append_iff.1 hrest
    obtain ⟨r, rfl, hr⟩ := List.map_eq_singleton_iff.1 hrs
    exact runs_parens hl hr (ih us hus)
  | sign s _ ih =>
    intro ts hts
    obtain ⟨t, us, rfl, ht, hus⟩ := List.map_eq_cons_iff.1 hts
    exact runs_sign ht (ih us hus)
  | primary _ ih => exact ih
  | unary _ ih => exact fun ts hts => runs_unary (ih ts hts)
  | product op _ _ ihl ihr =>
    intro ts hts
    obtain ⟨ls, us, rfl, hls, hus⟩ := List.map_eq_append_iff.1 hts
    obtain ⟨t, rs, rfl, ht, hrs⟩ := List.map_eq_cons_iff.1 hus
    exact runs_product ht (ihl ls hls) (ihr rs hrs)
  | term _ ih => exact fun ts hts => runs_term (ih ts hts)
  | sum op _ _ ihl ihr =>
    intro ts hts
    obtain ⟨ls, us, rfl, hls, hus⟩ := List.map_eq_append_iff.1 hts
    obtain ⟨t, rs, rfl, ht, hrs⟩ := List.map_eq_cons_iff.1 hus
    exact runs_sum ht (ihl ls hls) (ihr rs hrs)

end FormBuilder.Formula
