/-
Where a formula stops being one. A token that the parser refuses is the first with which the tokens
before it cannot go on to any formula of the grammar, and where the tokens end too early, they can.

What has been read can always go on: an operand completes the operators that wait for it, and as many
closing parentheses as are open end the formula. What is refused cannot: the parser takes every formula
of the grammar or finds it too deep, and the tokens behind a refused one are never looked at.
-/
import FormBuilder.Proofs.Formula.Lexeme
import FormBuilder.Proofs.Formula.Parser

namespace FormBuilder.Formula

/-- The rule derives the tokens, with some expression and some nesting. -/
def IsPhrase (p : Phrase) (ts : List Token) : Prop := ∃ e d, Derives p ts e d

/-- The tokens can go on to a formula of the grammar. -/
def Viable (ts : List Token) : Prop := ∃ us, IsPhrase .expression (ts ++ us)

/-! ## What has been read can go on -/

section GoingOn

variable {ts us : List Token}

theorem IsPhrase.signed (signs : List Sign) (h : IsPhrase .unary ts) :
    IsPhrase .unary (signTokens signs ++ ts) := by
  induction signs generalizing ts with
  | nil => exact h
  | cons s signs ih =>
    obtain ⟨e, d, h⟩ := h
    have hsign : IsPhrase .unary (s.token :: ts) := ⟨_, _, h.sign s⟩
    simpa [signTokens_cons] using ih hsign

theorem ProductReads.isPhrase {product : Option (Parsed × ProductOp)} (hp : ProductReads product ts)
    (h : IsPhrase .unary us) : IsPhrase .term (ts ++ us) := by
  obtain ⟨e, d, h⟩ := h
  cases hp with
  | none => exact ⟨e, d, h.unary⟩
  | some op hl =>
    rw [List.append_assoc]
    exact ⟨_, _, hl.product op h⟩

theorem SumReads.isPhrase {sum : Option (Parsed × SumOp)} (hs : SumReads sum ts)
    (h : IsPhrase .term us) : IsPhrase .expression (ts ++ us) := by
  obtain ⟨e, d, h⟩ := h
  cases hs with
  | none => exact ⟨e, d, h.term⟩
  | some op hl =>
    rw [List.append_assoc]
    exact ⟨_, _, hl.sum op h⟩

/-- An operand completes what waits for it. -/
theorem Pending.Reads.isPhrase {here : Pending} (hh : here.Reads ts) (h : IsPhrase .primary us) :
    IsPhrase .expression (ts ++ us) := by
  obtain ⟨e, d, h⟩ := h
  cases hh with
  | mk signs hs hp =>
    have hunary := IsPhrase.signed signs ⟨e, d, h.primary⟩
    simpa using hs.isPhrase (hp.isPhrase hunary)

/-- A complete expression goes on with the closing parentheses of those that are open. -/
theorem OuterReads.viable {outer : List Pending} (ho : OuterReads outer ts)
    (h : IsPhrase .expression us) : Viable (ts ++ us) := by
  induction ho generalizing us with
  | nil => exact ⟨[], by simpa using h⟩
  | @cons here outer ts vs ho hh ih =>
    obtain ⟨e, d, h⟩ := h
    have hparens : IsPhrase .primary (.leftParen :: (us ++ [.rightParen])) := ⟨e, d + 1, h.parens⟩
    obtain ⟨ws, hws⟩ := ih (hh.isPhrase hparens)
    exact ⟨.rightParen :: ws, by simpa using hws⟩

theorem Viable.of_append (h : Viable (ts ++ us)) : Viable ts := by
  obtain ⟨vs, h⟩ := h
  exact ⟨us ++ vs, by rwa [← List.append_assoc]⟩

/-- In every state of the machine, what it has read can go on. -/
theorem State.Reads.viable {s : State} (hs : s.Reads ts) : Viable ts := by
  cases hs with
  | operand ho hh =>
    have hnumber : IsPhrase .primary [.number 0] := ⟨_, _, .number 0⟩
    have hviable := ho.viable (hh.isPhrase hnumber)
    rw [← List.append_assoc] at hviable
    exact hviable.of_append
  | operator ho hsum hf =>
    rw [List.append_assoc]
    exact ho.viable (hsum.isPhrase ⟨_, _, hf⟩)

end GoingOn

/-! ## The errors of a step -/

section Errors

variable {e : Error}

theorem Parsed.error_of_grow {n : Nat} (h : grow n = .error e) : e = .tooDeep := by
  unfold grow at h
  split at h <;> cases h
  rfl

theorem Parsed.error_of_join {build : Expr → Expr → Expr} {l r : Parsed}
    (h : join build l r = .error e) : e = .tooDeep := by
  rcases error_of_bind h with h | ⟨_, _, h⟩
  · exact error_of_grow h
  · cases h

theorem Parsed.error_of_closeSum {sum : Option (Parsed × SumOp)} {factor : Parsed}
    (h : closeSum sum factor = .error e) : e = .tooDeep := by
  unfold closeSum at h
  split at h
  · cases h
  · exact error_of_join h

theorem Parsed.error_of_signed : ∀ (signs : List Sign) {p : Parsed}, signed signs p = .error e →
    e = .tooDeep
  | .plus :: signs, _, h => error_of_signed signs h
  | .minus :: signs, _, h => by
    rcases error_of_bind h with h | ⟨_, _, h⟩
    · exact error_of_grow h
    · exact error_of_signed signs h

theorem Pending.error_of_take {here : Pending} {outer : List Pending} {p : Parsed}
    (h : here.take outer p = .error e) : e = .tooDeep := by
  rcases error_of_bind h with h | ⟨factor, _, h⟩
  · exact Parsed.error_of_signed _ h
  · cases hproduct : here.product with
    | none =>
      rw [hproduct] at h
      cases h
    | some l =>
      rw [hproduct] at h
      rcases error_of_bind h with h | ⟨_, _, h⟩
      · exact Parsed.error_of_join h
      · cases h

theorem error_of_nested {here : Pending} {outer : List Pending} {next : State}
    (h : nested here outer next = .error e) : e = .tooDeep := by
  unfold nested at h
  split at h <;> cases h
  rfl

/-- A step fails because of a bound, or because it refuses its token. -/
theorem State.error_of_step {s : State} {t : Placed} (h : step s t = .error e) :
    e = .tooDeep ∨ e = unexpected t := by
  cases s with
  | operand here outer =>
    change stepOperand here outer t = .error e at h
    unfold stepOperand at h
    split at h
    · exact .inl (Pending.error_of_take h)
    · exact .inl (Pending.error_of_take h)
    · exact .inl (error_of_nested h)
    · exact .inl (error_of_nested h)
    · exact .inl (error_of_nested h)
    all_goals exact .inr (Except.error.inj h).symm
  | operator sum factor outer =>
    change stepOperator sum factor outer t = .error e at h
    -- all tokens but those of a product complete the sum first
    unfold stepOperator at h
    split at h
    · cases h
    · cases h
    all_goals
      rcases error_of_bind h with h | ⟨p, _, h⟩
      · exact .inl (Parsed.error_of_closeSum h)
    · cases h
    · cases h
    · cases outer with
      | nil => exact .inr (Except.error.inj h).symm
      | cons here outer => exact .inl (Pending.error_of_take h)
    all_goals exact .inr (Except.error.inj h).symm

theorem State.error_of_finish {s : State} (h : finish s = .error e) :
    e = .tooDeep ∨ ∃ expected, e = .unexpectedEnd expected := by
  cases s with
  | operand here outer => exact .inr ⟨_, (Except.error.inj h).symm⟩
  | operator sum factor outer =>
    rcases error_of_bind h with h | ⟨p, _, h⟩
    · exact .inl (Parsed.error_of_closeSum h)
    · cases outer with
      | nil => cases h
      | cons => exact .inr ⟨_, (Except.error.inj h).symm⟩

end Errors

/-! ## What is refused cannot go on -/

section Refused

variable {s : State} {e : Error} {ts : List Placed} {t : Placed}

/-- What the parser refuses, though it is not too deep, is no formula. -/
theorem not_isPhrase_of_error (h : parseTokens ts = .error e) (he : e ≠ .tooDeep) :
    ¬ IsPhrase .expression (ts.map Placed.token) := by
  rintro ⟨x, d, hx⟩
  rw [parseTokens_of_derives hx] at h
  split at h <;> cases h
  exact he rfl

theorem parseTokens_of_step (hrun : run (.operand .none []) ts = .ok s) (h : step s t = .error e)
    (rest : List Placed) : parseTokens (ts ++ t :: rest) = .error e := by
  obtain ⟨u, us, hne⟩ : ∃ u us, ts ++ t :: rest = u :: us := by cases ts <;> exact ⟨_, _, rfl⟩
  rw [hne, parseTokens_cons, ← hne, run_append, hrun]
  show (run s (t :: rest)).bind finish = _
  rw [run_cons, h]
  rfl

/-- Behind a refused token nothing can follow. -/
theorem not_viable_of_step (hrun : run (.operand .none []) ts = .ok s) (h : step s t = .error e)
    (he : e ≠ .tooDeep) : ¬ Viable (ts.map Placed.token ++ [t.token]) := by
  rintro ⟨us, hus⟩
  have herror := parseTokens_of_step hrun h (us.map fun u => ⟨u, 0⟩)
  refine not_isPhrase_of_error herror he ?_
  simpa [Function.comp_def] using hus

/-- The parser fails where there is nothing to parse, at a token after tokens that it takes, or at the
end. -/
theorem parseTokens_error (h : parseTokens ts = .error e) :
    (ts = [] ∧ e = .empty)
    ∨ (∃ done t rest s, ts = done ++ t :: rest ∧ run (.operand .none []) done = .ok s
      ∧ step s t = .error e)
    ∨ ∃ s, run (.operand .none []) ts = .ok s ∧ finish s = .error e := by
  cases ts with
  | nil => exact .inl ⟨rfl, (Except.error.inj h).symm⟩
  | cons u us =>
    rw [parseTokens_cons] at h
    rcases error_of_bind h with h | h
    · exact .inr (.inl (foldlM_error h))
    · exact .inr (.inr h)

end Refused

/-! ## Where the error is -/

/-- The tokens that stand before a position. -/
def tokensBefore (position : Nat) (ts : List Placed) : List Token :=
  (ts.filter (·.position < position)).map Placed.token

theorem tokensBefore_append {done rest : List Placed} {t : Placed}
    (h : (done ++ t :: rest).Pairwise (·.position < ·.position)) :
    tokensBefore t.position (done ++ t :: rest) = done.map Placed.token := by
  rw [List.pairwise_append, List.pairwise_cons] at h
  obtain ⟨-, ⟨hrest, -⟩, hdone⟩ := h
  have hkept : done.filter (·.position < t.position) = done :=
    List.filter_eq_self.2 fun u hu => by simpa using hdone u hu t (List.mem_cons_self ..)
  have hlost : rest.filter (·.position < t.position) = [] := by
    rw [List.filter_eq_nil_iff]
    intro u hu
    have hlater := hrest u hu
    simp
    omega
  rw [tokensBefore, List.filter_append, hkept, List.filter_cons_of_neg (by simp), hlost,
    List.append_nil]

/-- The token that the parser names as unexpected is the first one with which no formula goes on: the
tokens before it can go on to a formula, and with it they cannot. Where it misses something at the
end, the tokens are no formula, but can go on to one. -/
theorem unexpected_is_first_impossible {ts : List Placed}
    (hplaced : ts.Pairwise (·.position < ·.position)) :
    (∀ found position, parseTokens ts = .error (.unexpectedToken found position) →
      ∃ t ∈ ts, t.position = position ∧ t.token.text = found ∧
        Viable (tokensBefore position ts) ∧ ¬ Viable (tokensBefore position ts ++ [t.token])) ∧
    ∀ expected, parseTokens ts = .error (.unexpectedEnd expected) →
      ¬ IsPhrase .expression (ts.map Placed.token) ∧ Viable (ts.map Placed.token) := by
  constructor
  · intro found position h
    rcases parseTokens_error h with ⟨-, h⟩ | ⟨done, t, rest, s, rfl, hrun, hstep⟩ | ⟨s, -, hfinish⟩
    · cases h
    · -- the tokens before were read, and no continuation reads this one
      rcases State.error_of_step hstep with h | h <;> cases h
      rw [tokensBefore_append hplaced]
      exact ⟨t, by simp, rfl, rfl, (State.reads_foldlM hrun).viable,
        not_viable_of_step hrun hstep nofun⟩
    · rcases State.error_of_finish hfinish with h | ⟨_, h⟩ <;> cases h
  · intro expected h
    refine ⟨not_isPhrase_of_error h nofun, ?_⟩
    rcases parseTokens_error h with ⟨-, h⟩ | ⟨done, t, rest, s, rfl, -, hstep⟩ | ⟨s, hrun, -⟩
    · cases h
    · rcases State.error_of_step hstep with h | h <;> cases h
    · exact (State.reads_foldlM hrun).viable

/-- In a source with a reference too many, the tokens before it could go on to a formula. Without it
the source ends too early. -/
theorem unexpected_is_first_impossible_twoReferences :
    let ts : List Placed := [⟨.field "a", 0⟩, ⟨.star, 4⟩, ⟨.leftParen, 6⟩, ⟨.field "b", 7⟩]
    let us : List Placed := ts ++ [⟨.field "c", 11⟩, ⟨.rightParen, 14⟩]
    tokenize "\x7ba\x7d * (\x7bb\x7d \x7bc\x7d)" = .ok us
      ∧ parseTokens us = .error (.unexpectedToken "\x7bc\x7d" 11)
      ∧ Viable (ts.map Placed.token) ∧ ¬ Viable (ts.map Placed.token ++ [.field "c"])
      ∧ parseTokens ts = .error (.unexpectedEnd .rightParen)
      ∧ ¬ IsPhrase .expression (ts.map Placed.token) := by
  intro ts us
  have htokens : tokenize "\x7ba\x7d * (\x7bb\x7d \x7bc\x7d)" = .ok us := rfl
  have hus := increasing_of_tokenize htokens
  have hts := (List.pairwise_append.1 hus).1
  have hunexpected : parseTokens us = .error (.unexpectedToken "\x7bc\x7d" 11) := rfl
  have hend : parseTokens ts = .error (.unexpectedEnd .rightParen) := rfl
  obtain ⟨t, ht, hposition, -, hviable, hnot⟩ :=
    (unexpected_is_first_impossible hus).1 _ _ hunexpected
  obtain ⟨hphrase, -⟩ := (unexpected_is_first_impossible hts).2 _ hend
  have hbefore : tokensBefore 11 us = ts.map Placed.token := rfl
  have hnamed : ∀ t ∈ us, t.position = 11 → t.token = .field "c" := by simp [us, ts]
  rw [hbefore] at hviable hnot
  rw [hnamed t ht hposition] at hnot
  exact ⟨htokens, hunexpected, hviable, hnot, hend, hphrase⟩

end FormBuilder.Formula
