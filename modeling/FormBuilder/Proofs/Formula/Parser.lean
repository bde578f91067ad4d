/-
The parser accepts the phrases of the grammar that keep both bounds, with their expressions, and
nothing else; a phrase that exceeds a bound is too deep.
-/
import FormBuilder.Proofs.Formula.Reads
import FormBuilder.Proofs.Formula.Runs

namespace FormBuilder.Formula

/-- The end of the formula, where no parentheses may be open. -/
def State.conclude : Parsed × List Pending → Except Error Expr
  | (p, []) => .ok p.expr
  | (_, _ :: _) => .error (.unexpectedEnd .rightParen)

theorem finish_eq (s : State) : finish s = s.close.bind State.conclude := by
  cases s with
  | operand => rfl
  | operator sum factor outer =>
    simp only [finish, State.close]
    cases Parsed.closeSum sum factor with
    | error => rfl
    | ok p => cases outer <;> rfl

theorem parseTokens_cons (t : Placed) (ts : List Placed) :
    parseTokens (t :: ts) = (run (.operand .none []) (t :: ts)).bind finish := rfl

/-- A formula of the grammar is parsed as its expression, unless it exceeds a bound. -/
theorem parseTokens_of_derives {ts : List Placed} {e : Expr} {d : Nat}
    (h : Derives .expression (ts.map Placed.token) e d) :
    parseTokens ts
      = if d ≤ depthLimit ∧ e.height ≤ depthLimit then .ok e else .error .tooDeep := by
  cases ts with
  | nil => exact absurd rfl h.ne_nil
  | cons t ts =>
    have hruns := runs_of_derives h (t :: ts) rfl [] (Nat.zero_le _)
    have hzero : nesting .none [] = 0 := rfl
    have hfinish : parseTokens (t :: ts)
        = ((run (.operand .none []) (t :: ts)).bind State.close).bind State.conclude := by
      rw [parseTokens_cons]
      cases run (.operand .none []) (t :: ts) with
      | error => rfl
      | ok s => exact finish_eq s
    rw [hfinish, hruns, hzero, within, Nat.zero_add]
    split <;> rfl

/-- What the parser gives is the expression of a formula of the grammar. -/
theorem derives_of_parseTokens {ts : List Placed} {e : Expr} (h : parseTokens ts = .ok e) :
    ∃ d, Derives .expression (ts.map Placed.token) e d := by
  cases ts with
  | nil => cases h
  | cons t ts =>
    obtain ⟨s, hs, hfinish⟩ := ok_of_bind ((parseTokens_cons t ts).symm.trans h)
    exact (State.reads_foldlM hs).finish hfinish

/-- Where parsing succeeds, the tokens derive the expression, which keeps the bound on heights. -/
theorem derives_of_parse {s : String} {e : Expr} (h : parse s = .ok e) :
    ∃ placed d, tokenize s = .ok placed ∧ Derives .expression (placed.map Placed.token) e d
      ∧ e.height ≤ depthLimit := by
  obtain ⟨placed, htokens, hparse⟩ := ok_of_bind h
  obtain ⟨d, hd⟩ := derives_of_parseTokens hparse
  refine ⟨placed, d, htokens, hd, ?_⟩
  rw [parseTokens_of_derives hd] at hparse
  split at hparse
  next hbounds => exact hbounds.2
  next => cases hparse

/-- Parsing succeeds exactly with the expressions that the grammar derives within the bounds, and
a formula that the grammar derives beyond them is too deep. -/
theorem parseTokens_iff_derives (ts : List Placed) :
    (∀ e, parseTokens ts = .ok e ↔ ∃ d, Derives .expression (ts.map Placed.token) e d ∧
      d ≤ depthLimit ∧ e.height ≤ depthLimit) ∧
    ∀ e d, Derives .expression (ts.map Placed.token) e d → depthLimit < d ∨ depthLimit < e.height →
      parseTokens ts = .error .tooDeep := by
  refine ⟨fun e => ⟨fun h => ?_, fun ⟨d, hd, hbounds⟩ => ?_⟩, fun e d hd hbeyond => ?_⟩
  · obtain ⟨d, hd⟩ := derives_of_parseTokens h
    rw [parseTokens_of_derives hd] at h
    split at h
    next hbounds => exact ⟨d, hd, hbounds⟩
    next => cases h
  · rw [parseTokens_of_derives hd, if_pos hbounds]
  · rw [parseTokens_of_derives hd, if_neg (by omega)]

theorem derives_plus (x : Float) :
    ∀ n : Nat, Derives .unary (List.replicate n .plus ++ [.number x]) (.number x) n
  | 0 => .primary (.number x)
  | n + 1 => .sign .plus (derives_plus x n)

/-- The bound itself is kept, and one sign more exceeds it. -/
theorem parseTokens_plus_256 :
    let ts n : List Placed := (List.replicate n Token.plus ++ [Token.number 1.5]).map fun t => ⟨t, 0⟩
    parseTokens (ts 256) = .ok (.number 1.5) ∧ parseTokens (ts 257) = .error .tooDeep := by
  intro ts
  have hd : ∀ n, Derives .expression ((ts n).map Placed.token) (.number 1.5) n := fun n => by
    rw [List.map_map, show Placed.token ∘ (fun t => ⟨t, 0⟩) = fun t => t from rfl, List.map_id']
    exact .term (.unary (derives_plus 1.5 n))
  exact ⟨((parseTokens_iff_derives (ts 256)).1 _).2 ⟨256, hd 256, by decide, by decide⟩,
    (parseTokens_iff_derives (ts 257)).2 _ 257 (hd 257) (.inl (by decide))⟩

end FormBuilder.Formula
