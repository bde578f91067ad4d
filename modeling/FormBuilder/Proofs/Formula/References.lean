/-
What a formula reads: the ids between the braces of its source, and of an input under such an id no
more than the number that it counts as.

The fields of an expression are found from left to right, which is the order of the references in the
source: parentheses and plus signs, which leave nothing in the expression, hold none, and an operator
stands between its operands in both.
-/
import FormBuilder.Formula.Eval
import FormBuilder.Proofs.Formula.Parser
import FormBuilder.Proofs.Occurrence

namespace FormBuilder.Formula

/-! ## The fields of a phrase -/

/-- The id that a token refers to. -/
def Token.reference? : Token → Option String
  | .field id => some id
  | _ => none

theorem SumOp.fields_build (op : SumOp) (l r : Expr) :
    (op.build l r).fields = l.fields ++ r.fields := by
  cases op <;> rfl

theorem ProductOp.fields_build (op : ProductOp) (l r : Expr) :
    (op.build l r).fields = l.fields ++ r.fields := by
  cases op <;> rfl

@[simp] theorem SumOp.reference?_token (op : SumOp) : op.token.reference? = none := by
  cases op <;> rfl

@[simp] theorem ProductOp.reference?_token (op : ProductOp) : op.token.reference? = none := by
  cases op <;> rfl

theorem Sign.fields_apply (s : Sign) (e : Expr) : (s.apply e).fields = e.fields := by
  cases s <;> rfl

@[simp] theorem Sign.reference?_token (s : Sign) : s.token.reference? = none := by
  cases s <;> rfl

/-- The fields of an expression are the references of the tokens that it stands for, in their order. -/
theorem Derives.fields_eq {p : Phrase} {ts : List Token} {e : Expr} {d : Nat} (h : Derives p ts e d) :
    e.fields = ts.filterMap Token.reference? := by
  induction h with
  | number | field => rfl
  | parens _ ih =>
    rw [List.filterMap_cons_none rfl, List.filterMap_append, ih]
    exact (List.append_nil _).symm
  | sign s _ ih => simp [s.fields_apply, ih]
  | primary _ ih | unary _ ih | term _ ih => exact ih
  | product op _ _ ihl ihr => simp [op.fields_build, ihl, ihr]
  | sum op _ _ ihl ihr => simp [op.fields_build, ihl, ihr]

/-! ## References -/

namespace Expr

variable {e : Expr} {id : String}

theorem firstOccurrences_eq {seen seen' : List String} (h : ∀ i, i ∈ seen ↔ i ∈ seen')
    (ids : List String) : firstOccurrences seen ids = nthOccurrences 0 seen' ids := by
  -- the two lists of ids seen differ in their order and repetitions only
  induction ids generalizing seen seen' with
  | nil => rfl
  | cons i is ih =>
    rw [firstOccurrences, nthOccurrences]
    by_cases hi : i ∈ seen
    · have hsame : ∀ j, j ∈ seen ↔ j ∈ i :: seen' := by
        intro j
        rw [List.mem_cons, ← h]
        exact (or_iff_right_of_imp fun heq => heq ▸ hi).symm
      have hcount : seen'.count i ≠ 0 := by
        rw [← Nat.pos_iff_ne_zero, List.count_pos_iff]
        exact (h i).1 hi
      rw [if_pos (by simpa using hi), if_neg hcount, ih hsame]
    · have hsame : ∀ j, j ∈ i :: seen ↔ j ∈ i :: seen' := by
        intro j
        rw [List.mem_cons, List.mem_cons, h]
      have hcount : seen'.count i = 0 := List.count_eq_zero.2 fun hmem => hi ((h i).2 hmem)
      rw [if_neg (by simpa using hi), if_pos hcount, ih hsame]

theorem listsOccurrences_references (e : Expr) : ListsOccurrences 0 e.fields e.references := by
  rw [references, firstOccurrences_eq fun _ => Iff.rfl]
  exact listsOccurrences_nthOccurrences 0 e.fields

/-- No field is left out of the references. -/
theorem mem_references : id ∈ e.references ↔ id ∈ e.fields :=
  (e.listsOccurrences_references.mem_iff id).trans List.count_pos_iff

/-- Inputs that count as the same numbers under the ids of the fields give the same value. -/
theorem eval_congr {i j : Inputs} (h : ∀ id ∈ e.fields, inputNumber i id = inputNumber j id) :
    e.eval i = e.eval j := by
  induction e with
  | number x => rfl
  | field id => exact h id (List.mem_singleton_self id)
  | negate e ih => rw [eval, eval, ih h]
  | sum l r ihl ihr | subtract l r ihl ihr | multiply l r ihl ihr | divide l r ihl ihr =>
    rw [fields, List.forall_mem_append] at h
    obtain ⟨hl, hr⟩ := h
    rw [eval, eval, ihl hl, ihr hr]

end Expr

/-! ## Reading -/

/-- A formula reads what its source refers to: its references are the ids of the source, each once and
by their first occurrences, and no input bears on its value but by the numbers under these ids. -/
theorem parse_reads_references {s : String} {e : Expr} (h : parse s = .ok e) :
    (∃ ts, tokenize s = .ok ts ∧
      ListsOccurrences 0 (ts.filterMap (·.token.reference?)) e.references) ∧
    ∀ i j : Inputs, (∀ id ∈ e.references, inputNumber i id = inputNumber j id) →
      e.eval i = e.eval j := by
  constructor
  · obtain ⟨ts, d, htokens, hderives, -⟩ := derives_of_parse h
    refine ⟨ts, htokens, ?_⟩
    have hfields := hderives.fields_eq
    rw [List.filterMap_map] at hfields
    have hlists := e.listsOccurrences_references
    rwa [hfields] at hlists
  · intro i j hinputs
    exact Expr.eval_congr fun id hid => hinputs id (Expr.mem_references.2 hid)

/-- Two references in three places, behind a sign and in parentheses. It makes no difference whether
a number is entered as a number or as text, nor what stands under other ids, and a word counts as
nothing. -/
theorem parse_reads_references_threePlaces :
    let e : Expr := .divide (.multiply (.field "b") (.subtract (.field "a") (.field "b"))) (.number 2)
    let i : Inputs := ⟨[("b", .text " 3 ")]⟩
    let j : Inputs := ⟨[("a", .text "none"), ("c", .number 7), ("b", .number 3)]⟩
    parse "\x7bb\x7d * (\x7ba\x7d - +\x7bb\x7d) / 2" = .ok e ∧ e.references = ["b", "a"]
      ∧ (∀ id ∈ e.references, inputNumber i id = inputNumber j id)
      ∧ (∃ ts, tokenize "\x7bb\x7d * (\x7ba\x7d - +\x7bb\x7d) / 2" = .ok ts ∧
        ListsOccurrences 0 (ts.filterMap (·.token.reference?)) ["b", "a"])
      ∧ e.eval i = e.eval j := by
  intro e i j
  have hparse : parse "\x7bb\x7d * (\x7ba\x7d - +\x7bb\x7d) / 2" = .ok e := rfl
  have hreferences : e.references = ["b", "a"] := rfl
  have hinputs : ∀ id ∈ e.references, inputNumber i id = inputNumber j id := by
    rw [hreferences]
    simp only [List.forall_mem_cons, List.not_mem_nil, false_implies, implies_true, and_true]
    exact ⟨rfl, rfl⟩
  obtain ⟨htokens, heval⟩ := parse_reads_references hparse
  rw [hreferences] at htokens
  exact ⟨hparse, hreferences, hinputs, htokens, heval i j hinputs⟩

end FormBuilder.Formula
