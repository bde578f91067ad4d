/-
What the evaluation of a form reads of its inputs: the sources of its conditions and the references of
its formulas, and no other input but that every field starts from its own. So another value of an input
that is read nowhere leaves the states of all other fields as they are, and bears on its own field by
its value alone.
-/
import FormBuilder.State.Basic
import FormBuilder.Proofs.Formula.References
import FormBuilder.Proofs.Table

namespace FormBuilder

/-! ## Two inputs -/

section Congruence

variable {i j : Inputs}

theorem CalculatedConfig.calculate_congr {c : CalculatedConfig}
    (h : ∀ e, Formula.parse c.formula = .ok e → ∀ id ∈ e.references, i.get? id = j.get? id) :
    c.calculate i = c.calculate j := by
  unfold calculate
  cases hparse : Formula.parse c.formula with
  | error _ => rfl
  | ok e =>
    have heval : e.eval i = e.eval j := by
      refine Formula.Expr.eval_congr fun id hid => ?_
      rw [Formula.inputNumber, Formula.inputNumber,
        h e hparse id (Formula.Expr.mem_references.2 hid)]
    simp only [heval]

theorem Condition.holds_congr {c : Condition} (h : i.get? c.source = j.get? c.source) :
    c.holds i = c.holds j := by
  rw [holds, holds, h]

theorem ConditionGroup.holds_congr {g : ConditionGroup}
    (h : ∀ c ∈ g.conditions, i.get? c.source = j.get? c.source) : g.holds i = g.holds j := by
  have hc : ∀ c ∈ g.conditions, c.holds i = c.holds j := fun c hc => Condition.holds_congr (h c hc)
  have hall : g.conditions.all (·.holds i) = g.conditions.all (·.holds j) := by
    rw [Bool.eq_iff_iff, List.all_eq_true, List.all_eq_true]
    exact forall₂_congr fun c hmem => by rw [hc c hmem]
  have hany : g.conditions.any (·.holds i) = g.conditions.any (·.holds j) := by
    rw [Bool.eq_iff_iff, List.any_eq_true, List.any_eq_true]
    exact exists_congr fun c => and_congr_right fun hmem => by rw [hc c hmem]
  rw [holds, holds, hall, hany]

theorem Tree.actions_congr {t : Tree}
    (h : ∀ r ∈ t.rules, ∀ c ∈ r.conditions.conditions, i.get? c.source = j.get? c.source) :
    t.actions i = t.actions j := by
  have hfires : t.rules.filter (·.fires i) = t.rules.filter (·.fires j) :=
    List.filter_congr fun r hr => ConditionGroup.holds_congr (h r hr)
  rw [actions, actions, hfires]

end Congruence

/-- A condition of a rule looks at the input of the id, or a formula that can be read refers to it. -/
def Tree.Reads (t : Tree) (id : String) : Prop :=
  (∃ r ∈ t.rules, ∃ c ∈ r.conditions.conditions, c.source = id) ∨
    ∃ f ∈ t.flatten, ∃ c e, f.calculation? = some c ∧ Formula.parse c.formula = .ok e ∧ id ∈ e.references

/-! ## States that differ in one input -/

/-- Two rows of one id that differ in the value at most, and then the id is `x` and each has the value
that was entered for it. -/
structure FieldState.RowsAgree (x : String) (i j : Inputs) (r s : String × FieldState) : Prop where
  id : r.1 = s.1
  isVisible : r.2.isVisible = s.2.isVisible
  isReadOnly : r.2.isReadOnly = s.2.isReadOnly
  value : r.2.value = s.2.value ∨ r.1 = x ∧ r.2.value = i.get? x ∧ s.2.value = j.get? x

namespace FormState

open FieldState (RowsAgree)

/-- The states have the same ids in the same order, and their rows agree. -/
def Agree (x : String) (i j : Inputs) (s s' : FormState) : Prop :=
  List.Forall₂ (RowsAgree x i j) s.rows s'.rows

variable {x : String} {i j : Inputs} {s s' : FormState}

theorem Agree.keys (h : Agree x i j s s') : s.keys = s'.keys := by
  obtain ⟨rows⟩ := s
  obtain ⟨rows'⟩ := s'
  change rows.map (·.1) = rows'.map (·.1)
  change List.Forall₂ _ rows rows' at h
  induction h with
  | nil => rfl
  | cons hrow _ ih => rw [List.map_cons, List.map_cons, hrow.id, ih]

theorem Agree.get? (h : Agree x i j s s') (id : String) :
    (s.get? id = none ∧ s'.get? id = none) ∨
      ∃ v v', s.get? id = some v ∧ s'.get? id = some v' ∧ RowsAgree x i j (id, v) (id, v') := by
  obtain ⟨rows⟩ := s
  obtain ⟨rows'⟩ := s'
  unfold Table.get?
  change List.Forall₂ _ rows rows' at h
  dsimp only
  induction h with
  | nil => exact .inl ⟨rfl, rfl⟩
  | @cons r r' rows rows' hrow _ ih =>
    obtain ⟨k, v⟩ := r
    obtain ⟨k', v'⟩ := r'
    obtain rfl : k = k' := hrow.id
    rw [Table.lookup_cons_ite, Table.lookup_cons_ite]
    by_cases hid : id = k
    · subst hid
      rw [if_pos rfl, if_pos rfl]
      exact .inr ⟨v, v', rfl, rfl, hrow⟩
    · rwa [if_neg hid, if_neg hid]

/-- A row is added to both states or to none. -/
theorem Agree.add {k : String} {v v' : FieldState} (h : Agree x i j s s')
    (hrow : RowsAgree x i j (k, v) (k, v')) : Agree x i j (s.add k v) (s'.add k v') := by
  unfold Table.add
  rcases h.get? k with ⟨hnone, hnone'⟩ | ⟨w, w', hsome, hsome', -⟩
  · rw [hnone, hnone', if_neg (by simp), if_neg (by simp)]
    exact List.rel_append h (.cons hrow .nil)
  · rw [hsome, hsome']
    exact h

theorem Agree.update {k : String} {f g : FieldState → FieldState} (h : Agree x i j s s')
    (hf : ∀ v v', RowsAgree x i j (k, v) (k, v') → RowsAgree x i j (k, f v) (k, g v')) :
    Agree x i j (s.update k f) (s'.update k g) := by
  refine List.rel_map (fun r r' hrow => ?_) h
  obtain ⟨l, v⟩ := r
  obtain ⟨l', v'⟩ := r'
  obtain rfl : l = l' := hrow.id
  by_cases hkey : l = k
  · subst hkey
    simpa using hf v v' hrow
  · simpa [hkey] using hrow

end FormState

open FieldState (RowsAgree)

section Passes

variable {x : String} {i j : Inputs}

theorem FieldState.rowsAgree_initial (h : ∀ id, id ≠ x → i.get? id = j.get? id) (f : Field) :
    RowsAgree x i j (f.id, .initial i f) (f.id, .initial j f) where
  id := rfl
  isVisible := rfl
  isReadOnly := rfl
  value := by
    by_cases hid : f.id = x
    · exact .inr ⟨hid, congrArg i.get? hid, congrArg j.get? hid⟩
    · exact .inl (h f.id hid)

/-- An action writes the same in both states. -/
theorem FieldState.RowsAgree.applyTo {k : String} {v v' : FieldState} (a : Action)
    (h : RowsAgree x i j (k, v) (k, v')) : RowsAgree x i j (k, a.applyTo v) (k, a.applyTo v') := by
  obtain ⟨-, hvisible, hreadOnly, hvalue⟩ := h
  unfold Action.applyTo
  cases a.effect with
  | «show» | hide => exact ⟨rfl, rfl, hreadOnly, hvalue⟩
  | enable | disable => exact ⟨rfl, hvisible, rfl, hvalue⟩
  | setValue => exact ⟨rfl, hvisible, hreadOnly, .inl rfl⟩
  | other => exact ⟨rfl, hvisible, hreadOnly, hvalue⟩

namespace Tree

variable {t : Tree}

theorem agree_initialState (t : Tree) (h : ∀ id, id ≠ x → i.get? id = j.get? id) :
    FormState.Agree x i j (t.initialState i) (t.initialState j) :=
  List.foldl_rel .nil fun f _ _ _ hs => hs.add (FieldState.rowsAgree_initial h f)

theorem agree_actions (as : List Action) {s s' : FormState} (h : FormState.Agree x i j s s') :
    FormState.Agree x i j (as.foldl (fun s a => a.apply s) s) (as.foldl (fun s a => a.apply s) s') :=
  List.foldl_rel h fun a _ _ _ hs => hs.update fun _ _ hrow => hrow.applyTo a

/-- A formula that gives the same text on both inputs writes the same in both states. -/
theorem agree_calculateField {f : Field}
    (hf : ∀ c, f.calculation? = some c → c.calculate i = c.calculate j) {s s' : FormState}
    (h : FormState.Agree x i j s s') :
    FormState.Agree x i j (calculateField i s f) (calculateField j s' f) := by
  unfold calculateField
  cases hc : f.calculation? with
  | none => exact h
  | some c =>
    dsimp only
    split
    · exact h
    · refine h.update fun v v' hrow => ?_
      rw [hf c hc]
      exact ⟨rfl, hrow.isVisible, hrow.isReadOnly, .inl rfl⟩

theorem agree_evaluate (hx : ¬ t.Reads x) (h : ∀ id, id ≠ x → i.get? id = j.get? id) :
    FormState.Agree x i j (t.evaluate i) (t.evaluate j) := by
  have hactions : t.actions i = t.actions j := actions_congr fun r hr c hc =>
    h c.source fun hsource => hx (.inl ⟨r, hr, c, hc, hsource⟩)
  have hformulas : ∀ f ∈ t.flatten, ∀ c, f.calculation? = some c → c.calculate i = c.calculate j :=
    fun f hf c hc => CalculatedConfig.calculate_congr fun e he id hid =>
      h id fun heq => hx (.inr ⟨f, hf, c, e, hc, he, heq ▸ hid⟩)
  unfold evaluate
  rw [hactions]
  exact List.foldl_rel (agree_actions _ (agree_initialState t h)) fun f hf _ _ hs =>
    agree_calculateField (hformulas f hf) hs

/-- The state depends on the inputs only by the value of each id, not by the order in which they
were entered. -/
theorem evaluate_congr (h : ∀ id, i.get? id = j.get? id) (t : Tree) : t.evaluate i = t.evaluate j := by
  have hinitial : FieldState.initial i = FieldState.initial j := by
    funext f
    rw [FieldState.initial, FieldState.initial, h f.id]
  have hcalculate : calculateField i = calculateField j := by
    funext s f
    have hc : ∀ c : CalculatedConfig, c.calculate i = c.calculate j := fun c =>
      CalculatedConfig.calculate_congr fun _ _ id _ => h id
    simp only [calculateField, hc]
  rw [evaluate, evaluate, initialState, initialState, hinitial, hcalculate,
    actions_congr fun _ _ c _ => h c.source]

/-- An input that no condition and no formula of the form reads bears on its own field alone, and on
that by its value alone: whatever is entered for it, the other fields are in the same states, its own
field is shown and can be changed as before, and the value of that field is the same too, or is what
was entered. -/
theorem evaluate_unread (hx : ¬ t.Reads x) (h : ∀ id, id ≠ x → i.get? id = j.get? id) :
    (t.evaluate i).keys = (t.evaluate j).keys ∧
    (∀ id, id ≠ x → (t.evaluate i).get? id = (t.evaluate j).get? id) ∧
    (t.evaluate i).isVisible x = (t.evaluate j).isVisible x ∧
    (t.evaluate i).isReadOnly x = (t.evaluate j).isReadOnly x ∧
    ((t.evaluate i).value? x = (t.evaluate j).value? x ∨
      (t.evaluate i).value? x = i.get? x ∧ (t.evaluate j).value? x = j.get? x) := by
  have hagree := agree_evaluate hx h
  refine ⟨hagree.keys, fun id hid => ?_, ?_⟩
  · rcases hagree.get? id with ⟨hnone, hnone'⟩ | ⟨v, v', hsome, hsome', hrow⟩
    · rw [hnone, hnone']
    · obtain ⟨-, hvisible, hreadOnly, hvalue⟩ := hrow
      have hsame : v.value = v'.value := hvalue.resolve_right fun hself => hid hself.1
      obtain ⟨_, _, _⟩ := v
      obtain ⟨_, _, _⟩ := v'
      simp only at hvisible hreadOnly hsame
      rw [hsome, hsome', hvisible, hreadOnly, hsame]
  · unfold FormState.isVisible FormState.isReadOnly FormState.value?
    rcases hagree.get? x with ⟨hnone, hnone'⟩ | ⟨v, v', hsome, hsome', hrow⟩
    · rw [hnone, hnone']
      exact ⟨rfl, rfl, .inl rfl⟩
    · rw [hsome, hsome']
      exact ⟨hrow.isVisible, hrow.isReadOnly, hrow.value.imp id And.right⟩

/-- A note that appears twice and is hidden by a rule on the name, in a form whose formula refers to the
price: nothing reads the note, so entering one leaves name and total as they are. -/
theorem evaluate_unread_note :
    let head id rules : Field.Head := ⟨id, "", none, [], rules, none, false⟩
    let ada : Condition := ⟨"c", "name", .eq, some (.text "Ada")⟩
    let hide : Action := ⟨"a", .hide, "note", none⟩
    let t : Tree := ⟨[.leaf (head "name" [⟨"r", "", ⟨.and, [ada]⟩, [hide]⟩]) (.text {}),
      .group (head "box" []) 1 [.leaf (head "note" []) (.text {})],
      .leaf (head "total" []) (.calculated { formula := "\x7bprice\x7d + 1" }),
      .leaf (head "note" []) (.textarea {})]⟩
    let i : Inputs := ⟨[("name", .text "Ada")]⟩
    let j : Inputs := ⟨[("name", .text "Ada"), ("note", .text "late")]⟩
    ¬ t.Reads "note" ∧ (∀ id, id ≠ "note" → i.get? id = j.get? id) ∧
      (t.evaluate i).get? "total" = (t.evaluate j).get? "total" ∧
      (t.evaluate i).isVisible "note" = (t.evaluate j).isVisible "note" := by
  intro head ada hide t i j
  have hx : ¬ t.Reads "note" := by
    rintro (⟨r, hr, c, hc, hsource⟩ | ⟨f, hf, c, e, hcalc, hparse, hid⟩)
    · obtain rfl : r = ⟨"r", "", ⟨.and, [ada]⟩, [hide]⟩ := List.mem_singleton.1 hr
      obtain rfl : c = ada := List.mem_singleton.1 hc
      exact absurd hsource (by decide)
    · simp only [t, flatten, entries, Field.entriesFrom, Field.inside, List.map_cons, List.map_nil,
        List.append_nil, List.nil_append, List.cons_append, List.mem_cons, List.not_mem_nil,
        or_false] at hf
      rcases hf with rfl | rfl | rfl | rfl | rfl
      · cases hcalc
      · cases hcalc
      · cases hcalc
      · cases hcalc
        have hformula : Formula.parse "\x7bprice\x7d + 1" = .ok (.sum (.field "price") (.number 1.0)) := rfl
        cases hformula.symm.trans hparse
        exact absurd hid (by decide)
      · cases hcalc
  have hinputs : ∀ id, id ≠ "note" → i.get? id = j.get? id := by
    intro id hid
    by_cases hname : id = "name"
    · rw [hname]
      rfl
    · simp [i, j, Table.get?, Table.lookup_cons_ite, hid, hname]
  obtain ⟨-, hothers, hvisible, -⟩ := evaluate_unread hx hinputs
  exact ⟨hx, hinputs, hothers "total" (by decide), hvisible⟩

end Tree

end Passes

end FormBuilder
