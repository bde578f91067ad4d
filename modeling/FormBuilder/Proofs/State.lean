/-
What a form makes of its inputs, field by field: the last action of each kind that targets a field
settles its visibility, its access and its value, and a formula settles the value of a calculated
field. Rules and formulas look at the inputs alone, so no action bears on what another rule or a
formula does.
-/
import FormBuilder.State.Basic
import FormBuilder.Proofs.Table
import FormBuilder.Proofs.Tree.Lookup
import Mathlib.Data.List.Induction

namespace FormBuilder

/-! ## Kinds of effects -/

namespace Effect

/-- The effects on whether a field is shown. -/
def isVisibility : Effect → Bool
  | .show | .hide => true
  | _ => false

/-- The effects on whether a field can be changed. -/
def isAccess : Effect → Bool
  | .enable | .disable => true
  | _ => false

def isAssignment : Effect → Bool
  | .setValue => true
  | _ => false

def isKnown : Effect → Bool
  | .other _ => false
  | _ => true

end Effect

/-- The last action that targets a field and has an effect of a kind. -/
def Action.last? (as : List Action) (target : String) (kind : Effect → Bool) : Option Action :=
  (as.filter fun a => a.target == target && kind a.effect).getLast?

/-! ## Settled states -/

/-- The formula of a calculated field, if it has one. -/
def Field.formula? (f : Field) : Option CalculatedConfig :=
  f.calculation?.filter fun c => !c.formula.isEmpty

/-- The state that the actions of the fired rules and its own formula give a field. -/
def Field.settled (inputs : Inputs) (as : List Action) (f : Field) : FieldState where
  isVisible := match Action.last? as f.id Effect.isVisibility with
    | some a => a.effect == .show
    | none => true
  isReadOnly := match Action.last? as f.id Effect.isAccess with
    | some a => a.effect == .disable
    | none => f.head.readOnly
  value := match f.formula? with
    | some c => some (.text (c.calculate inputs))
    | none => match Action.last? as f.id Effect.isAssignment with
      | some a => a.value
      | none => inputs.get? f.id

/-- The actions of the rules whose conditions hold on the inputs: field by field, rule by rule. -/
def Tree.firedActions (t : Tree) (inputs : Inputs) : List Action :=
  t.flatten.flatMap fun f => f.head.rules.flatMap fun r =>
    if r.conditions.holds inputs then r.actions else []

/-- The fields differ at most in what the actions of their rules are, and in what neither rules nor
formulas read. -/
structure Field.SameUpToActions (f g : Field) : Prop where
  id : f.id = g.id
  formula : f.formula? = g.formula?
  conditions : f.head.rules.map (·.conditions) = g.head.rules.map (·.conditions)

/-! ## Actions -/

theorem flatMap_filter {α β : Type} (p : α → Bool) (g : α → List β) : ∀ xs : List α,
    (xs.filter p).flatMap g = xs.flatMap fun x => if p x then g x else []
  | [] => rfl
  | x :: xs => by
    cases h : p x <;> simp [h, flatMap_filter p g xs]

theorem Tree.actions_eq_firedActions (t : Tree) (inputs : Inputs) :
    t.actions inputs = t.firedActions inputs := by
  rw [actions, flatMap_filter, rules, List.flatMap_assoc]
  rfl

theorem Action.last?_append (as : List Action) (a : Action) (target : String)
    (kind : Effect → Bool) : last? (as ++ [a]) target kind
      = if a.target = target ∧ kind a.effect = true then some a else last? as target kind := by
  unfold last?
  by_cases h : a.target = target ∧ kind a.effect = true
  · simp [List.filter_append, h]
  · have hskip : (a.target == target && kind a.effect) = false := by simpa using h
    rw [if_neg h, List.filter_append, List.filter_cons_of_neg (by simp [hskip]), List.filter_nil,
      List.append_nil]

/-- Actions that do not count can be left out. -/
theorem Action.last?_filter {as : List Action} {target : String} {kind : Effect → Bool}
    {counts : Action → Bool}
    (h : ∀ a ∈ as, a.target = target → kind a.effect = true → counts a = true) :
    last? (as.filter counts) target kind = last? as target kind := by
  unfold last?
  rw [List.filter_filter]
  refine congrArg List.getLast? (List.filter_congr fun a ha => ?_)
  by_cases htarget : a.target = target
  · cases hkind : kind a.effect with
    | false => simp
    | true => simp [htarget, h a ha htarget hkind]
  · simp [htarget]

/-- The actions that target a field, one after the other, leave what the last ones of each kind
say. -/
theorem foldl_applyTo (id : String) (s : FieldState) (as : List Action) :
    (as.filter (·.target == id)).foldl (fun s a => a.applyTo s) s =
      { isVisible := match Action.last? as id Effect.isVisibility with
          | some a => a.effect == .show
          | none => s.isVisible
        isReadOnly := match Action.last? as id Effect.isAccess with
          | some a => a.effect == .disable
          | none => s.isReadOnly
        value := match Action.last? as id Effect.isAssignment with
          | some a => a.value
          | none => s.value } := by
  -- from the end: the last action of a kind decides, so it is split off first
  induction as using List.reverseRecOn with
  | nil => rfl
  | append_singleton as a ih =>
    simp only [Action.last?_append, List.filter_append]
    by_cases htarget : a.target = id
    · rw [List.filter_cons_of_pos (by simpa using htarget), List.filter_nil, List.foldl_append, ih,
        List.foldl_cons, List.foldl_nil]
      cases heffect : a.effect <;>
        simp [htarget, heffect, Action.applyTo, Effect.isVisibility, Effect.isAccess,
          Effect.isAssignment]
    · rw [List.filter_cons_of_neg (by simpa using htarget), List.filter_nil, List.append_nil, ih]
      simp [htarget]

/-! ## The passes over the states -/

open Table

/-- What the calculation of a field does to its state. -/
def Field.calculated (inputs : Inputs) (f : Field) (s : FieldState) : FieldState :=
  match f.formula? with
  | some c => { s with value := some (.text (c.calculate inputs)) }
  | none => s

theorem Field.settled_eq (inputs : Inputs) (as : List Action) (f : Field) :
    f.settled inputs as = f.calculated inputs
      ((as.filter (·.target == f.id)).foldl (fun s a => a.applyTo s) (.initial inputs f)) := by
  rw [foldl_applyTo, settled, calculated]
  cases f.formula? <;> rfl

namespace Tree

variable {t : Tree} {inputs : Inputs}

theorem initialState_eq (ht : (t.flatten.map (·.id)).Nodup) :
    t.initialState inputs = tabulate Field.id (FieldState.initial inputs) t.flatten :=
  foldl_add t.flatten [] ht

theorem calculateField_eq :
    calculateField inputs = fun s f => s.update f.id (f.calculated inputs) := by
  funext s f
  have hid : s = s.update f.id fun st => st := by simp [update]
  unfold calculateField Field.calculated Field.formula?
  cases f.calculation? with
  | none => exact hid
  | some c =>
    cases hempty : c.formula.isEmpty with
    | true => simpa [Option.filter, hempty] using hid
    | false => simp [Option.filter, hempty]

/-- A field without a namesake is calculated once. -/
theorem foldl_calculateField (ht : (t.flatten.map (·.id)).Nodup) (value : Field → FieldState) :
    t.flatten.foldl (calculateField inputs) (tabulate Field.id value t.flatten)
      = tabulate Field.id (fun f => f.calculated inputs (value f)) t.flatten := by
  rw [calculateField_eq, foldl_update]
  refine tabulate_congr fun f hf => ?_
  rw [filter_key_eq ht hf]
  rfl

theorem evaluate_eq_tabulate (ht : (t.flatten.map (·.id)).Nodup) (inputs : Inputs) :
    t.evaluate inputs
      = tabulate Field.id (fun f => f.settled inputs (t.firedActions inputs)) t.flatten := by
  unfold evaluate
  rw [initialState_eq ht, actions_eq_firedActions]
  have hactions := foldl_update Field.id Action.target Action.applyTo t.flatten
    (t.firedActions inputs) (.initial inputs)
  have happly : (fun s a => Action.apply a s)
      = fun (s : FormState) a => s.update a.target a.applyTo := rfl
  rw [happly, hactions, foldl_calculateField ht]
  exact tabulate_congr fun f _ => (f.settled_eq inputs _).symm

/-- Only known effects on fields of the form count. -/
theorem settled_filter {f : Field} (hf : f ∈ t.flatten) (as : List Action) :
    f.settled inputs (as.filter fun a => a.effect.isKnown && t.contains a.target)
      = f.settled inputs as := by
  have hcontains : t.contains f.id = true := by
    rw [contains_iff, ids_marks]
    exact List.mem_map_of_mem hf
  have hcounts : ∀ kind : Effect → Bool, (∀ e, kind e = true → e.isKnown = true) →
      Action.last? (as.filter fun a => a.effect.isKnown && t.contains a.target) f.id kind
        = Action.last? as f.id kind := fun kind hkind =>
    Action.last?_filter fun a _ htarget heffect => by
      rw [htarget, hcontains, hkind _ heffect, Bool.true_and]
  unfold Field.settled
  rw [hcounts _ (by intro e; cases e <;> simp [Effect.isVisibility, Effect.isKnown]),
    hcounts _ (by intro e; cases e <;> simp [Effect.isAccess, Effect.isKnown]),
    hcounts _ (by intro e; cases e <;> simp [Effect.isAssignment, Effect.isKnown])]

/-! ## Independence -/

theorem exists_of_mem_left {α β : Type} {R : α → β → Prop} {xs : List α} {ys : List β}
    (h : List.Forall₂ R xs ys) {x : α} (hx : x ∈ xs) : ∃ y ∈ ys, R x y := by
  induction h with
  | nil => cases hx
  | cons hxy _ ih =>
    rcases List.mem_cons.1 hx with rfl | hx
    · exact ⟨_, List.mem_cons_self .., hxy⟩
    · obtain ⟨y, hy, hR⟩ := ih hx
      exact ⟨y, List.mem_cons_of_mem _ hy, hR⟩

theorem ids_eq_of_sameUpToActions {fs gs : List Field}
    (h : List.Forall₂ Field.SameUpToActions fs gs) : gs.map (·.id) = fs.map (·.id) := by
  induction h with
  | nil => rfl
  | cons hfg _ ih => rw [List.map_cons, List.map_cons, ih, hfg.id]

theorem conditions_eq_of_sameUpToActions {fs gs : List Field}
    (h : List.Forall₂ Field.SameUpToActions fs gs) :
    (gs.flatMap (·.head.rules)).map (·.conditions)
      = (fs.flatMap (·.head.rules)).map (·.conditions) := by
  induction h with
  | nil => rfl
  | cons hfg _ ih =>
    rw [List.flatMap_cons, List.flatMap_cons, List.map_append, List.map_append, ih, hfg.conditions]

theorem value?_eq_settled (ht : (t.flatten.map (·.id)).Nodup) {f : Field} (hf : f ∈ t.flatten) :
    (t.evaluate inputs).value? f.id = (f.settled inputs (t.firedActions inputs)).value := by
  rw [FormState.value?, evaluate_eq_tabulate ht, get?_tabulate_of_mem ht hf]
  rfl

theorem value?_of_formula? (ht : (t.flatten.map (·.id)).Nodup) {f : Field} (hf : f ∈ t.flatten)
    {c : CalculatedConfig} (hc : f.formula? = some c) :
    (t.evaluate inputs).value? f.id = some (.text (c.calculate inputs)) := by
  rw [value?_eq_settled ht hf, Field.settled, hc]

/-! ## Evaluation -/

/-- What the inputs make of a form. Every field has one row, in the order of a visit, with the state
that the actions of the fired rules and its own formula settle. Actions of unknown effect or on no
field of the form count for nothing. Which rules fire and what formulas show does not depend on any
action. -/
theorem evaluate_settles (ht : (t.flatten.map (·.id)).Nodup) (inputs : Inputs) :
    (t.evaluate inputs).rows
      = t.flatten.map (fun f => (f.id, f.settled inputs (t.firedActions inputs))) ∧
    (∀ f ∈ t.flatten, f.settled inputs ((t.firedActions inputs).filter fun a =>
      a.effect.isKnown && t.contains a.target) = f.settled inputs (t.firedActions inputs)) ∧
    ∀ u : Tree, List.Forall₂ Field.SameUpToActions t.flatten u.flatten →
      u.rules.map (·.fires inputs) = t.rules.map (·.fires inputs) ∧
      ∀ f ∈ t.flatten, f.formula?.isSome →
        (u.evaluate inputs).value? f.id = (t.evaluate inputs).value? f.id := by
  refine ⟨by rw [evaluate_eq_tabulate ht]; rfl, fun f hf => settled_filter hf _,
    fun u hu => ⟨?_, fun f hf hformula => ?_⟩⟩
  · have hfires := congrArg (List.map (ConditionGroup.holds inputs))
      (conditions_eq_of_sameUpToActions hu)
    rw [List.map_map, List.map_map] at hfires
    exact hfires
  · have hnodup : (u.flatten.map (·.id)).Nodup := ids_eq_of_sameUpToActions hu ▸ ht
    obtain ⟨c, hc⟩ := Option.isSome_iff_exists.1 hformula
    obtain ⟨g, hg, hfg⟩ := exists_of_mem_left hu hf
    rw [value?_of_formula? ht hf hc, hfg.id, value?_of_formula? hnodup hg (hfg.formula ▸ hc)]

/-- A group with a rule without conditions, a field inside it with a rule on its own input, and a
calculated field behind them; the group's rule has the given actions. -/
def ruledTree (as : List Action) : Tree :=
  let head id rules : Field.Head := ⟨id, "", none, [], rules, none, false⟩
  let ada : Condition := ⟨"c", "name", .eq, some (.text "Ada")⟩
  ⟨[.group (head "box" [⟨"r1", "", .always, as⟩]) 1
      [.leaf (head "name" [⟨"r2", "", ⟨.and, [ada]⟩, [⟨"a", .show, "name", none⟩]⟩]) (.text {})],
    .leaf (head "total" []) (.calculated { formula := "\x7bname" })]⟩

/-- The field inside is shown again by its own rule, which reads the input and not the value that the
group's rule sets; the calculated field shows its formula in spite of the value set. -/
theorem evaluate_settles_ruledTree :
    let as : List Action := [⟨"a1", .hide, "name", none⟩, ⟨"a2", .disable, "name", none⟩,
      ⟨"a3", .setValue, "name", some (.text "Bob")⟩, ⟨"a4", .setValue, "total", none⟩,
      ⟨"a5", .other "blink", "name", none⟩, ⟨"a6", .hide, "nobody", none⟩]
    let inputs : Inputs := ⟨[("name", .text "Ada")]⟩
    let c : CalculatedConfig := { formula := "\x7bname" }
    ((ruledTree as).flatten.map (·.id)).Nodup ∧
      ((ruledTree as).evaluate inputs).rows = [("box", ⟨true, false, none⟩),
        ("name", ⟨true, true, some (.text "Bob")⟩),
        ("total", ⟨true, false, some (.text (c.calculate inputs))⟩)] ∧
      ((ruledTree []).evaluate inputs).value? "total"
        = ((ruledTree as).evaluate inputs).value? "total" := by
  intro as inputs c
  have ht : ((ruledTree as).flatten.map (·.id)).Nodup := by decide
  have hsame : List.Forall₂ Field.SameUpToActions (ruledTree as).flatten (ruledTree []).flatten :=
    .cons ⟨rfl, rfl, rfl⟩ (.cons ⟨rfl, rfl, rfl⟩ (.cons ⟨rfl, rfl, rfl⟩ .nil))
  let total : Field := .leaf ⟨"total", "", none, [], [], none, false⟩ (.calculated c)
  have htotal : total ∈ (ruledTree as).flatten :=
    List.mem_cons_of_mem _ (List.mem_cons_of_mem _ (List.mem_cons_self ..))
  exact ⟨ht, (evaluate_settles ht inputs).1.trans rfl,
    ((evaluate_settles ht inputs).2.2 (ruledTree []) hsame).2 total htotal rfl⟩

end Tree

end FormBuilder
