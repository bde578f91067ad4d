/-
Fields that share an id. A lookup means the first of them in the order of a visit, but a form that is
opened and filled in heeds the others too: every field overwrites the default of the namesakes before it,
and every calculated field the value. So a lookup tells what an id stands for exactly as long as the later
namesakes have neither defaults nor formulas. Whether a field can be changed is told by the first one.
-/
import FormBuilder.Proofs.Form.Seed
import FormBuilder.Proofs.State
import FormBuilder.Proofs.Tree.Resolve

namespace FormBuilder

namespace Tree

variable {t : Tree} {id : String} {f : Field}

/-- A lookup means the first of the fields that share an id. -/
theorem exists_namesakes (h : t.find? id = some f) :
    ∃ later, t.flatten.filter (·.id == id) = f :: later := by
  rw [find?_eq_find?_flatten, ← List.head?_filter] at h
  exact List.head?_eq_some_iff.1 h

/-! ## States -/

theorem get?_initialState (h : t.find? id = some f) (inputs : Inputs) :
    (t.initialState inputs).get? id = some (.initial inputs f) := by
  rw [find?_eq_find?_flatten] at h
  refine (Table.get?_foldl_add Field.id (FieldState.initial inputs) t.flatten .empty id).trans ?_
  rw [h]
  rfl

/-- Of several formulas the last one counts. -/
theorem foldl_calculated (inputs : Inputs) (s : FieldState) (fs : List Field) :
    fs.foldl (fun s f => f.calculated inputs s) s = { s with
      value := ((Field.last? Field.formula? fs).map fun c => .text (c.calculate inputs)).or s.value } := by
  induction fs generalizing s with
  | nil => rfl
  | cons f fs ih =>
    rw [List.foldl_cons, ih, Field.last?_cons, Field.calculated]
    cases f.formula? with
    | none => rw [Option.or_none]
    | some c => cases Field.last? Field.formula? fs <;> rfl

theorem get?_evaluate (h : t.find? id = some f) {later : List Field}
    (hlater : t.flatten.filter (·.id == id) = f :: later) (inputs : Inputs) :
    let s := f.settled inputs (t.firedActions inputs)
    (t.evaluate inputs).get? id = some { s with
      value := ((Field.last? Field.formula? later).map fun c => .text (c.calculate inputs)).or s.value } := by
  intro s
  obtain rfl : f.id = id := by
    have hmem : f ∈ t.flatten.filter (·.id == id) := hlater ▸ List.mem_cons_self ..
    simpa using (List.mem_filter.1 hmem).2
  -- the row of the first field, changed by the actions, and then by the formulas of all namesakes
  have hactions : ((t.firedActions inputs).foldl (fun s a => a.apply s) (t.initialState inputs)).get? f.id
      = _ := Table.get?_foldl_update Action.target Action.applyTo (t.firedActions inputs) _ f.id
  rw [evaluate, actions_eq_firedActions, calculateField_eq, Table.get?_foldl_update, hactions,
    get?_initialState h, hlater, Option.map_some, Option.map_some, List.foldl_cons, ← Field.settled_eq,
    foldl_calculated]

/-- What an id of a form stands for that several fields may have. When it is opened, the id has the last
default of its fields, unless the address gives it a value; before rules apply, it can be changed if its
first field can; and then the actions settle its state as that of its first field, but it shows the last
formula of its fields. -/
theorem namesakes_settle (h : t.find? id = some f) :
    ∃ later, t.flatten.filter (·.id == id) = f :: later ∧
      (∀ settings params, (∀ m ∈ settings.urlMappings, m.target = id → m.value? params = none) →
        (seed t settings params).get? id
          = (Field.last? (·.head.defaultValue) later).or f.head.defaultValue) ∧
      ∀ inputs, let s := f.settled inputs (t.firedActions inputs)
        (t.initialState inputs).get? id = some (.initial inputs f) ∧
        (t.evaluate inputs).get? id = some { s with value :=
          ((Field.last? Field.formula? later).map fun c => .text (c.calculate inputs)).or s.value } := by
  obtain ⟨later, hlater⟩ := exists_namesakes h
  refine ⟨later, hlater, fun settings params hmappings => ?_, fun inputs =>
    ⟨get?_initialState h inputs, get?_evaluate h hlater inputs⟩⟩
  have hnone : settings.mapped? params id = none := by
    rw [FormSettings.mapped?, List.getLast?_eq_none_iff, List.filterMap_eq_nil_iff]
    intro m hm
    obtain ⟨hmem, htarget⟩ := List.mem_filter.1 hm
    rw [hmappings m hmem (by simpa using htarget)]
    rfl
  rw [get?_seed, hnone, get?_defaults, hlater, Field.last?_cons]
  rfl

/-- A text that cannot be changed, and a calculated field of the same id: a lookup means the text, but
the id starts with the default of the other field and shows its formula. -/
theorem namesakes_settle_textAndFormula :
    let head value readOnly : Field.Head := ⟨"a", "", some (.text value), [], [], none, readOnly⟩
    let c : CalculatedConfig := { formula := "1 + 2" }
    let f : Field := .leaf (head "first" true) (.text {})
    let t : Tree := ⟨[f, .leaf (head "second" false) (.calculated c)]⟩
    let inputs := seed t .initial []
    t.find? "a" = some f ∧ inputs.get? "a" = some (.text "second") ∧
      (t.evaluate inputs).get? "a" = some ⟨true, true, some (.text (c.calculate inputs))⟩ := by
  intro head c f t inputs
  have hfind : t.find? "a" = some f := rfl
  obtain ⟨later, hlater, hseed, hstate⟩ := namesakes_settle hfind
  obtain rfl : later = [.leaf (head "second" false) (.calculated c)] := (List.cons.inj hlater).2.symm
  exact ⟨hfind, hseed .initial [] nofun, (hstate inputs).2⟩

end Tree

end FormBuilder
