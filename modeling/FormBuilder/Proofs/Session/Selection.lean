/-
The selection of a session. Every operation that takes fields out of the form also sees to the
selection, but for patches: a patch can replace the fields inside a field, and the selection stays
with the field that is gone. This is the one way in which the selection comes to dangle.
-/
import FormBuilder.Proofs.Session.Operation

namespace FormBuilder

open Outline

/-! ## Fields that are lost -/

namespace Tree

variable {t : Tree} {id i : String} {f g : Field}

/-- What is lost when a field is replaced by another of its id was inside it. -/
theorem mem_inside_of_lost (hfind : t.find? id = some f) (hid : g.id = f.id)
    (hi : t.contains i = true) (hlost : (t.replace id g).contains i = false) :
    i ∈ f.inside.map (·.field.id) := by
  obtain ⟨s, stays, hout, hinto⟩ := exchanges_of_replace hfind g
  rw [contains_iff, (ids_perm hout).mem_iff, ids_append, Field.ids_block, Field.ids_marksInside] at hi
  rw [Bool.eq_false_iff, Ne, contains_iff, (ids_perm hinto).mem_iff, ids_append, Field.ids_block,
    hid] at hlost
  simp only [List.cons_append, List.mem_cons, List.mem_append, not_or] at hi hlost
  obtain ⟨hne, -, hstays⟩ := hlost
  rcases hi with hi | hi | hi
  · exact absurd hi hne
  · exact hi
  · exact absurd hi hstays

theorem contains_replace_of_sameNames (hfind : t.find? id = some f) (h : f.SameNames g)
    (hi : t.contains i = true) : (t.replace id g).contains i = true := by
  obtain ⟨s, hex⟩ := exchanges_of_replace hfind g
  refine hex.contains ?_ hi
  rw [Field.ids_block, Field.ids_block, h.id, h.ids]
  exact List.Subset.refl _

end Tree

namespace Session

variable {σ : Type} {s s' : Session} {op : Operation σ}

/-- What is selected is in the form. -/
def Anchored (s : Session) : Prop := ∀ i, s.selected = some i → s.tree.contains i = true

namespace Operation

/-- The operation does not select a field that is not in the form. -/
def SelectsKnown (s : Session) : Operation σ → Prop
  | .select id => ∀ i, id = some i → s.tree.contains i = true
  | _ => True

/-- The operation patches a field so that the selected one, which is inside it, is in the form no
longer. -/
def DropsSelected (s : Session) : Operation σ → Prop
  | .updateField id p => ∃ f g i, s.tree.find? id = some f ∧ p.apply f = .ok g ∧
      s.selected = some i ∧ i ∈ f.inside.map (·.field.id) ∧ (s.tree.replace id g).contains i = false
  | _ => False

/-- A patch that leaves the fields inside a field alone drops none of them. -/
theorem not_dropsSelected_of_keepsFields {p : Patch} (hp : p.KeepsFields) (s : Session)
    (id : String) : ¬ (updateField id p : Operation σ).DropsSelected s := by
  rintro ⟨f, g, i, hfind, happly, -, hi, hlost⟩
  obtain ⟨s', hex⟩ := Tree.exchanges_of_replace hfind g
  have hnames := hp.sameNames happly
  have hmem : i ∈ ids (g.block s') := by
    rw [Field.ids_block, hnames.ids, Field.ids_marksInside]
    exact List.mem_cons_of_mem _ hi
  rw [hex.contains_of_mem hmem] at hlost
  cases hlost

end Operation

/-! ## One operation -/

/-- The selection stays in the form, patches apart. -/
theorem Effects.anchored (h : Effects s op s') (hs : s.Anchored) (hselect : op.SelectsKnown s)
    (hpatch : op.patch? = none) : s'.Anchored := by
  intro i hi
  cases h with
  | stays htree hselected =>
    rw [htree]
    exact hs i (hselected.symm.trans hi)
  | selects htree hselected =>
    rw [htree]
    exact hselect i (hselected.symm.trans hi)
  | picks hfind htree hselected =>
    obtain ⟨p, pre, post, heq, rfl, hp, hpre⟩ := Tree.exists_fill_of_find? hfind
    have hid := Option.some.inj (hselected.symm.trans hi)
    rw [htree, heq, ← hid]
    exact (Tree.resolvesTo_fill hp hpre).contains
  | adds hstock hinsert hselected =>
    have hid := Option.some.inj (hselected.symm.trans hi)
    refine (Tree.exchanges_of_insert hinsert).contains_of_mem ?_
    rw [Field.ids_block, Drag.id_new, hid]
    exact List.mem_cons_self ..
  | removes hremove hselected => cases hselected.symm.trans hi
  | moves hremove hinsert hselected =>
    obtain ⟨_, hex⟩ := Tree.exchanges_of_move hremove hinsert
    refine hex.contains ?_ (hs i (hselected.symm.trans hi))
    rw [Field.ids_block, Field.ids_block]
    exact List.Subset.refl _
  | keepsNames hfind hnames htree hselected =>
    rw [htree]
    exact Tree.contains_replace_of_sameNames hfind hnames (hs i (hselected.symm.trans hi))
  | updates hfind happly htree hselected => cases hpatch
  | addsTab hfind htree hselected =>
    obtain ⟨_, hex⟩ := Tree.exchanges_of_replace hfind _
    rw [htree]
    refine hex.contains (fun j hj => ?_) (hs i (hselected.symm.trans hi))
    rw [Field.ids_block, Field.marksInside, Field.marksTabs_append, ids_append]
    exact List.mem_append_left _ hj
  | removesTab hfind htree hselected =>
    obtain ⟨-, hcontains⟩ := Option.filter_eq_some_iff.1 (hselected.symm.trans hi)
    exact hcontains

theorem anchored_updateField_iff {id : String} {p : Patch} (hs : s.Anchored) :
    ((Operation.updateField id p : Operation σ).run s).Anchored
      ↔ ¬ (Operation.updateField id p : Operation σ).DropsSelected s := by
  rcases run_updateField (σ := σ) s id p with ⟨hrefused, hrun⟩ | ⟨f, g, hfind, happly, hrun⟩ <;>
    rw [hrun]
  · constructor
    · rintro - ⟨f, g, i, hfind, happly, -⟩
      exact hrefused f g hfind happly
    · intro _
      exact hs
  · constructor
    · rintro hanchored ⟨f', g', i, hf, hg, hi, -, hlost⟩
      cases hfind.symm.trans hf
      cases happly.symm.trans hg
      exact Bool.false_ne_true (hlost.symm.trans (hanchored i hi))
    · intro hkept i hi
      cases hlost : (s.tree.replace id g).contains i with
      | true => exact hlost
      | false =>
        have hin := Tree.mem_inside_of_lost hfind (Patch.id_type_of_apply happly).1 (hs i hi) hlost
        exact absurd ⟨f, g, i, hfind, happly, hi, hin, hlost⟩ hkept

/-- An operation makes the selection dangle exactly when it is a patch that drops what is
selected. -/
theorem anchored_run_iff (hs : s.Anchored) (hselect : op.SelectsKnown s) :
    (op.run s).Anchored ↔ ¬ op.DropsSelected s := by
  cases op with
  | updateField id p => exact anchored_updateField_iff hs
  | _ => exact ⟨fun _ h => h, fun _ => (effects_of_run s _).anchored hs hselect rfl⟩

/-! ## Runs -/

theorem Throughout.start {P : Session → Prop} {ops : List (Operation σ)}
    (h : Throughout P s ops) : P s := by
  cases ops with
  | nil => exact h
  | cons op ops => exact h.1

/-- However a form is edited, what is selected is in the form in every state, unless the fields inside
a field are patched away together with the selected one; a patch that names no property which holds
fields never does that. -/
theorem anchored_throughout_iff (s : Session) (hs : s.Anchored) (ops : List (Operation σ))
    (hselect : Along Operation.SelectsKnown s ops) :
    (Throughout Anchored s ops ↔ Along (fun s op => ¬ op.DropsSelected s) s ops) ∧
    ∀ (t : Session) (id : String) (p : Patch), p.KeepsFields →
      ¬ (Operation.updateField id p : Operation σ).DropsSelected t := by
  refine ⟨?_, fun t id p hp => Operation.not_dropsSelected_of_keepsFields hp t id⟩
  -- on the operations; in both directions the session after the first of them is anchored
  induction ops generalizing s with
  | nil => exact ⟨fun _ => trivial, fun _ => hs⟩
  | cons op ops ih =>
    obtain ⟨hop, hselect⟩ := hselect
    have hstep := anchored_run_iff hs hop
    constructor
    · rintro ⟨-, hrest⟩
      have hnext : (op.run s).Anchored := hrest.start
      exact ⟨hstep.1 hnext, (ih _ hnext hselect).1 hrest⟩
    · rintro ⟨hkept, hrest⟩
      have hnext : (op.run s).Anchored := hstep.2 hkept
      exact ⟨hs, (ih _ hnext hselect).2 hrest⟩

/-- A group with one field in it, which is selected before the group is patched to hold none. -/
theorem anchored_throughout_patchedGroup :
    let head id : Field.Head := ⟨id, "", none, [], [], none, false⟩
    let group : Field := .group (head "group") 1 [.leaf (head "child") (.text {})]
    let s : Session := ⟨⟨"f", "o", ⟨[group]⟩, .initial, ⟨0, 0, 0⟩⟩, none, none⟩
    let ops : List (Operation Unit) := [.select (some "child"),
      .updateField "group" { properties := [("children", .array [])] }]
    s.Anchored ∧ Along Operation.SelectsKnown s ops ∧ ¬ Throughout Anchored s ops := by
  intro head group s ops
  have hs : s.Anchored := nofun
  have hselect : Along Operation.SelectsKnown s ops := by
    refine ⟨?_, trivial, trivial⟩
    rintro _ ⟨⟩
    rfl
  refine ⟨hs, hselect, fun hall => ?_⟩
  have hkept := (anchored_throughout_iff s hs ops hselect).1.1 hall
  exact hkept.2.1 ⟨group, .group (head "group") 1 [], "child", rfl, rfl, rfl, by decide, rfl⟩

end Session

end FormBuilder
