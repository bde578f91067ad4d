/-
What can be done in a session, and what it does. An operation that is refused leaves the session as
it is; what one that succeeds does to the fields and to the selection is told once, with all that it
requires. What holds of operations and of runs of them follows by cases.
-/
import FormBuilder.Proofs.Drag
import FormBuilder.Proofs.Field.Names
import FormBuilder.Proofs.Tree.Exchange
import FormBuilder.Proofs.Workspace.Request
import FormBuilder.Session

namespace FormBuilder

/-! ## Drops -/

namespace Drag

/-- What a drop does to a tree: nothing, or it inserts a new field, or moves one. -/
inductive Drops (t : Tree) (fresh : FreshIds) : Drop → Prop where
  | nothing {d : Drop} (htree : d.tree = t) (hnew : ∀ id slot, d.outcome ≠ .inserted id slot) :
    Drops t fresh d
  | inserts {d : Drop} {type : FieldType} {subtype : Option TextSubtype} {slot : Slot} {index : Nat}
    (hinsert : t.insert slot (.new (fresh 0) type subtype (fresh.skip 1)) none = .ok (d.tree, index))
    (houtcome : d.outcome = .inserted (fresh 0) slot) : Drops t fresh d
  | moves {d : Drop} {id : String} {rest : Tree} {f : Field} {slot : Slot} {position : Option Nat}
    {index : Nat} (hremove : t.remove? id = some (rest, f))
    (hinsert : rest.insert slot f position = .ok (d.tree, index))
    (houtcome : d.outcome = .moved id slot) : Drops t fresh d

variable {t : Tree} {fresh : FreshIds}

theorem drops_dropNew (type : FieldType) (subtype : Option TextSubtype) (target : Target) :
    Drops t fresh (dropNew t (.new (fresh 0) type subtype (fresh.skip 1)) target) := by
  rcases dropNew_cases t (.new (fresh 0) type subtype (fresh.skip 1)) target with
    ⟨houtcome, htree⟩ | ⟨slot, index, hinsert, houtcome⟩
  · exact .nothing htree (by rw [houtcome]; nofun)
  · exact .inserts hinsert (by rw [houtcome, id_new])

theorem drops_dropExisting (id : String) (target : Target) :
    Drops t fresh (dropExisting t id target) := by
  rcases dropExisting_cases t id target with
    ⟨houtcome, htree⟩ | ⟨rest, f, slot, position, index, hremove, hinsert, houtcome⟩
  · exact .nothing htree (by rw [houtcome]; nofun)
  · exact .moves hremove hinsert houtcome

theorem drops_drop (dragging : Option Payload) (target : Option Target) :
    Drops t fresh (drop dragging target t fresh) := by
  unfold drop
  split
  · exact drops_dropNew _ _ _
  · exact drops_dropExisting _ _
  · exact .nothing rfl nofun

end Drag

/-! ## Edits of a field -/

namespace Field

variable {f g : Field} {α : Type} {a : α}

/-- Options hold no fields. -/
theorem sameNames_of_editOptions {edit : List Choice → List Choice × α}
    (h : f.editOptions edit = .ok (g, a)) : f.SameNames g := by
  unfold editOptions at h
  split at h
  · cases h
  · cases h
    cases f with
    | leaf | group | repeater | tabs | abTest => exact ⟨rfl, rfl⟩

theorem tabs_of_editTabs {edit : List (Tab Field) → List (Tab Field) × α}
    (h : f.editTabs edit = .ok (g, a)) :
    ∃ head ts, f = .tabs head ts ∧ g = .tabs head (edit ts).1 ∧ a = (edit ts).2 := by
  unfold editTabs at h
  split at h
  · cases h
    exact ⟨_, _, rfl, rfl, rfl⟩
  · cases h

end Field

namespace Session

variable {σ : Type}

/-! ## Operations -/

/-- What is done in a session, with the fresh ids, and the store and the library, that it needs. -/
inductive Operation (σ : Type) where
  | addField (target : Slot) (type : FieldType) (subtype : Option TextSubtype)
    (position : Option Nat) (fresh : FreshIds)
  | removeField (id : String)
  | updateField (id : String) (p : Patch)
  | addOption (id label : String) (fresh : FreshIds)
  | removeOption (id option : String)
  | renameOption (id option label : String)
  | addTab (id label : String) (fresh : FreshIds)
  | removeTab (id tab : String)
  | select (id : Option String)
  | beginDrag (source : Drag.Source) (fresh : FreshIds)
  | drop (target : Option Drag.Target) (fresh : FreshIds)
  | cancelDrag
  | withSettings (settings : FormSettings)
  | save (store : Store σ) (lib : Library σ) (who : Identity) (now : Timestamp)

/-- The session after an attempt. One that fails changes nothing. -/
def orStay {ε α : Type} (s : Session) : Except ε (Session × α) → Session
  | .ok (s', _) => s'
  | .error _ => s

namespace Operation

def run (s : Session) : Operation σ → Session
  | .addField target type subtype position fresh =>
    s.orStay (s.addField target type subtype position fresh)
  | .removeField id => ((s.removeField id).map (·.1)).getD s
  | .updateField id p => s.orStay (s.updateField id p)
  | .addOption id label fresh => s.orStay (s.addOption id label fresh)
  | .removeOption id option => s.orStay (s.removeOption id option)
  | .renameOption id option label => s.orStay (s.renameOption id option label)
  | .addTab id label fresh => s.orStay (s.addTab id label fresh)
  | .removeTab id tab => s.orStay (s.removeTab id tab)
  | .select id => s.select id
  | .beginDrag source fresh => s.beginDrag source fresh
  | .drop target fresh => (s.drop target fresh).1
  | .cancelDrag => s.cancelDrag
  | .withSettings settings => s.withSettings settings
  | .save store lib who now => s.orStay (s.save store lib who now)

/-- The stock from which an operation gives ids to fields or tabs of the form. -/
def stock? : Operation σ → Option FreshIds
  | .addField _ _ _ _ fresh | .addTab _ _ fresh | .drop _ fresh => some fresh
  | _ => none

def patch? : Operation σ → Option Patch
  | .updateField _ p => some p
  | _ => none

end Operation

/-! ## Runs -/

/-- An operation has a property in every state in which it is done. -/
def Along (P : Session → Operation σ → Prop) : Session → List (Operation σ) → Prop
  | _, [] => True
  | s, op :: ops => P s op ∧ Along P (op.run s) ops

/-- Every state that is reached has a property, the first one included. -/
def Throughout (P : Session → Prop) : Session → List (Operation σ) → Prop
  | s, [] => P s
  | s, op :: ops => P s ∧ Throughout P (op.run s) ops

/-- What every operation keeps that is allowed, a run of allowed operations keeps. -/
theorem throughout_of_step {P : Session → Prop} {allowed : Session → Operation σ → Prop}
    (hstep : ∀ s op, P s → allowed s op → P (op.run s)) : ∀ {s : Session} {ops : List (Operation σ)},
    P s → Along allowed s ops → Throughout P s ops
  | _, [], hs, _ => hs
  | s, op :: _, hs, hall => ⟨hs, throughout_of_step hstep (hstep s op hs hall.1) hall.2⟩

/-! ## What an operation does -/

/-- What an operation does to the fields of the form and to the selection. -/
inductive Effects (s : Session) : Operation σ → Session → Prop where
  | stays {op : Operation σ} {s' : Session} (htree : s'.tree = s.tree)
    (hselected : s'.selected = s.selected) : Effects s op s'
  | selects {id : Option String} {s' : Session} (htree : s'.tree = s.tree)
    (hselected : s'.selected = id) : Effects s (.select id) s'
  | picks {source : Drag.Source} {fresh : FreshIds} {f : Field} {id : String} {s' : Session}
    (hfind : s.tree.find? id = some f) (htree : s'.tree = s.tree)
    (hselected : s'.selected = some f.id) : Effects s (.beginDrag source fresh) s'
  | adds {op : Operation σ} {fresh : FreshIds} {type : FieldType} {subtype : Option TextSubtype}
    {slot : Slot} {position : Option Nat} {index : Nat} {s' : Session}
    (hstock : op.stock? = some fresh)
    (hinsert : s.tree.insert slot (.new (fresh 0) type subtype (fresh.skip 1)) position
      = .ok (s'.tree, index))
    (hselected : s'.selected = some (fresh 0)) : Effects s op s'
  | removes {id : String} {f : Field} {s' : Session} (hremove : s.tree.remove? id = some (s'.tree, f))
    (hselected : s'.selected = none) : Effects s (.removeField id) s'
  | moves {target : Option Drag.Target} {fresh : FreshIds} {id : String} {rest : Tree} {f : Field}
    {slot : Slot} {position : Option Nat} {index : Nat} {s' : Session}
    (hremove : s.tree.remove? id = some (rest, f))
    (hinsert : rest.insert slot f position = .ok (s'.tree, index))
    (hselected : s'.selected = s.selected) : Effects s (.drop target fresh) s'
  | keepsNames {op : Operation σ} {id : String} {f g : Field} {s' : Session}
    (hfind : s.tree.find? id = some f) (hnames : f.SameNames g)
    (htree : s'.tree = s.tree.replace id g) (hselected : s'.selected = s.selected) : Effects s op s'
  | updates {id : String} {p : Patch} {f g : Field} {s' : Session}
    (hfind : s.tree.find? id = some f) (happly : p.apply f = .ok g)
    (htree : s'.tree = s.tree.replace id g) (hselected : s'.selected = s.selected) :
    Effects s (.updateField id p) s'
  | addsTab {id label : String} {fresh : FreshIds} {head : Field.Head} {ts : List (Tab Field)}
    {s' : Session} (hfind : s.tree.find? id = some (.tabs head ts))
    (htree : s'.tree = s.tree.replace id (.tabs head (ts ++ [⟨fresh 0, label, []⟩])))
    (hselected : s'.selected = s.selected) : Effects s (.addTab id label fresh) s'
  | removesTab {id tab : String} {head : Field.Head} {ts : List (Tab Field)} {s' : Session}
    (hfind : s.tree.find? id = some (.tabs head ts))
    (htree : s'.tree = s.tree.replace id (.tabs head (ts.eraseP (·.id == tab))))
    (hselected : s'.selected = s.selected.filter s'.tree.contains) :
    Effects s (.removeTab id tab) s'

variable {s : Session}

theorem effects_of_addField (target : Slot) (type : FieldType) (subtype : Option TextSubtype)
    (position : Option Nat) (fresh : FreshIds) :
    Effects (σ := σ) s (.addField target type subtype position fresh)
      (s.orStay (s.addField target type subtype position fresh)) := by
  unfold addField
  dsimp only
  cases hinsert : s.tree.insert target (.new (fresh 0) type subtype (fresh.skip 1)) position with
  | error e => exact .stays rfl rfl
  | ok r => exact .adds rfl hinsert rfl

theorem effects_of_removeField (id : String) :
    Effects (σ := σ) s (.removeField id) (((s.removeField id).map (·.1)).getD s) := by
  unfold removeField
  cases hremove : s.tree.remove? id with
  | none => exact .stays rfl rfl
  | some r => exact .removes hremove rfl

/-- A patch is refused, and the session stays, or the patched field takes the place of the field. -/
theorem run_updateField (s : Session) (id : String) (p : Patch) :
    ((∀ f g, s.tree.find? id = some f → p.apply f ≠ .ok g) ∧
      (Operation.updateField id p : Operation σ).run s = s) ∨
    ∃ f g, s.tree.find? id = some f ∧ p.apply f = .ok g ∧
      (Operation.updateField id p : Operation σ).run s = s.withTree (s.tree.replace id g) := by
  have hrun : (Operation.updateField id p : Operation σ).run s = s.orStay (s.updateField id p) := rfl
  rw [hrun]
  unfold updateField Tree.update
  cases s.tree.find? id with
  | none => exact .inl ⟨nofun, rfl⟩
  | some f =>
    dsimp only
    cases happly : p.apply f with
    | error e =>
      refine .inl ⟨?_, rfl⟩
      intro f' g hf hg
      obtain rfl := Option.some.inj hf
      cases happly.symm.trans hg
    | ok g => exact .inr ⟨f, g, rfl, happly, rfl⟩

theorem effects_of_updateField (id : String) (p : Patch) :
    Effects (σ := σ) s (.updateField id p) ((Operation.updateField id p : Operation σ).run s) := by
  rcases run_updateField (σ := σ) s id p with ⟨-, hrun⟩ | ⟨f, g, hfind, happly, hrun⟩ <;> rw [hrun]
  · exact .stays rfl rfl
  · exact .updates hfind happly rfl rfl

/-- An edit that succeeds puts what the change gives in the place of the field. -/
theorem edit_eq_ok {α : Type} {id : String} {change : Field → Except Field.Unsupported (Field × α)}
    {s' : Session} {a : α} (h : s.edit id change = .ok (s', a)) :
    ∃ f g, s.tree.find? id = some f ∧ change f = .ok (g, a) ∧
      s' = s.withTree (s.tree.replace id g) := by
  unfold edit at h
  split at h
  · cases h
  split at h
  · cases h
  · rename_i f hfind _ g b hchange
    cases h
    exact ⟨f, g, hfind, hchange, rfl⟩

theorem effects_of_edit {α : Type} {op : Operation σ} {id : String}
    {change : Field → Except Field.Unsupported (Field × α)}
    (h : ∀ f g a, s.tree.find? id = some f → change f = .ok (g, a) →
      Effects s op (s.withTree (s.tree.replace id g))) :
    Effects s op (s.orStay (s.edit id change)) := by
  cases hedit : s.edit id change with
  | error e => exact .stays rfl rfl
  | ok r =>
    obtain ⟨f, g, hfind, hchange, hs⟩ := edit_eq_ok hedit
    rw [orStay, hs]
    exact h f g r.2 hfind hchange

/-- Edits of options put a field of the same names in the place of the field. -/
theorem effects_of_editOptions {α : Type} {op : Operation σ} {id : String}
    {edit : List Choice → List Choice × α} :
    Effects s op (s.orStay (s.edit id (Field.editOptions · edit))) :=
  effects_of_edit fun _ _ _ hfind hchange =>
    .keepsNames hfind (Field.sameNames_of_editOptions hchange) rfl rfl

theorem effects_of_addTab (id label : String) (fresh : FreshIds) :
    Effects (σ := σ) s (.addTab id label fresh) (s.orStay (s.addTab id label fresh)) := by
  refine effects_of_edit fun f g a hfind hchange => ?_
  obtain ⟨head, ts, rfl, rfl, -⟩ := Field.tabs_of_editTabs hchange
  exact .addsTab hfind rfl rfl

/-- The session without a selection that is not in the form. -/
def clearDangling (s : Session) : Session :=
  if s.selected.any fun i => !s.tree.contains i then s.select none else s

theorem tree_clearDangling (s : Session) : s.clearDangling.tree = s.tree := by
  unfold clearDangling
  split <;> rfl

theorem selected_clearDangling (s : Session) :
    s.clearDangling.selected = s.selected.filter s.tree.contains := by
  unfold clearDangling
  cases h : s.selected with
  | none => rw [Option.any_none, if_neg Bool.false_ne_true, h, Option.filter_none]
  | some i =>
    rw [Option.any_some, Option.filter_some]
    cases hcontains : s.tree.contains i with
    | true => exact h
    | false => rfl

theorem effects_of_removeTab (id tab : String) :
    Effects (σ := σ) s (.removeTab id tab) (s.orStay (s.removeTab id tab)) := by
  unfold removeTab
  cases hedit : s.edit id (Field.removeTab tab) with
  | error e => exact .stays rfl rfl
  | ok r =>
    obtain ⟨s', removed⟩ := r
    obtain ⟨f, g, hfind, hchange, hs⟩ := edit_eq_ok hedit
    obtain ⟨head, ts, rfl, rfl, -⟩ := Field.tabs_of_editTabs hchange
    have htree : s'.clearDangling.tree = s'.tree := tree_clearDangling s'
    have hselected := selected_clearDangling s'
    rw [← htree] at hselected
    subst hs
    exact .removesTab hfind htree hselected

theorem effects_of_beginDrag (source : Drag.Source) (fresh : FreshIds) :
    Effects (σ := σ) s (.beginDrag source fresh) (s.beginDrag source fresh) := by
  unfold beginDrag
  dsimp only
  split
  · rename_i f hpayload
    cases source with
    | control type subtype => cases hpayload
    | field id =>
      obtain ⟨g, hfind, hg⟩ := Option.map_eq_some_iff.1 hpayload
      cases hg
      exact .picks hfind rfl rfl
  · exact .stays rfl rfl

theorem effects_of_drop (target : Option Drag.Target) (fresh : FreshIds) :
    Effects (σ := σ) s (.drop target fresh) (s.drop target fresh).1 := by
  unfold drop
  dsimp only
  have hdrops : Drag.Drops s.tree fresh (Drag.drop s.dragging target s.tree fresh) :=
    Drag.drops_drop s.dragging target
  cases hdrops with
  | nothing htree hnew =>
    split
    · rename_i id slot houtcome
      exact absurd houtcome (hnew id slot)
    · exact .stays htree rfl
  | inserts hinsert houtcome =>
    rw [houtcome]
    exact .adds rfl hinsert rfl
  | moves hremove hinsert houtcome =>
    rw [houtcome]
    exact .moves hremove hinsert rfl

theorem effects_of_save (store : Store σ) (lib : Library σ) (who : Identity) (now : Timestamp) :
    Effects s (.save store lib who now) (s.orStay (s.save store lib who now)) := by
  unfold save
  cases h : lib.save store who s.form now with
  | error e => exact .stays rfl rfl
  | ok r =>
    obtain ⟨lib', f⟩ := r
    -- the copy that was saved differs in its time alone
    have htree : f.tree = s.form.tree := by
      cases Library.grants_of_save h <;> rfl
    exact .stays htree rfl

theorem effects_of_run (s : Session) (op : Operation σ) : Effects s op (op.run s) := by
  cases op with
  | addField target type subtype position fresh =>
    exact effects_of_addField target type subtype position fresh
  | removeField id => exact effects_of_removeField id
  | updateField id p => exact effects_of_updateField id p
  | addOption id label fresh => exact effects_of_editOptions
  | removeOption id option => exact effects_of_editOptions
  | renameOption id option label => exact effects_of_editOptions
  | addTab id label fresh => exact effects_of_addTab id label fresh
  | removeTab id tab => exact effects_of_removeTab id tab
  | select id => exact .selects rfl rfl
  | beginDrag source fresh => exact effects_of_beginDrag source fresh
  | drop target fresh => exact effects_of_drop target fresh
  | cancelDrag => exact .stays rfl rfl
  | withSettings settings => exact .stays rfl rfl
  | save store lib who now => exact effects_of_save store lib who now

end Session

end FormBuilder
