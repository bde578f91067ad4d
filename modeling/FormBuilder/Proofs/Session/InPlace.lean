/-
Operations of a session that write where things stand: into the session, into the one field that they
edit, and into the library. One that stops with an error undoes nothing, and what it has written until
then stays. Nevertheless it leaves everything as it was, because every operation checks all that can go
wrong before it writes anything.
-/
import FormBuilder.Proofs.Session.Operation
import FormBuilder.Proofs.Tree.InPlace
import FormBuilder.Proofs.Workspace.Persistence

namespace FormBuilder

/-! ## Operations of a session -/

namespace Session

open InPlace

variable {ε α ρ : Type}

def onTree (act : InPlace ε Tree α) : InPlace ε Session α := .on tree withTree act

/-- Edits a field of the form where it stands. -/
def editInPlace (id : String) (change : InPlace Field.Unsupported Field α) :
    InPlace Tree.Error Session α := do
  match ← onTree (Tree.modifyInPlace id (change.adaptExcept .unsupported)) with
  | some a => return a
  | none => throw (.fieldNotFound id)

def addFieldInPlace (target : Slot) (type : FieldType) (subtype : Option TextSubtype)
    (position : Option Nat) (fresh : FreshIds) : InPlace Tree.Error Session (String × Nat) := do
  let id := fresh 0
  let index ← onTree (Tree.insertInPlace target (.new id type subtype (fresh.skip 1)) position)
  modify (select (some id))
  return (id, index)

def updateFieldInPlace (id : String) (p : Patch) : InPlace Tree.Error Session Bool := do
  let patched ← onTree (Tree.modifyInPlace id p.write)
  return patched.isSome

def removeTabInPlace (id tab : String) : InPlace Tree.Error Session (Option (Tab Field)) := do
  let removed ← editInPlace id (Field.editTabsInPlace fun ts =>
    (ts.eraseP (·.id == tab), ts.find? (·.id == tab)))
  modify clearDangling
  return removed

theorem onTree_allOrNothing (f : Tree → Except ε (Tree × α)) :
    onTree (.allOrNothing f)
      = .allOrNothing fun s => (f s.tree).map fun (t, a) => (s.withTree t, a) :=
  on_allOrNothing (fun _ => rfl) f

theorem editInPlace_eq (id : String) (change : Field → Except Field.Unsupported (Field × α)) :
    editInPlace id (.allOrNothing change) = .allOrNothing (edit id change) := by
  rw [editInPlace, adaptExcept_allOrNothing, Tree.modifyInPlace_eq, onTree_allOrNothing]
  funext s
  show EStateM.bind _ _ s = _
  dsimp only [EStateM.bind, allOrNothing, edit]
  cases s.tree.find? id with
  | none => rfl
  | some f =>
    dsimp only
    cases change f with
    | ok r => rfl
    | error e => rfl

theorem addFieldInPlace_eq (target : Slot) (type : FieldType) (subtype : Option TextSubtype)
    (position : Option Nat) (fresh : FreshIds) :
    addFieldInPlace target type subtype position fresh
      = .allOrNothing (addField target type subtype position fresh) := by
  rw [addFieldInPlace, Tree.insertInPlace_eq, onTree_allOrNothing]
  refine (allOrNothing_bind _ (fun index (s : Session) => (s.select (some (fresh 0)), (fresh 0, index)))
    fun _ _ => by rfl).trans ?_
  funext s
  dsimp only [allOrNothing, addField]
  cases s.tree.insert target (.new (fresh 0) type subtype (fresh.skip 1)) position with
  | ok r => rfl
  | error e => rfl

theorem updateFieldInPlace_eq (id : String) (p : Patch) :
    updateFieldInPlace id p = .allOrNothing (updateField id p) := by
  rw [updateFieldInPlace, Patch.write_eq, Tree.modifyInPlace_eq, onTree_allOrNothing]
  refine (allOrNothing_bind _ (fun (patched : Option Unit) s => (s, patched.isSome))
    fun _ _ => by rfl).trans ?_
  funext s
  dsimp only [allOrNothing, updateField, Tree.update]
  cases s.tree.find? id with
  | none => rfl
  | some f =>
    dsimp only
    cases p.apply f with
    | ok g => rfl
    | error e => rfl

theorem removeTabInPlace_eq (id tab : String) :
    removeTabInPlace id tab = .allOrNothing (removeTab id tab) := by
  rw [removeTabInPlace, Field.editTabsInPlace_eq, editInPlace_eq]
  exact allOrNothing_bind _ (fun removed (s : Session) => (s.clearDangling, removed))
    fun _ _ => by rfl

/-! ## Operations that can fail -/

/-- A session beside the library that keeps its form. -/
structure Desk (ρ : Type) where
  session : Session
  library : Library ρ

inductive Failure where
  | tree (e : Tree.Error)
  | library (e : Library.Error)

/-- What an operation tells that succeeds. -/
inductive Reply where
  | placed (id : String) (index : Nat)
  | found (b : Bool)
  | added (id : String)
  | removed (tab : Option (Tab Field))
  | saved

/-- The operations that can fail, with the fresh ids and the time that they need. -/
inductive Attempt where
  | addField (target : Slot) (type : FieldType) (subtype : Option TextSubtype)
    (position : Option Nat) (fresh : FreshIds)
  | updateField (id : String) (p : Patch)
  | addOption (id label : String) (fresh : FreshIds)
  | removeOption (id option : String)
  | renameOption (id option label : String)
  | addTab (id label : String) (fresh : FreshIds)
  | removeTab (id tab : String)
  | save (who : Identity) (now : Timestamp)

namespace Desk

def onSession (act : InPlace Tree.Error Session α) : InPlace Failure (Desk ρ) α :=
  .on session (fun s d => { d with session := s }) (act.adaptExcept .tree)

def onLibrary (act : InPlace Library.Error (Library ρ) α) : InPlace Failure (Desk ρ) α :=
  .on library (fun lib d => { d with library := lib }) (act.adaptExcept .library)

/-- Saves the form, and goes on with the form as it was saved. -/
def saveInPlace (r : Repository ρ) (who : Identity) (now : Timestamp) :
    InPlace Failure (Desk ρ) Unit := do
  let saved ← onLibrary (Library.saveInPlace r who (← get).session.form now)
  modify fun d => { d with session := { d.session with form := saved } }

/-- What an operation that gives a new session does to the desk. -/
def advance (d : Desk ρ) (reply : α → Reply) (result : Except Tree.Error (Session × α)) :
    Except Failure (Desk ρ × Reply) :=
  (result.mapError Failure.tree).map fun (s, a) => ({ d with session := s }, reply a)

theorem onSession_allOrNothing (f : Session → Except Tree.Error (Session × α)) (reply : α → Reply) :
    reply <$> (onSession (.allOrNothing f) : InPlace Failure (Desk ρ) α)
      = .allOrNothing fun d => d.advance reply (f d.session) := by
  rw [onSession, adaptExcept_allOrNothing, on_allOrNothing (fun _ => rfl), map_allOrNothing]
  funext d
  dsimp only [allOrNothing, advance]
  cases f d.session with
  | ok r => rfl
  | error e => rfl

end Desk

namespace Attempt

open Desk

/-- Does an operation in place. -/
def perform (r : Repository ρ) : Attempt → InPlace Failure (Desk ρ) Reply
  | .addField target type subtype position fresh =>
    (fun placed => .placed placed.1 placed.2) <$>
      onSession (addFieldInPlace target type subtype position fresh)
  | .updateField id p => .found <$> onSession (updateFieldInPlace id p)
  | .addOption id label fresh => .added <$> onSession (editInPlace id
      (Field.editOptionsInPlace fun cs => (cs ++ [Choice.ofLabel (fresh 0) label], fresh 0)))
  | .removeOption id option => .found <$> onSession (editInPlace id
      (Field.editOptionsInPlace fun cs => (cs.filter (·.id != option), cs.any (·.id == option))))
  | .renameOption id option label => .found <$> onSession (editInPlace id
      (Field.editOptionsInPlace fun cs =>
        (Field.relabel option label cs, cs.any (·.id == option))))
  | .addTab id label fresh => .added <$> onSession (editInPlace id
      (Field.editTabsInPlace fun ts => (ts ++ [⟨fresh 0, label, []⟩], fresh 0)))
  | .removeTab id tab => .removed <$> onSession (removeTabInPlace id tab)
  | .save who now => (fun _ => .saved) <$> saveInPlace r who now

/-- Gives the desk after an operation, if it succeeds. -/
def run (store : Store ρ) (d : Desk ρ) : Attempt → Except Failure (Desk ρ × Reply)
  | .addField target type subtype position fresh =>
    d.advance (fun placed => .placed placed.1 placed.2)
      (d.session.addField target type subtype position fresh)
  | .updateField id p => d.advance .found (d.session.updateField id p)
  | .addOption id label fresh => d.advance .added (d.session.addOption id label fresh)
  | .removeOption id option => d.advance .found (d.session.removeOption id option)
  | .renameOption id option label => d.advance .found (d.session.renameOption id option label)
  | .addTab id label fresh => d.advance .added (d.session.addTab id label fresh)
  | .removeTab id tab => d.advance .removed (d.session.removeTab id tab)
  | .save who now =>
    ((d.session.save store d.library who now).mapError Failure.library).map fun (s, lib) =>
      (⟨s, lib⟩, .saved)

/-- What is done to the session alone is done all or nothing. -/
theorem perform_eq (r : Repository ρ) (a : Attempt) (ha : ∀ who now, a ≠ .save who now) :
    a.perform r = .allOrNothing (a.run r.store) := by
  cases a with
  | addField target type subtype position fresh =>
    rw [perform, addFieldInPlace_eq, onSession_allOrNothing]
    rfl
  | updateField id p =>
    rw [perform, updateFieldInPlace_eq, onSession_allOrNothing]
    rfl
  | addOption id label fresh =>
    rw [perform, Field.editOptionsInPlace_eq, editInPlace_eq, onSession_allOrNothing]
    rfl
  | removeOption id option =>
    rw [perform, Field.editOptionsInPlace_eq, editInPlace_eq, onSession_allOrNothing]
    rfl
  | renameOption id option label =>
    rw [perform, Field.editOptionsInPlace_eq, editInPlace_eq, onSession_allOrNothing]
    rfl
  | addTab id label fresh =>
    rw [perform, Field.editTabsInPlace_eq, editInPlace_eq, onSession_allOrNothing]
    rfl
  | removeTab id tab =>
    rw [perform, removeTabInPlace_eq, onSession_allOrNothing]
    rfl
  | save who now => exact absurd rfl (ha who now)

theorem perform_save (r : Repository ρ) (d : Desk ρ) (who : Identity) (now : Timestamp) :
    (save who now).perform r d =
      match Library.saveInPlace r who d.session.form now d.library with
      | .ok saved lib => .ok .saved ⟨{ d.session with form := saved }, lib⟩
      | .error e lib => .error (.library e) { d with library := lib } := by
  have hsave : saveInPlace r who now d =
      match Library.saveInPlace r who d.session.form now d.library with
      | .ok saved lib => .ok () ⟨{ d.session with form := saved }, lib⟩
      | .error e lib => .error (.library e) { d with library := lib } := by
    rw [saveInPlace, get_bind]
    show EStateM.bind (onLibrary _) _ d = _
    dsimp only [EStateM.bind, onLibrary, InPlace.on, EStateM.adaptExcept]
    cases Library.saveInPlace r who d.session.form now d.library with
    | ok saved lib => rfl
    | error e lib => rfl
  show EStateM.map _ (saveInPlace r who now) d = _
  rw [EStateM.map, hsave]
  cases Library.saveInPlace r who d.session.form now d.library with
  | ok saved lib => rfl
  | error e lib => rfl

/-- What an operation comes to that is done in place: it gives what the operation gives otherwise, or
it fails as that does, and then session and workspace are as before. -/
def Atomic (r : Repository ρ) (d : Desk ρ) (a : Attempt) : Prop :=
  match a.perform r d with
  | .ok reply d' => a.run r.store d = .ok (d', reply)
  | .error e d' => a.run r.store d = .error e ∧ d'.session = d.session ∧
      d'.library.workspace = d.library.workspace

theorem atomic_save (r : Repository ρ) (d : Desk ρ) (who : Identity) (now : Timestamp) :
    Atomic r d (save who now) := by
  have houtcome : Library.Outcome r d.library true
      (Library.saveInPlace r who d.session.form now d.library)
      (d.library.save r.store who d.session.form now) := Library.outcome_save who d.session.form now
  rw [Atomic, perform_save, run, Session.save]
  generalize Library.saveInPlace r who d.session.form now d.library = result,
    d.library.save r.store who d.session.form now = saved, true = writes at houtcome ⊢
  cases houtcome with
  | answered a => exact rfl
  | denied he => exact ⟨rfl, rfl, rfl⟩
  | accepted a hkept => exact rfl
  | refused hkept => exact ⟨rfl, rfl, rfl⟩

theorem atomic (r : Repository ρ) (d : Desk ρ) (a : Attempt) : Atomic r d a := by
  by_cases ha : ∃ who now, a = .save who now
  · obtain ⟨who, now, rfl⟩ := ha
    exact atomic_save r d who now
  · have heq := perform_eq r a fun who now hsave => ha ⟨who, now, hsave⟩
    rw [Atomic, heq]
    dsimp only [allOrNothing]
    cases a.run r.store d with
    | ok result => rfl
    | error e => exact ⟨rfl, rfl, rfl⟩

/-- A patch that cannot give the field the properties of its type is refused with all that it
names. -/
theorem perform_updateField (r : Repository ρ) {d : Desk ρ} {id : String} {p : Patch} {f : Field}
    {e : Tree.Error} (hfind : d.session.tree.find? id = some f) (hmerge : p.mergeKind f = .error e) :
    (updateField id p).perform r d = .error (.tree e) d := by
  rw [perform_eq r _ (by rintro who now ⟨⟩)]
  dsimp only [allOrNothing, run, Session.updateField, Tree.update]
  rw [hfind]
  dsimp only [Patch.apply]
  rw [hmerge]
  rfl

/-- No operation that fails leaves a trace, wherever it has begun to write: the form, the selection, what
is dragged and the workspace are as before. So it is with a patch that names properties which its field
cannot have, or its id or its type, whatever else it names. -/
theorem attempts_atomic (r : Repository ρ) (d : Desk ρ) (a : Attempt) :
    a.Atomic r d ∧
    ∀ id p f, d.session.tree.find? id = some f →
      (∀ e, p.mergeKind f = .error e → (updateField id p).perform r d = .error (.tree e) d) ∧
      ((∃ e ∈ p.properties, Patch.isProtected e.1 = true) →
        ∃ key, Patch.isProtected key = true ∧
          (updateField id p).perform r d = .error (.tree (.protectedKey key)) d) := by
  refine ⟨atomic r d a, fun id p f hfind => ⟨fun e hmerge => perform_updateField r hfind hmerge, ?_⟩⟩
  intro hprotected
  obtain ⟨key, hkey, hmerge⟩ := Patch.mergeKind_of_protected f hprotected
  exact ⟨key, hkey, perform_updateField r hfind hmerge⟩

/-- A text field in a group is patched with a new label and a text that is no flag, and with a
placeholder and another type. -/
theorem attempts_atomic_mixedPatches :
    let head id : Field.Head := ⟨id, "", none, [], [], none, false⟩
    let child : Field := .leaf (head "child") (.text {})
    let s : Session := ⟨⟨"f", "o", ⟨[.group (head "group") 1 [child]]⟩, .initial, ⟨0, 0, 0⟩⟩,
      some "child", some (.existing child)⟩
    let d : Desk (Option Workspace × Bool) := ⟨s, ⟨.initial, none, false⟩⟩
    let unreadable : Patch := { label := some "Name", properties := [("required", .string "yes")] }
    let retyping : Patch := { readOnly := some true, properties :=
      [("placeholder", .string "Name"), ("type", .string "HtmlField")] }
    d.session.tree.find? "child" = some child ∧
      unreadable.mergeKind child = .error (.invalidPatch "child") ∧
      (updateField "child" unreadable).perform Library.fickle d
        = .error (.tree (.invalidPatch "child")) d ∧
      ∃ key, (updateField "child" retyping).perform Library.fickle d
        = .error (.tree (.protectedKey key)) d := by
  intro head child s d unreadable retyping
  have hfind : d.session.tree.find? "child" = some child := rfl
  have hmerge : unreadable.mergeKind child = .error (.invalidPatch "child") := rfl
  have hpatch (p : Patch) :=
    (attempts_atomic Library.fickle d (updateField "child" p)).2 "child" p child hfind
  obtain ⟨key, -, hretyping⟩ := (hpatch retyping).2
    ⟨("type", .string "HtmlField"), List.mem_cons_of_mem _ (List.mem_cons_self ..), rfl⟩
  exact ⟨hfind, hmerge, (hpatch unreadable).1 _ hmerge, key, hretyping⟩

end Attempt

end Session

end FormBuilder
