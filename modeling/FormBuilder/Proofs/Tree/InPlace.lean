/-
Edits that write into the field or the slot where they have found it. What such an edit has written
stays when it fails, so that each checks all that can go wrong first: then the field and the tree are as
before, and else as the edit gives them.
-/
import FormBuilder.Proofs.InPlace
import FormBuilder.Proofs.Tree.Patch
import FormBuilder.Proofs.Tree.Resolve

namespace FormBuilder

/-! ## Edits of a field -/

namespace Field

variable {α : Type}

@[simp] theorem head_withHead (f : Field) (h : Head) : (f.withHead h).head = h := by
  cases f <;> rfl

@[simp] theorem withHead_head (f : Field) : f.withHead f.head = f := by
  cases f <;> rfl

@[simp] theorem withHead_withHead (f : Field) (h h' : Head) :
    (f.withHead h).withHead h' = f.withHead h' := by
  cases f <;> rfl

def editOptionsInPlace (edit : List Choice → List Choice × α) : InPlace Unsupported Field α := do
  let f ← get
  match f.options? with
  | none => throw (f.unsupported "options")
  | some cs =>
    set (f.withOptions (edit cs).1)
    return (edit cs).2

def editTabsInPlace (edit : List (Tab Field) → List (Tab Field) × α) :
    InPlace Unsupported Field α := do
  match ← get with
  | .tabs h ts =>
    set (Field.tabs h (edit ts).1)
    return (edit ts).2
  | f => throw (f.unsupported "tabs")

theorem editOptionsInPlace_eq (edit : List Choice → List Choice × α) :
    editOptionsInPlace edit = .allOrNothing (editOptions · edit) := by
  funext f
  rw [editOptionsInPlace, InPlace.get_bind]
  dsimp only [InPlace.allOrNothing, editOptions]
  cases f.options? with
  | none => rfl
  | some cs => rfl

theorem editTabsInPlace_eq (edit : List (Tab Field) → List (Tab Field) × α) :
    editTabsInPlace edit = .allOrNothing (editTabs · edit) := by
  funext f
  cases f <;> rfl

end Field

namespace Patch

open InPlace

variable {α : Type}

/-- Writes a new value, if there is one, into what every field has. -/
def put (value : Option α) (write : α → Field.Head → Field.Head) : InPlace Tree.Error Field Unit :=
  match value with
  | some a => modify fun f => f.withHead (write a f.head)
  | none => return ()

/-- Gives a field other properties of its type, and then one value of the patch after the other. -/
def writeValues (p : Patch) (g : Field) : InPlace Tree.Error Field Unit := do
  modify fun f => g.withHead f.head
  put p.label fun label h => { h with label }
  put p.defaultValue fun defaultValue h => { h with defaultValue }
  put p.styles fun styles h => { h with styles }
  put p.rules fun rules h => { h with rules }
  put p.validation fun validation h => { h with validation }
  put p.readOnly fun readOnly h => { h with readOnly }

/-- Patches a field where it stands. -/
def write (p : Patch) : InPlace Tree.Error Field Unit := do
  let g ← check (p.mergeKind (← get))
  p.writeValues g

theorem writes_put {value : Option α} {write : α → Field.Head → Field.Head}
    (read : Field.Head → α) (hread : ∀ h, write (read h) h = h) :
    Writes (put value write) fun f => f.withHead (write (value.getD (read f.head)) f.head) := by
  intro f
  cases value with
  | some a => rfl
  | none =>
    have hsame : f.withHead (write (read f.head) f.head) = f := by rw [hread, f.withHead_head]
    exact congrArg (EStateM.Result.ok ()) hsame.symm

theorem writes_writeValues (p : Patch) (g : Field) :
    Writes (p.writeValues g) fun f => g.withHead (p.patchHead f.head) := by
  have hall : Writes (p.writeValues g) _ :=
    (writes_modify fun f => g.withHead f.head).next <|
    (writes_put Field.Head.label fun _ => by rfl).next <|
    (writes_put Field.Head.defaultValue fun _ => by rfl).next <|
    (writes_put Field.Head.styles fun _ => by rfl).next <|
    (writes_put Field.Head.rules fun _ => by rfl).next <|
    (writes_put Field.Head.validation fun _ => by rfl).next <|
    writes_put Field.Head.readOnly fun _ => by rfl
  intro f
  refine (hall f).trans ?_
  simp only [Function.comp_apply, Field.head_withHead, Field.withHead_withHead]
  rfl

theorem write_eq (p : Patch) : p.write = .allOrNothing fun f => (p.apply f).map (·, ()) := by
  funext f
  rw [write, get_bind]
  dsimp only [allOrNothing, apply]
  cases h : p.mergeKind f with
  | error e => rfl
  | ok g =>
    refine (p.writes_writeValues g f).trans ?_
    exact congrArg (fun head => EStateM.Result.ok () (g.withHead (p.patchHead head)))
      (head_type_of_mergeKind h).1.symm

/-- A patch with a property that cannot be patched is refused for one. -/
theorem mergeKind_of_protected {p : Patch} (f : Field)
    (h : ∃ e ∈ p.properties, isProtected e.1 = true) :
    ∃ key, isProtected key = true ∧ p.mergeKind f = .error (.protectedKey key) := by
  obtain ⟨e, he, hprotected⟩ := h
  have hempty : p.properties.isEmpty = false := by
    rw [List.isEmpty_eq_false_iff_exists_mem]
    exact ⟨e, he⟩
  rw [mergeKind, hempty]
  cases hfind : p.properties.find? fun e => isProtected e.1 with
  | none => exact absurd hprotected (List.find?_eq_none.1 hfind e he)
  | some e' => exact ⟨e'.1, List.find?_some (p := fun e : String × Json => isProtected e.1) hfind, rfl⟩

end Patch

/-! ## Edits of a tree -/

namespace Tree

open InPlace

variable {ε α : Type}

/-- Puts a field into a slot, or stops where the tree has no such slot. -/
def insertInPlace (target : Slot) (f : Field) (position : Option Nat) : InPlace Error Tree Nat :=
  fun t =>
    match t.edit? (inserting target f position) with
    | some (t', index) => .ok index t'
    | none => .error (.slotNotFound target) t

/-- Changes a field where it stands, if there is one with the id. What is written into the field stays
in the tree, also when the change fails. -/
def modifyInPlace (id : String) (change : InPlace ε Field α) : InPlace ε Tree (Option α) := fun t =>
  let written (f : Field) : Field × Except ε α :=
    match change f with
    | .ok a g => (g, .ok a)
    | .error e g => (g, .error e)
  match t.modify? id written with
  | none => .ok none t
  | some (t', .ok a) => .ok (some a) t'
  | some (t', .error e) => .error e t'

theorem insertInPlace_eq (target : Slot) (f : Field) (position : Option Nat) :
    insertInPlace target f position = .allOrNothing (·.insert target f position) := by
  funext t
  dsimp only [insertInPlace, allOrNothing, insert]
  cases t.edit? (inserting target f position) with
  | none => rfl
  | some r => rfl

theorem ResolvesTo.replace {t : Tree} {id : String} {f : Field} {p : Path} {pre post : List Field}
    (h : t.ResolvesTo id f p pre post) (g : Field) :
    t.replace id g = ⟨p.fill (pre ++ g :: post)⟩ := by
  rw [Tree.replace, h.modify]
  rfl

theorem modifyInPlace_eq (id : String) (change : Field → Except ε (Field × α)) :
    modifyInPlace id (.allOrNothing change) = .allOrNothing fun t =>
      match t.find? id with
      | none => .ok (t, none)
      | some f => (change f).map fun (g, a) => (t.replace id g, some a) := by
  funext t
  have hresolve := (operations_resolve t id).1
  rw [← find?_eq_find?_flatten] at hresolve
  dsimp only [modifyInPlace, allOrNothing]
  cases hfind : t.find? id with
  | none =>
    rw [hfind] at hresolve
    rw [hresolve.modify]
  | some f =>
    rw [hfind] at hresolve
    obtain ⟨p, pre, post, hresolves⟩ := hresolve
    rw [hresolves.modify]
    dsimp only
    cases change f with
    | ok r =>
      show EStateM.Result.ok (some r.2) (Tree.mk (p.fill (pre ++ r.1 :: post)))
        = .ok (some r.2) (t.replace id r.1)
      rw [hresolves.replace]
    | error e =>
      -- the field is put back where it was found, which is the tree it came from
      show EStateM.Result.error e (Tree.mk (p.fill (pre ++ f :: post))) = .error e t
      rw [← hresolves.tree]

end Tree

end FormBuilder
