/-
Changing a tree at one place. Every change is one search in the order in which fields are visited,
which stops at the first slot or field that the change is for.
-/
import FormBuilder.Tree.Basic
import FormBuilder.Log

namespace FormBuilder

/-- A change of a tree: what becomes of a slot when the search comes to it, before its fields, and
what a field is replaced by; nothing where the search goes on. -/
structure Tree.Edit (α : Type) where
  slot : Slot → List Field → Option (List Field × α)
  field : Field → Option (List Field × α)

namespace Field

variable {α : Type}

mutual

/-- Searches what is inside a field. -/
def editInside (e : Tree.Edit α) : Field → Option (Field × α)
  | .leaf _ _ => none
  | .group h n cs =>
    ((e.slot (.children h.id) cs).or (editAmong e cs)).map fun (cs, a) => (.group h n cs, a)
  | .repeater h l cs =>
    ((e.slot (.children h.id) cs).or (editAmong e cs)).map fun (cs, a) => (.repeater h l cs, a)
  | .tabs h ts => (editTabsInside e h.id ts).map fun (ts, a) => (.tabs h ts, a)
  | .abTest h va vb =>
    (((e.slot (.variant h.id .a) va).or (editAmong e va)).map fun (va, a) =>
        (.abTest h va vb, a)).or
      (((e.slot (.variant h.id .b) vb).or (editAmong e vb)).map fun (vb, a) =>
        (.abTest h va vb, a))

/-- Searches the fields of a slot and what is inside them. -/
def editAmong (e : Tree.Edit α) : List Field → Option (List Field × α)
  | [] => none
  | f :: fs =>
    match e.field f with
    | some (new, a) => some (new ++ fs, a)
    | none =>
      match editInside e f with
      | some (f, a) => some (f :: fs, a)
      | none => (editAmong e fs).map fun (fs, a) => (f :: fs, a)

def editTabsInside (e : Tree.Edit α) (id : String) : List (Tab Field) → Option (List (Tab Field) × α)
  | [] => none
  | ⟨tab, label, cs⟩ :: ts =>
    match (e.slot (.tab id tab) cs).or (editAmong e cs) with
    | some (cs, a) => some (⟨tab, label, cs⟩ :: ts, a)
    | none => (editTabsInside e id ts).map fun (ts, a) => (⟨tab, label, cs⟩ :: ts, a)

end

end Field

namespace Tree

variable {α : Type}

/-- Makes a change at the first place that it is for. -/
def edit? (e : Edit α) (t : Tree) : Option (Tree × α) :=
  ((e.slot .root t.fields).or (Field.editAmong e t.fields)).map fun (fs, a) => (⟨fs⟩, a)

/-! ## Insertion -/

/-- The index of an insertion: the position, or the end of the slot where there is no position or it
lies behind the end. -/
def clamp (position : Option Nat) (length : Nat) : Nat :=
  match position with
  | none => length
  | some p => min p length

/-- Puts a field into the first slot with an address, and tells its index. -/
def inserting (target : Slot) (f : Field) (position : Option Nat) : Edit Nat where
  slot slot fs :=
    if slot = target then
      let index := clamp position fs.length
      some (fs.insertIdx index f, index)
    else none
  field _ := none

/-- Inserts a field into a slot at a position, or at its end. -/
def insert (t : Tree) (target : Slot) (f : Field) (position : Option Nat) :
    Except Error (Tree × Nat) :=
  match t.edit? (inserting target f position) with
  | some r => .ok r
  | none => .error (.slotNotFound target)

def insertLog (target : Slot) (id : String) (index : Nat) : Log.Entry :=
  Log.debug ("Inserted field '" ++ id ++ "' into '" ++ target.display ++ "' at " ++ toString index)

/-! ## Removal -/

def removing (id : String) : Edit Field where
  slot _ _ := none
  field f := if f.id == id then some ([], f) else none

/-- Takes out a field with everything inside it. -/
def remove? (t : Tree) (id : String) : Option (Tree × Field) := t.edit? (removing id)

def removeLog (id : String) : Log.Entry := Log.debug ("Removed field '" ++ id ++ "'")

/-! ## Modification -/

def modifying (id : String) (change : Field → Field × α) : Edit α where
  slot _ _ := none
  field f := if f.id == id then some ([(change f).1], (change f).2) else none

/-- Changes a field, and tells what the change tells. -/
def modify? (t : Tree) (id : String) (change : Field → Field × α) : Option (Tree × α) :=
  t.edit? (modifying id change)

/-- Puts another field in the place of a field. -/
def replace (t : Tree) (id : String) (f : Field) : Tree :=
  ((t.modify? id fun _ => (f, ())).map (·.1)).getD t

end Tree

end FormBuilder
