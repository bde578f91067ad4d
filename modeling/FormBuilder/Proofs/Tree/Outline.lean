/-
The outline of a tree: the slots and fields that a visit comes to, in its order, where each field
stands without what is inside it. The outline of a field does not depend on the contents of its
slots, so an edit of one slot leaves the rest of the outline as it is.
-/
import FormBuilder.Tree.Edit

namespace FormBuilder

/-! ## Shells -/

/-- The field with all its slots emptied. -/
def Field.shell : Field → Field
  | .leaf h k => .leaf h k
  | .group h n _ => .group h n []
  | .repeater h l _ => .repeater h l []
  | .tabs h ts => .tabs h (ts.map fun t => { t with children := [] })
  | .abTest h _ _ => .abTest h [] []

@[simp] theorem Field.id_shell (f : Field) : f.shell.id = f.id := by
  cases f <;> rfl

/-- The field and everything inside it, in the order in which it is visited. -/
def Field.subtree (f : Field) : List Field := f :: f.inside.map (·.field)

/-! ## Marks -/

/-- What a visit comes to. -/
inductive Mark where
  | slot (slot : Slot)
  | field (slot : Slot) (shell : Field)

namespace Mark

def slot? : Mark → Option Slot
  | .slot s => some s
  | .field _ _ => none

def place? : Mark → Option (Slot × Field)
  | .slot _ => none
  | .field s f => some (s, f)

end Mark

namespace Outline

/-- The addresses of the slots. -/
def addresses (ms : List Mark) : List Slot := ms.filterMap Mark.slot?

/-- The fields without what is inside them, each with its slot. -/
def places (ms : List Mark) : List (Slot × Field) := ms.filterMap Mark.place?

def ids (ms : List Mark) : List String := (places ms).map (·.2.id)

@[simp] theorem addresses_nil : addresses [] = [] := rfl

@[simp] theorem addresses_slot (s : Slot) (ms : List Mark) : addresses (.slot s :: ms) = s :: addresses ms := rfl

@[simp] theorem addresses_field (s : Slot) (f : Field) (ms : List Mark) :
    addresses (.field s f :: ms) = addresses ms := rfl

@[simp] theorem addresses_append (ms ns : List Mark) : addresses (ms ++ ns) = addresses ms ++ addresses ns :=
  List.filterMap_append

@[simp] theorem places_nil : places [] = [] := rfl

@[simp] theorem places_slot (s : Slot) (ms : List Mark) : places (.slot s :: ms) = places ms := rfl

@[simp] theorem places_field (s : Slot) (f : Field) (ms : List Mark) :
    places (.field s f :: ms) = (s, f) :: places ms := rfl

@[simp] theorem places_append (ms ns : List Mark) : places (ms ++ ns) = places ms ++ places ns :=
  List.filterMap_append

@[simp] theorem ids_nil : ids [] = [] := rfl

@[simp] theorem ids_slot (s : Slot) (ms : List Mark) : ids (.slot s :: ms) = ids ms := rfl

@[simp] theorem ids_field (s : Slot) (f : Field) (ms : List Mark) :
    ids (.field s f :: ms) = f.id :: ids ms := rfl

@[simp] theorem ids_append (ms ns : List Mark) : ids (ms ++ ns) = ids ms ++ ids ns := by
  simp [ids]

theorem mem_addresses {s : Slot} {ms : List Mark} : s ∈ addresses ms ↔ .slot s ∈ ms := by
  simp only [addresses, List.mem_filterMap]
  constructor
  · rintro ⟨m, hm, h⟩
    cases m with
    | slot _ => cases h; exact hm
    | field _ _ => cases h
  · exact fun h => ⟨_, h, rfl⟩

theorem mem_places {p : Slot × Field} {ms : List Mark} : p ∈ places ms ↔ .field p.1 p.2 ∈ ms := by
  simp only [places, List.mem_filterMap]
  constructor
  · rintro ⟨m, hm, h⟩
    cases m with
    | slot _ => cases h
    | field _ _ => cases h; exact hm
  · exact fun h => ⟨_, h, rfl⟩

theorem mem_ids {id : String} {ms : List Mark} :
    id ∈ ids ms ↔ ∃ s f, .field s f ∈ ms ∧ f.id = id := by
  simp only [ids, List.mem_map]
  constructor
  · rintro ⟨⟨s, f⟩, h, rfl⟩
    exact ⟨s, f, mem_places.1 h, rfl⟩
  · rintro ⟨s, f, h, rfl⟩
    exact ⟨(s, f), mem_places.2 h, rfl⟩

theorem ids_perm {ms ns : List Mark} (h : ms.Perm ns) : (ids ms).Perm (ids ns) :=
  (h.filterMap Mark.place?).map fun p : Slot × Field => p.2.id

theorem addresses_perm {ms ns : List Mark} (h : ms.Perm ns) : (addresses ms).Perm (addresses ns) :=
  h.filterMap Mark.slot?

end Outline

/-! ## The outline of a tree -/

namespace Field

mutual

/-- The outline of what is inside a field. -/
def marksInside : Field → List Mark
  | .leaf _ _ => []
  | .group h _ cs | .repeater h _ cs => .slot (.children h.id) :: marksAmong (.children h.id) cs
  | .tabs h ts => marksTabs h.id ts
  | .abTest h a b =>
    .slot (.variant h.id .a) :: (marksAmong (.variant h.id .a) a ++
      .slot (.variant h.id .b) :: marksAmong (.variant h.id .b) b)

/-- The outline of some fields of a slot. -/
def marksAmong (slot : Slot) : List Field → List Mark
  | [] => []
  | f :: fs => .field slot f.shell :: (marksInside f ++ marksAmong slot fs)

def marksTabs (id : String) : List (Tab Field) → List Mark
  | [] => []
  | ⟨tab, _, cs⟩ :: ts => .slot (.tab id tab) :: (marksAmong (.tab id tab) cs ++ marksTabs id ts)

end

/-- The outline of a slot. -/
def marksSlot (slot : Slot) (fs : List Field) : List Mark := .slot slot :: marksAmong slot fs

theorem marksAmong_append (slot : Slot) : ∀ fs gs : List Field,
    marksAmong slot (fs ++ gs) = marksAmong slot fs ++ marksAmong slot gs
  | [], _ => rfl
  | f :: fs, gs => by simp [marksAmong, marksAmong_append slot fs gs]

theorem marksTabs_append (id : String) : ∀ ts us : List (Tab Field),
    marksTabs id (ts ++ us) = marksTabs id ts ++ marksTabs id us
  | [], _ => rfl
  | ⟨_, _, _⟩ :: ts, us => by simp [marksTabs, marksTabs_append id ts us]

end Field

def Tree.marks (t : Tree) : List Mark := Field.marksSlot .root t.fields

/-! ## Entries -/

namespace Field

open Outline

theorem entriesFrom_append (s : Slot) : ∀ (index : Nat) (fs gs : List Field),
    entriesFrom s index (fs ++ gs) = entriesFrom s index fs ++ entriesFrom s (index + fs.length) gs
  | _, [], _ => rfl
  | index, f :: fs, gs => by
    have hlen : index + 1 + fs.length = index + (fs.length + 1) := by omega
    simp [entriesFrom, entriesFrom_append s (index + 1) fs gs, hlen]

theorem insideTabs_append (id : String) : ∀ ts us : List (Tab Field),
    insideTabs id (ts ++ us) = insideTabs id ts ++ insideTabs id us
  | [], _ => rfl
  | ⟨_, _, _⟩ :: ts, us => by simp [insideTabs, insideTabs_append id ts us]

/-- An entry without what is inside its field. -/
def place (e : Tree.Entry) : Slot × Field := (e.slot, e.field.shell)

mutual

theorem places_marksInside : ∀ f : Field, places f.marksInside = f.inside.map place
  | .leaf _ _ => rfl
  | .group h _ cs | .repeater h _ cs => by
    rw [marksInside, inside, places_slot, places_marksAmong (.children h.id) 0 cs]
  | .tabs h ts => by
    rw [marksInside, inside, places_marksTabs h.id ts]
  | .abTest h a b => by
    rw [marksInside, inside, places_slot, places_append, places_slot,
      places_marksAmong (.variant h.id .a) 0 a, places_marksAmong (.variant h.id .b) 0 b,
      List.map_append]

theorem places_marksAmong (slot : Slot) : ∀ (index : Nat) (fs : List Field),
    places (marksAmong slot fs) = (entriesFrom slot index fs).map place
  | _, [] => rfl
  | index, f :: fs => by
    rw [marksAmong, entriesFrom, places_field, places_append, places_marksInside f,
      places_marksAmong slot (index + 1) fs, List.map_cons, List.map_append]
    rfl

theorem places_marksTabs (id : String) : ∀ ts : List (Tab Field),
    places (marksTabs id ts) = (insideTabs id ts).map place
  | [] => rfl
  | ⟨tab, _, cs⟩ :: ts => by
    rw [marksTabs, insideTabs, places_slot, places_append, places_marksAmong (.tab id tab) 0 cs,
      places_marksTabs id ts, List.map_append]

end

theorem ids_marksInside (f : Field) : ids f.marksInside = f.inside.map (·.field.id) := by
  rw [ids, places_marksInside, List.map_map]
  exact List.map_congr_left fun e _ => e.field.id_shell

theorem ids_marksAmong (slot : Slot) (index : Nat) (fs : List Field) :
    ids (marksAmong slot fs) = (entriesFrom slot index fs).map (·.field.id) := by
  rw [ids, places_marksAmong slot index, List.map_map]
  exact List.map_congr_left fun e _ => e.field.id_shell

/-- The ids of a field and of everything inside it. -/
theorem ids_subtree (f : Field) : f.subtree.map (·.id) = f.id :: ids f.marksInside := by
  rw [subtree, List.map_cons, List.map_map, ids_marksInside]
  rfl

end Field

theorem Tree.ids_marks (t : Tree) : Outline.ids t.marks = t.flatten.map (·.id) := by
  rw [marks, Field.marksSlot, Outline.ids_slot, Field.ids_marksAmong .root 0, flatten, List.map_map]
  rfl

/-! ## Slots -/

namespace Field

/-- The slot is one of the field's own. -/
def Owns (f : Field) (s : Slot) : Prop := s ∈ f.slots.map (·.1)

instance (f : Field) (s : Slot) : Decidable (f.Owns s) :=
  inferInstanceAs (Decidable (s ∈ f.slots.map (·.1)))

theorem exists_mem_map_field {p : Field → Prop} {es : List Tree.Entry} :
    (∃ g ∈ es.map (·.field), p g) ↔ ∃ e ∈ es, p e.field := by
  simp only [List.mem_map]
  constructor
  · rintro ⟨_, ⟨e, he, rfl⟩, h⟩
    exact ⟨e, he, h⟩
  · rintro ⟨e, he, h⟩
    exact ⟨e.field, ⟨e, he, rfl⟩, h⟩

theorem exists_mem_subtree {p : Field → Prop} {f : Field} :
    (∃ g ∈ f.subtree, p g) ↔ p f ∨ ∃ e ∈ f.inside, p e.field := by
  simp only [subtree, List.mem_cons, or_and_right, exists_or, exists_eq_left, exists_mem_map_field]

theorem owns_leaf {h : Head} {k : Leaf} {s : Slot} : ¬ (leaf h k).Owns s := by
  simp [Owns, slots]

theorem owns_group {h : Head} {n : UInt32} {cs : List Field} {s : Slot} :
    (group h n cs).Owns s ↔ s = .children h.id := by
  simp [Owns, slots]

theorem owns_repeater {h : Head} {l : String} {cs : List Field} {s : Slot} :
    (repeater h l cs).Owns s ↔ s = .children h.id := by
  simp [Owns, slots]

theorem owns_tabs {h : Head} {ts : List (Tab Field)} {s : Slot} :
    (tabs h ts).Owns s ↔ ∃ t ∈ ts, s = .tab h.id t.id := by
  simp [Owns, slots, eq_comm]

theorem owns_abTest {h : Head} {a b : List Field} {s : Slot} :
    (abTest h a b).Owns s ↔ s = .variant h.id .a ∨ s = .variant h.id .b := by
  simp [Owns, slots]

mutual

/-- The slots inside a field are its own and those of the fields inside it. -/
theorem slot_mem_marksInside {s : Slot} : ∀ f : Field,
    .slot s ∈ f.marksInside ↔ f.Owns s ∨ ∃ e ∈ f.inside, e.field.Owns s
  | .leaf _ _ => by simp [marksInside, owns_leaf, inside]
  | .group h _ cs => by
    simp [marksInside, owns_group, inside, slot_mem_marksAmong (.children h.id) 0 cs]
  | .repeater h _ cs => by
    simp [marksInside, owns_repeater, inside, slot_mem_marksAmong (.children h.id) 0 cs]
  | .tabs h ts => by
    rw [marksInside, owns_tabs, inside, slot_mem_marksTabs h.id ts]
  | .abTest h a b => by
    simp only [marksInside, owns_abTest, inside, List.mem_cons, List.mem_append, Mark.slot.injEq,
      slot_mem_marksAmong (.variant h.id .a) 0 a, slot_mem_marksAmong (.variant h.id .b) 0 b,
      or_and_right, exists_or]
    rw [← or_assoc, or_or_or_comm]

theorem slot_mem_marksAmong {s : Slot} (slot : Slot) : ∀ (index : Nat) (fs : List Field),
    .slot s ∈ marksAmong slot fs ↔ ∃ e ∈ entriesFrom slot index fs, e.field.Owns s
  | _, [] => by simp [marksAmong, entriesFrom]
  | index, f :: fs => by
    simp only [marksAmong, entriesFrom, List.mem_cons, List.mem_append, reduceCtorEq, false_or,
      slot_mem_marksInside f, slot_mem_marksAmong slot (index + 1) fs, or_and_right, exists_or,
      exists_eq_left, or_assoc]

theorem slot_mem_marksTabs {s : Slot} (id : String) : ∀ ts : List (Tab Field),
    .slot s ∈ marksTabs id ts ↔
      (∃ t ∈ ts, s = .tab id t.id) ∨ ∃ e ∈ insideTabs id ts, e.field.Owns s
  | [] => by simp [marksTabs, insideTabs]
  | ⟨tab, _, cs⟩ :: ts => by
    simp only [marksTabs, insideTabs, List.mem_cons, List.mem_append, Mark.slot.injEq,
      slot_mem_marksAmong (.tab id tab) 0 cs, slot_mem_marksTabs id ts, or_and_right, exists_or,
      exists_eq_left]
    rw [← or_assoc, or_or_or_comm]

end

/-- The slots inside a field are those of the fields of its subtree. -/
theorem slot_mem_marksInside_iff {s : Slot} {f : Field} :
    .slot s ∈ f.marksInside ↔ ∃ g ∈ f.subtree, g.Owns s := by
  rw [slot_mem_marksInside, exists_mem_subtree]

end Field

namespace Tree

/-- The slots with their contents: the top-level fields and the slots of every field. -/
def slots (t : Tree) : List (Slot × List Field) := (.root, t.fields) :: t.flatten.flatMap Field.slots

/-- The tree has a slot of the address. -/
def HasSlot (t : Tree) (s : Slot) : Prop := s ∈ t.slots.map (·.1)

instance (t : Tree) (s : Slot) : Decidable (t.HasSlot s) :=
  inferInstanceAs (Decidable (s ∈ t.slots.map (·.1)))

theorem hasSlot_iff {t : Tree} {s : Slot} : t.HasSlot s ↔ s = .root ∨ ∃ f ∈ t.flatten, f.Owns s := by
  simp only [HasSlot, slots, List.map_cons, List.mem_cons, List.map_flatMap, List.mem_flatMap,
    Field.Owns]

theorem slot_mem_marks {t : Tree} {s : Slot} : .slot s ∈ t.marks ↔ t.HasSlot s := by
  rw [marks, Field.marksSlot, List.mem_cons, Mark.slot.injEq, Field.slot_mem_marksAmong .root 0,
    hasSlot_iff, flatten, entries, Field.exists_mem_map_field]

end Tree

end FormBuilder
