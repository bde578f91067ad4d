/-
Every field of a tree with the fields that it lies inside. A visit comes by the trails in the order of
the entries where they end, and each trail begins at the top level and goes down one slot at a time.
-/
import FormBuilder.Tree.Basic

namespace FormBuilder

/-- An entry with those of the fields that it lies inside, from the outermost on. -/
structure Tree.Trail where
  above : List Tree.Entry
  entry : Tree.Entry

namespace Tree.Trail

def path (w : Trail) : List Entry := w.above ++ [w.entry]

/-- The outermost field, which is the field itself where nothing is around it. -/
def top (w : Trail) : Entry := w.above.headD w.entry

/-- The trail inside one more field. -/
def under (e : Entry) (w : Trail) : Trail := ⟨e :: w.above, w.entry⟩

theorem top_mem_path (w : Trail) : w.top ∈ w.path := by
  obtain ⟨_ | ⟨e, above⟩, entry⟩ := w
  · exact List.mem_cons_self ..
  · exact List.mem_cons_self ..

end Tree.Trail

/-! ## Order -/

namespace Field

mutual

/-- The trails of everything inside a field, as they go on in it. -/
def trailsInside : Field → List Tree.Trail
  | .leaf _ _ => []
  | .group h _ cs | .repeater h _ cs => trailsFrom (.children h.id) 0 cs
  | .tabs h ts => trailsTabs h.id ts
  | .abTest h a b => trailsFrom (.variant h.id .a) 0 a ++ trailsFrom (.variant h.id .b) 0 b

/-- The trails of the fields of a slot from an index on, and of everything inside them. -/
def trailsFrom (slot : Slot) (index : Nat) : List Field → List Tree.Trail
  | [] => []
  | f :: fs =>
    ⟨[], ⟨slot, index, f⟩⟩ ::
      (f.trailsInside.map (.under ⟨slot, index, f⟩) ++ trailsFrom slot (index + 1) fs)

def trailsTabs (id : String) : List (Tab Field) → List Tree.Trail
  | [] => []
  | ⟨tab, _, cs⟩ :: ts => trailsFrom (.tab id tab) 0 cs ++ trailsTabs id ts

end

/-- The trails that begin at one field of a slot. -/
def trailsAt (slot : Slot) (index : Nat) (f : Field) : List Tree.Trail :=
  ⟨[], ⟨slot, index, f⟩⟩ :: f.trailsInside.map (.under ⟨slot, index, f⟩)

theorem trailsFrom_eq (slot : Slot) : ∀ (index : Nat) (fs : List Field),
    trailsFrom slot index fs = (fs.zipIdx index).flatMap fun p => trailsAt slot p.2 p.1
  | _, [] => rfl
  | index, f :: fs => by
    rw [trailsFrom, trailsFrom_eq slot (index + 1) fs, List.zipIdx_cons, List.flatMap_cons, trailsAt,
      List.cons_append]

theorem top_of_mem_trailsAt {slot : Slot} {index : Nat} {f : Field} {w : Tree.Trail}
    (hw : w ∈ trailsAt slot index f) : w.top = ⟨slot, index, f⟩ := by
  rcases List.mem_cons.1 hw with rfl | hw
  · rfl
  · obtain ⟨w, -, rfl⟩ := List.mem_map.1 hw
    rfl

theorem slot_of_mem_trailsFrom {slot : Slot} {index : Nat} {fs : List Field} {w : Tree.Trail}
    (hw : w ∈ trailsFrom slot index fs) : w.top.slot = slot := by
  rw [trailsFrom_eq] at hw
  obtain ⟨p, -, hw⟩ := List.mem_flatMap.1 hw
  rw [top_of_mem_trailsAt hw]

mutual

theorem entries_trailsInside : ∀ f : Field, f.trailsInside.map (·.entry) = f.inside
  | .leaf _ _ => rfl
  | .group h _ cs | .repeater h _ cs => by
    rw [trailsInside, inside, entries_trailsFrom (.children h.id) 0 cs]
  | .tabs h ts => by
    rw [trailsInside, inside, entries_trailsTabs h.id ts]
  | .abTest h a b => by
    rw [trailsInside, inside, List.map_append, entries_trailsFrom (.variant h.id .a) 0 a,
      entries_trailsFrom (.variant h.id .b) 0 b]

theorem entries_trailsFrom (slot : Slot) : ∀ (index : Nat) (fs : List Field),
    (trailsFrom slot index fs).map (·.entry) = entriesFrom slot index fs
  | _, [] => rfl
  | index, f :: fs => by
    rw [trailsFrom, entriesFrom, List.map_cons, List.map_append, List.map_map,
      ← entries_trailsInside f, ← entries_trailsFrom slot (index + 1) fs]
    rfl

theorem entries_trailsTabs (id : String) : ∀ ts : List (Tab Field),
    (trailsTabs id ts).map (·.entry) = insideTabs id ts
  | [] => rfl
  | ⟨tab, _, cs⟩ :: ts => by
    rw [trailsTabs, insideTabs, List.map_append, entries_trailsFrom (.tab id tab) 0 cs,
      entries_trailsTabs id ts]

end

end Field

/-! ## Ways down -/

/-- The first entry stands in one of the slots, and every other in one of the field before it. -/
def Tree.Descends (slots : List (Slot × List Field)) : List Tree.Entry → Prop
  | [] => True
  | e :: es => (∃ cs, (e.slot, cs) ∈ slots ∧ cs[e.index]? = some e.field) ∧ Descends e.field.slots es

namespace Field

open FormBuilder.Tree (Descends)

mutual

theorem descends_inside : ∀ (f : Field), ∀ w ∈ f.trailsInside, Descends f.slots w.path
  | .leaf _ _, w, hw => nomatch hw
  | .group h _ cs, w, hw | .repeater h _ cs, w, hw =>
    descends_from (.children h.id) [] cs (List.mem_cons_self ..) w hw
  | .tabs h ts, w, hw => descends_tabs h.id ts (fun _ ht => List.mem_map_of_mem ht) w hw
  | .abTest h a b, w, hw => by
    rcases List.mem_append.1 hw with hw | hw
    · exact descends_from (.variant h.id .a) [] a (List.mem_cons_self ..) w hw
    · exact descends_from (.variant h.id .b) [] b (List.mem_cons_of_mem _ (List.mem_cons_self ..)) w hw

theorem descends_from {slots : List (Slot × List Field)} (slot : Slot) : ∀ (done fs : List Field),
    (slot, done ++ fs) ∈ slots → ∀ w ∈ trailsFrom slot done.length fs, Descends slots w.path
  | _, [], _, w, hw => nomatch hw
  | done, f :: fs, hslot, w, hw => by
    have hfirst : ∃ cs, (slot, cs) ∈ slots ∧ cs[done.length]? = some f :=
      ⟨done ++ f :: fs, hslot, by simp⟩
    rw [trailsFrom, List.mem_cons, List.mem_append] at hw
    rcases hw with rfl | hw | hw
    · exact ⟨hfirst, trivial⟩
    · obtain ⟨v, hv, rfl⟩ := List.mem_map.1 hw
      exact ⟨hfirst, descends_inside f v hv⟩
    · rw [← List.singleton_append, ← List.append_assoc] at hslot
      exact descends_from slot (done ++ [f]) fs hslot w (by simpa using hw)

theorem descends_tabs {slots : List (Slot × List Field)} (id : String) : ∀ ts : List (Tab Field),
    (∀ t ∈ ts, (.tab id t.id, t.children) ∈ slots) → ∀ w ∈ trailsTabs id ts, Descends slots w.path
  | [], _, w, hw => nomatch hw
  | ⟨tab, _, cs⟩ :: ts, hslots, w, hw => by
    rcases List.mem_append.1 hw with hw | hw
    · exact descends_from (.tab id tab) [] cs (hslots _ (List.mem_cons_self ..)) w hw
    · exact descends_tabs id ts (fun t ht => hslots t (List.mem_cons_of_mem _ ht)) w hw

end

end Field

namespace Tree

end Tree

end FormBuilder
