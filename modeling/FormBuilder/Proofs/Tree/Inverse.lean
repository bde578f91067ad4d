/-
Insertion and removal undo each other. What was put into a slot is found there and can be taken out
again, also in a tree in which other ids and slot addresses occur more than once; and where fields and
tabs can be told apart, what was taken out can be put back where it was found.
-/
import FormBuilder.Proofs.Tree.Block
import FormBuilder.Proofs.Tree.Distinct

namespace FormBuilder.Tree

open Outline FormBuilder.Field

/-! ## The first slot of an address -/

/-- The layout gives an address the contents of its first slot. -/
theorem lookup_layout {before behind : List (Slot × List Field)} {s : Slot} {cs : List Field}
    (h : s ∉ before.map (·.1)) : (before ++ (s, cs) :: behind).lookup s = some cs := by
  induction before with
  | nil => exact List.lookup_cons_self
  | cons row before ih =>
    rw [List.map_cons, List.mem_cons, not_or] at h
    have hne : (s == row.1) = false := by simpa using h.1
    rw [List.cons_append, List.lookup_cons, hne]
    exact ih h.2

/-- An insertion clamps the position to the number of fields in the first slot of the address. -/
theorem layout_of_insert {t grown : Tree} {s : Slot} {f : Field} {position : Option Nat} {index : Nat}
    (h : t.insert s f position = .ok (grown, index)) :
    ∃ cs, t.layout.lookup s = some cs ∧ index = clamp position cs.length := by
  obtain ⟨_, before, cs, hmore, hfirst, hindex⟩ := oneMore_of_insert h
  obtain ⟨ahead, behind, hlayout, -⟩ := hmore.layout
  exact ⟨cs, hlayout ▸ lookup_layout hfirst, hindex⟩

/-! ## There and back -/

variable {t grown rest : Tree} {s : Slot} {f : Field}

theorem undo_insert {position : Option Nat} {index : Nat}
    (h : t.insert s f position = .ok (grown, index)) (hnew : f.id ∉ t.flatten.map (·.id)) :
    grown.locate? f.id = some (s, index) ∧ grown.remove? f.id = some (t, f) := by
  obtain ⟨p, xs, ys, rfl, rfl, rfl, -, rfl, -⟩ := exists_fill_of_insert h
  rw [← ids_marks] at hnew
  exact ⟨locate?_inserted hnew, remove?_inserted hnew⟩

theorem undo_remove {id : String} (ht : t.Distinct) (h : t.remove? id = some (rest, f)) :
    ∃ s index, t.locate? id = some (s, index) ∧ rest.insert s f (some index) = .ok (t, index) := by
  have hslots := ht.nodup_addresses_rest h
  obtain ⟨p, pre, post, rfl, rfl, rfl, hp, hpre⟩ := exists_fill_of_remove? h
  exact ⟨p.slot .root, pre.length, locate?_fill hp hpre,
    insert_before pre post f (not_mem_before_of_nodup hslots)⟩

/-- Insertion and removal undo each other. A field of a new id that is inserted into a slot of the tree
stands in that slot, at the position or at the end of the slot if it is shorter or no position is given,
and taking it out gives the field and the tree before. A field that is taken out of a tree in which
fields and tabs can be told apart, and inserted where it was found, gives the tree before. -/
theorem insert_remove_cancel (t : Tree) :
    (∀ s f position, t.HasSlot s → f.id ∉ t.flatten.map (·.id) →
      ∃ cs grown, t.layout.lookup s = some cs ∧
        let index := (position.map (min · cs.length)).getD cs.length
        t.insert s f position = .ok (grown, index) ∧ grown.locate? f.id = some (s, index) ∧
          grown.remove? f.id = some (t, f)) ∧
    (t.Distinct → ∀ id ∈ t.flatten.map (·.id), ∃ s index rest f, t.locate? id = some (s, index) ∧
      t.remove? id = some (rest, f) ∧ rest.insert s f (some index) = .ok (t, index)) := by
  refine ⟨fun s f position hs hnew => ?_, fun ht id hid => ?_⟩
  · obtain ⟨⟨grown, index⟩, hinsert⟩ := (isOk_insert_iff t s f position).2 hs
    obtain ⟨cs, hlookup, rfl⟩ := layout_of_insert hinsert
    have hclamp : clamp position cs.length = (position.map (min · cs.length)).getD cs.length := by
      cases position <;> rfl
    obtain ⟨hlocate, hremove⟩ := undo_insert hinsert hnew
    exact ⟨cs, grown, hlookup, hclamp ▸ hinsert, hclamp ▸ hlocate, hremove⟩
  · rw [← ids_marks, ← remove?_isSome] at hid
    obtain ⟨⟨rest, f⟩, hremove⟩ := Option.isSome_iff_exists.1 hid
    obtain ⟨s, index, hlocate, hinsert⟩ := undo_remove ht hremove
    exact ⟨s, index, rest, f, hlocate, hremove, hinsert⟩

/-- An A/B test in the first arm of another one of the same id takes a group with a third test of that id
into its own second arm, at the end though the position lies further behind; and the field between two
others in a tab goes back between them. -/
theorem insert_remove_cancel_tests :
    let head id : Field.Head := ⟨id, "", none, [], [], none, false⟩
    let leaf id : Field := .leaf (head id) .pageBreak
    let new : Field := .group (head "new") 1 [.abTest (head "test") [] []]
    let t := nestedTests [leaf "x", leaf "x"]
    let u : Tree := ⟨[.tabs (head "tabs") [⟨"one", "", []⟩, ⟨"two", "", [leaf "a", leaf "b", leaf "c"]⟩]]⟩
    (∃ grown, t.insert (.variant "test" .b) new (some 7) = .ok (grown, 2) ∧
      grown.locate? "new" = some (.variant "test" .b, 2) ∧ grown.remove? "new" = some (t, new)) ∧
    u.Distinct ∧ ∃ s index rest f, u.locate? "b" = some (s, index) ∧ u.remove? "b" = some (rest, f) ∧
      rest.insert s f (some index) = .ok (u, index) := by
  intro head leaf new t u
  have hu : u.Distinct := by
    refine ⟨by decide, fun h ts hmem => ?_⟩
    simp [u, leaf, flatten, entries, entriesFrom, inside, insideTabs] at hmem
    rw [hmem.2]
    decide
  obtain ⟨cs, grown, hcs, hback⟩ := (insert_remove_cancel t).1 (.variant "test" .b) new (some 7) (by decide)
    (by decide)
  obtain rfl : cs = [leaf "x", leaf "x"] := (Option.some.inj hcs).symm
  exact ⟨⟨grown, hback⟩, hu, (insert_remove_cancel u).2 hu "b" (by decide)⟩

end FormBuilder.Tree
