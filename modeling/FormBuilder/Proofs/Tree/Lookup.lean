/-
What a lookup finds: the first field of an id, with the slot at the end of the way to it and its
index there. Every id and every slot address that a tree has is found at the end of such a way.
-/
import FormBuilder.Proofs.Tree.Path

namespace FormBuilder

open Outline FormBuilder.Field

/-! ## Entries along a way -/

/-- No entry has an id that the outline does not have. -/
theorem find?_of_not_mem {es : List Tree.Entry} {ms : List Mark} {id : String}
    (hes : es.map place = places ms) (h : id ∉ ids ms) :
    es.find? (·.field.id == id) = none := by
  rw [List.find?_eq_none]
  intro e he hid
  have hmem : place e ∈ places ms := hes ▸ List.mem_map_of_mem he
  exact h (mem_ids.2 ⟨_, _, mem_places.1 hmem, by simpa [place] using hid⟩)

theorem Path.find?_fill {id : String} {cs : List Field} {e : Tree.Entry} :
    ∀ (p : Path) (s : Slot), id ∉ ids (p.before s) →
    (entriesFrom (p.slot s) 0 cs).find? (·.field.id == id) = some e →
    (entriesFrom s 0 (p.fill cs)).find? (·.field.id == id) = some e
  | [], _, _, h => h
  | v :: p, s, hid, h => by
    obtain ⟨es, es', hes, hinside⟩ := v.layer.inside_fill
    simp only [before, marksSlot, List.cons_append, ids_slot, ids_append, ids_field,
      List.mem_append, List.mem_cons, not_or] at hid
    obtain ⟨hpre, hshell, hl, hp⟩ := hid
    -- along the path: nothing before it has the id, so the search goes on below
    have hrest := find?_fill p v.layer.slot hp h
    have hne : (v.layer.fill (fill cs p)).id ≠ id := by
      rw [← id_shell, v.layer.shell_fill]
      exact fun h => hshell h.symm
    rw [fill, entriesFrom_append, List.find?_append,
      find?_of_not_mem (places_marksAmong s 0 v.before).symm hpre, Option.none_or, entriesFrom,
      List.find?_cons_of_neg (by simpa using hne), hinside, List.find?_append, List.find?_append,
      find?_of_not_mem hes hl, Option.none_or, List.find?_append, hrest, Option.some_or,
      Option.some_or]

namespace Tree

/-! ## Lookup -/

theorem entry?_of_not_mem {t : Tree} {id : String} (h : id ∉ ids t.marks) : t.entry? id = none :=
  find?_of_not_mem (places_marksAmong .root 0 t.fields).symm h

theorem entry?_fill {p : Path} {pre post : List Field} {f : Field}
    (hp : f.id ∉ ids (p.before .root)) (hpre : f.id ∉ ids (marksAmong (p.slot .root) pre)) :
    entry? ⟨p.fill (pre ++ f :: post)⟩ f.id = some ⟨p.slot .root, pre.length, f⟩ := by
  refine p.find?_fill .root hp ?_
  rw [entriesFrom_append, List.find?_append,
    find?_of_not_mem (places_marksAmong (p.slot .root) 0 pre).symm hpre, Option.none_or,
    entriesFrom, List.find?_cons_of_pos (by simp), Nat.zero_add]

/-- The way to the slot of a field. -/
theorem locate?_fill {p : Path} {pre post : List Field} {f : Field}
    (hp : f.id ∉ ids (p.before .root)) (hpre : f.id ∉ ids (marksAmong (p.slot .root) pre)) :
    locate? ⟨p.fill (pre ++ f :: post)⟩ f.id = some (p.slot .root, pre.length) := by
  rw [locate?, entry?_fill hp hpre]
  rfl

/-! ## Places -/

/-- The way to the first field of an id. -/
theorem exists_fill_of_mem_ids {t : Tree} {id : String} (h : id ∈ ids t.marks) :
    ∃ p pre f post, t.fields = Path.fill (pre ++ f :: post) p ∧ f.id = id ∧
      id ∉ ids (p.before .root) ∧ id ∉ ids (marksAmong (p.slot .root) pre) := by
  have hfirst : FirstMark (fun m => ∃ s f, m = .field s f ∧ f.id = id) .root t.fields := by
    obtain ⟨s, f, hm, hid⟩ := mem_ids.1 h
    exact firstMark_slot ⟨_, hm, s, f, rfl, hid⟩
  cases hfirst with
  | slot _ _ _ _ h => simp at h
  | field p pre f post hfill hbefore hpre h =>
    obtain ⟨_, _, hm, hid⟩ := h
    cases hm
    refine ⟨p, pre, f, post, hfill, by simpa using hid, fun hmem => ?_, fun hmem => ?_⟩
    · obtain ⟨s, g, hg, hgid⟩ := mem_ids.1 hmem
      exact hbefore _ hg ⟨s, g, rfl, hgid⟩
    · obtain ⟨s, g, hg, hgid⟩ := mem_ids.1 hmem
      exact hpre _ (List.mem_cons_of_mem _ hg) ⟨s, g, rfl, hgid⟩

/-- The way to the first slot of an address. -/
theorem exists_fill_of_hasSlot {t : Tree} {s : Slot} (h : t.HasSlot s) :
    ∃ p cs, t.fields = Path.fill cs p ∧ p.slot .root = s ∧ s ∉ addresses (p.before .root) := by
  have hfirst : FirstMark (· = .slot s) .root t.fields :=
    firstMark_slot ⟨_, slot_mem_marks.2 h, rfl⟩
  cases hfirst with
  | slot p cs hfill hbefore h =>
    cases h
    exact ⟨p, cs, hfill, rfl, fun hmem => hbefore _ (mem_addresses.1 hmem) rfl⟩
  | field _ _ _ _ _ _ _ h => cases h

/-- The slot that a lookup gives is that of a field of the id. -/
theorem field_mem_of_locate? {t : Tree} {id : String} {s : Slot} {index : Nat}
    (h : t.locate? id = some (s, index)) : ∃ f, .field s f ∈ t.marks ∧ f.id = id := by
  by_cases hmem : id ∈ ids t.marks
  · obtain ⟨p, pre, f, post, hfill, rfl, hp, hpre⟩ := exists_fill_of_mem_ids hmem
    obtain rfl : t = ⟨p.fill (pre ++ f :: post)⟩ := by rw [← hfill]
    rw [locate?_fill hp hpre] at h
    cases h
    refine ⟨f.shell, ?_, f.id_shell⟩
    simp [marks_fill, marksSlot, marksAmong_append, marksAmong]
  · rw [locate?, entry?_of_not_mem hmem] at h
    cases h

theorem exists_locate? {t : Tree} {id : String} (h : id ∈ ids t.marks) :
    ∃ s index, t.locate? id = some (s, index) := by
  obtain ⟨p, pre, f, post, hfill, rfl, hp, hpre⟩ := exists_fill_of_mem_ids h
  obtain rfl : t = ⟨p.fill (pre ++ f :: post)⟩ := by rw [← hfill]
  exact ⟨_, _, locate?_fill hp hpre⟩

theorem contains_iff {t : Tree} {id : String} : t.contains id = true ↔ id ∈ ids t.marks := by
  constructor
  · intro h
    refine Decidable.byContradiction fun hnot => ?_
    rw [contains, find?, entry?_of_not_mem hnot] at h
    cases h
  · intro hmem
    obtain ⟨p, pre, f, post, hfill, rfl, hp, hpre⟩ := exists_fill_of_mem_ids hmem
    obtain rfl : t = ⟨p.fill (pre ++ f :: post)⟩ := by rw [← hfill]
    rw [contains, find?, entry?_fill hp hpre]
    rfl

end Tree

end FormBuilder
