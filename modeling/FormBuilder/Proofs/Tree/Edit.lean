/-
What edits do at the place that they come to first. The place is given by the way to it: before the
place stands nothing that the edit is for, and all of the tree but the contents of the one slot
stays as it was.
-/
import FormBuilder.Proofs.Tree.Lookup
import Mathlib.Tactic.ByContra

namespace FormBuilder

open Outline

theorem insertIdx_length {α : Type} (x : α) (ys : List α) :
    ∀ xs : List α, (xs ++ ys).insertIdx xs.length x = xs ++ x :: ys
  | [] => rfl
  | y :: xs => by
    rw [List.cons_append, List.length_cons, List.insertIdx_succ_cons, insertIdx_length x ys xs]
    rfl

/-! ## Searching -/

/-- The edit is not for what the mark shows. -/
def Tree.Edit.Misses {α : Type} (e : Tree.Edit α) : Mark → Prop
  | .slot s => ∀ cs, e.slot s cs = none
  | .field _ f => ∀ g : Field, g.shell = f → e.field g = none

namespace Field

variable {α : Type} {e : Tree.Edit α}

/-- Searches a slot and what is inside it. -/
def editSlot (e : Tree.Edit α) (s : Slot) (cs : List Field) : Option (List Field × α) :=
  (e.slot s cs).or (editAmong e cs)

theorem editSlot_of_misses {s : Slot} {cs : List Field} (h : e.Misses (.slot s)) :
    editSlot e s cs = editAmong e cs := by
  rw [editSlot, h cs, Option.none_or]

mutual

theorem editInside_of_misses : ∀ f : Field, (∀ m ∈ f.marksInside, e.Misses m) →
    editInside e f = none
  | .leaf _ _, _ => rfl
  | .group h _ cs, hm | .repeater h _ cs, hm => by
    have hcs := editAmong_of_misses (.children h.id) cs fun m h => hm m (List.mem_cons_of_mem _ h)
    simp [editInside, hm _ (List.mem_cons_self ..) cs, hcs]
  | .tabs h ts, hm => by
    rw [editInside, editTabsInside_of_misses h.id ts hm]
    rfl
  | .abTest h a b, hm => by
    rw [marksInside, List.forall_mem_cons, List.forall_mem_append, List.forall_mem_cons] at hm
    obtain ⟨hsa, hma, hsb, hmb⟩ := hm
    have ha := editAmong_of_misses (.variant h.id .a) a hma
    have hb := editAmong_of_misses (.variant h.id .b) b hmb
    simp [editInside, hsa a, hsb b, ha, hb]

theorem editAmong_of_misses (s : Slot) : ∀ fs : List Field, (∀ m ∈ marksAmong s fs, e.Misses m) →
    editAmong e fs = none
  | [], _ => rfl
  | f :: fs, hm => by
    rw [marksAmong, List.forall_mem_cons, List.forall_mem_append] at hm
    obtain ⟨hf, hin, hfs⟩ := hm
    simp [editAmong, hf f rfl, editInside_of_misses f hin, editAmong_of_misses s fs hfs]

theorem editTabsInside_of_misses (id : String) : ∀ ts : List (Tab Field),
    (∀ m ∈ marksTabs id ts, e.Misses m) → editTabsInside e id ts = none
  | [], _ => rfl
  | ⟨tab, _, cs⟩ :: ts, hm => by
    rw [marksTabs, List.forall_mem_cons, List.forall_mem_append] at hm
    obtain ⟨hs, hcs, hts⟩ := hm
    simp [editTabsInside, hs cs, editAmong_of_misses (.tab id tab) cs hcs,
      editTabsInside_of_misses id ts hts]

end

/-- Fields that the edit is not for are passed over. -/
theorem editAmong_append {s : Slot} (fs : List Field) : ∀ pre : List Field,
    (∀ m ∈ marksAmong s pre, e.Misses m) →
    editAmong e (pre ++ fs) = (editAmong e fs).map fun r => (pre ++ r.1, r.2)
  | [], _ => by simp
  | f :: pre, hm => by
    rw [marksAmong, List.forall_mem_cons, List.forall_mem_append] at hm
    obtain ⟨hf, hin, hpre⟩ := hm
    rw [List.cons_append, editAmong, hf f rfl, editInside_of_misses f hin,
      editAmong_append fs pre hpre]
    simp [Function.comp_def]

theorem editTabsInside_append {id : String} (us : List (Tab Field)) : ∀ ts : List (Tab Field),
    (∀ m ∈ marksTabs id ts, e.Misses m) →
    editTabsInside e id (ts ++ us) = (editTabsInside e id us).map fun r => (ts ++ r.1, r.2)
  | [], _ => by simp
  | ⟨tab, label, cs⟩ :: ts, hm => by
    rw [marksTabs, List.forall_mem_cons, List.forall_mem_append] at hm
    obtain ⟨hs, hcs, hts⟩ := hm
    rw [List.cons_append, editTabsInside, hs cs, editAmong_of_misses (.tab id tab) cs hcs,
      editTabsInside_append us ts hts]
    simp [Function.comp_def]

/-- An edit of a field comes to the first field that it is for. -/
theorem editAmong_hit {s : Slot} {pre post new : List Field} {f : Field} {a : α}
    (hpre : ∀ m ∈ marksAmong s pre, e.Misses m) (hf : e.field f = some (new, a)) :
    editAmong e (pre ++ f :: post) = some (pre ++ (new ++ post), a) := by
  rw [editAmong_append _ pre hpre, editAmong, hf]
  rfl

end Field

open FormBuilder.Field

/-- An edit goes on into the open slot of a layer. -/
theorem Layer.editInside_fill {α : Type} {e : Tree.Edit α} {l : Layer} {cs cs' : List Field} {a : α}
    (hl : ∀ m ∈ l.before, e.Misses m) (h : editSlot e l.slot cs = some (cs', a)) :
    editInside e (l.fill cs) = some (l.fill cs', a) := by
  unfold editSlot at h
  cases l with
  | group hd n =>
    rw [fill, editInside, show (e.slot (.children hd.id) cs).or (editAmong e cs) = _ from h]
    rfl
  | repeater hd label =>
    rw [fill, editInside, show (e.slot (.children hd.id) cs).or (editAmong e cs) = _ from h]
    rfl
  | tab hd ts id label us =>
    rw [fill, editInside, editTabsInside_append _ ts hl, editTabsInside,
      show (e.slot (.tab hd.id id) cs).or (editAmong e cs) = _ from h]
    rfl
  | variantA hd vb =>
    rw [fill, editInside, show (e.slot (.variant hd.id .a) cs).or (editAmong e cs) = _ from h]
    rfl
  | variantB hd va =>
    rw [before, marksSlot, List.forall_mem_cons] at hl
    rw [fill, editInside, hl.1 va, editAmong_of_misses _ va hl.2,
      show (e.slot (.variant hd.id .b) cs).or (editAmong e cs) = _ from h]
    rfl

/-- An edit goes on into the slot where a way ends, when it is for nothing before. -/
theorem Path.editSlot_fill {α : Type} {e : Tree.Edit α} {cs cs' : List Field} {a : α} :
    ∀ (p : Path) (s : Slot), (∀ m ∈ p.before s, e.Misses m) →
    editSlot e (p.slot s) cs = some (cs', a) →
    editSlot e s (p.fill cs) = some (p.fill cs', a)
  | [], _, _, h => h
  | v :: p, s, hm, h => by
    rw [before, marksSlot, List.cons_append, List.forall_mem_cons, List.forall_mem_append,
      List.forall_mem_cons, List.forall_mem_append] at hm
    obtain ⟨hs, hpre, hshell, hl, hp⟩ := hm
    have hrest := editSlot_fill p v.layer.slot hp h
    have hfield : e.field (v.layer.fill (fill cs p)) = none := hshell _ (v.layer.shell_fill _)
    rw [editSlot_of_misses hs, fill, editAmong_append _ v.before hpre, editAmong, hfield,
      v.layer.editInside_fill hl hrest]
    rfl

namespace Tree

theorem edit?_eq {α : Type} (e : Edit α) (t : Tree) :
    t.edit? e = (editSlot e .root t.fields).map fun r => (⟨r.1⟩, r.2) := rfl

theorem edit?_of_misses {α : Type} {e : Edit α} {t : Tree} (h : ∀ m ∈ t.marks, e.Misses m) :
    t.edit? e = none := by
  rw [marks, marksSlot, List.forall_mem_cons] at h
  rw [edit?_eq, editSlot_of_misses h.1, editAmong_of_misses .root t.fields h.2]
  rfl

theorem edit?_fill {α : Type} {e : Edit α} {p : Path} {cs cs' : List Field} {a : α}
    (hp : ∀ m ∈ p.before .root, e.Misses m)
    (h : editSlot e (p.slot .root) cs = some (cs', a)) :
    edit? e ⟨p.fill cs⟩ = some (⟨p.fill cs'⟩, a) := by
  rw [edit?_eq, Path.editSlot_fill p .root hp h]
  rfl

/-- An edit of the fields of one id is not for an outline without the id. -/
theorem Edit.misses_of_not_mem {α : Type} {e : Edit α} {id : String} {ms : List Mark}
    (hslot : ∀ s cs, e.slot s cs = none) (hfield : ∀ g : Field, g.id ≠ id → e.field g = none)
    (h : id ∉ ids ms) : ∀ m ∈ ms, e.Misses m := by
  intro m hm
  cases m with
  | slot s => exact hslot s
  | field s f =>
    rintro g rfl
    exact hfield g fun hid => h (mem_ids.2 ⟨s, g.shell, hm, by simpa using hid⟩)

/-! ## Removal -/

theorem removing_misses {id : String} {ms : List Mark} (h : id ∉ ids ms) :
    ∀ m ∈ ms, (removing id).Misses m :=
  Edit.misses_of_not_mem (fun _ _ => rfl) (fun g hid => by simp [removing, hid]) h

theorem remove?_of_not_mem {t : Tree} {id : String} (h : id ∉ ids t.marks) : t.remove? id = none :=
  edit?_of_misses (removing_misses h)

/-- The first field of an id is taken out, and all else stays. -/
theorem remove?_fill {p : Path} {pre post : List Field} {f : Field}
    (hp : f.id ∉ ids (p.before .root)) (hpre : f.id ∉ ids (marksAmong (p.slot .root) pre)) :
    remove? ⟨p.fill (pre ++ f :: post)⟩ f.id = some (⟨p.fill (pre ++ post)⟩, f) := by
  refine edit?_fill (removing_misses hp) ?_
  have hfield : (removing f.id).field f = some ([], f) := by simp [removing]
  rw [editSlot_of_misses fun _ => rfl]
  exact editAmong_hit (removing_misses hpre) hfield

/-- A removal, by the way to what it takes out. -/
theorem exists_fill_of_remove? {t rest : Tree} {id : String} {f : Field}
    (h : t.remove? id = some (rest, f)) :
    ∃ p pre post, t = ⟨Path.fill (pre ++ f :: post) p⟩ ∧ rest = ⟨Path.fill (pre ++ post) p⟩ ∧
      f.id = id ∧ id ∉ ids (p.before .root) ∧ id ∉ ids (marksAmong (p.slot .root) pre) := by
  have hmem : id ∈ ids t.marks := by
    by_contra hnot
    rw [remove?_of_not_mem hnot] at h
    cases h
  obtain ⟨p, pre, g, post, hfill, rfl, hp, hpre⟩ := exists_fill_of_mem_ids hmem
  obtain rfl : t = ⟨p.fill (pre ++ g :: post)⟩ := by rw [← hfill]
  rw [remove?_fill hp hpre] at h
  cases h
  exact ⟨p, pre, post, rfl, rfl, rfl, hp, hpre⟩

theorem remove?_isSome {t : Tree} {id : String} : (t.remove? id).isSome ↔ id ∈ ids t.marks := by
  constructor
  · intro h
    by_contra hnot
    rw [remove?_of_not_mem hnot] at h
    cases h
  · intro hmem
    obtain ⟨p, pre, f, post, hfill, rfl, hp, hpre⟩ := exists_fill_of_mem_ids hmem
    obtain rfl : t = ⟨p.fill (pre ++ f :: post)⟩ := by rw [← hfill]
    rw [remove?_fill hp hpre]
    rfl

/-- What a removal takes out of the outline. -/
theorem marks_perm_of_remove? {t rest : Tree} {id : String} {f : Field}
    (h : t.remove? id = some (rest, f)) :
    ∃ s, t.marks.Perm ((.field s f.shell :: f.marksInside) ++ rest.marks) := by
  obtain ⟨p, pre, post, rfl, rfl, -⟩ := exists_fill_of_remove? h
  exact ⟨_, marks_fill_perm p pre post f⟩

/-- A removal takes out the field that a lookup finds. -/
theorem find?_of_remove? {t rest : Tree} {id : String} {f : Field}
    (h : t.remove? id = some (rest, f)) : t.find? id = some f := by
  obtain ⟨p, pre, post, rfl, rfl, rfl, hp, hpre⟩ := exists_fill_of_remove? h
  rw [find?, entry?_fill hp hpre]
  rfl

/-! ## Insertion -/

theorem inserting_misses {s : Slot} {f : Field} {position : Option Nat} {ms : List Mark}
    (h : s ∉ addresses ms) : ∀ m ∈ ms, (inserting s f position).Misses m := by
  intro m hm
  cases m with
  | slot s' =>
    intro cs
    have hne : s' ≠ s := fun hs => h (mem_addresses.2 (hs ▸ hm))
    simp [inserting, hne]
  | field s' g => exact fun _ _ => rfl

theorem insert_of_not_hasSlot {t : Tree} {s : Slot} (f : Field) (position : Option Nat)
    (h : ¬ t.HasSlot s) : t.insert s f position = .error (.slotNotFound s) := by
  have hslots : s ∉ addresses t.marks := fun hs => h (slot_mem_marks.1 (mem_addresses.1 hs))
  rw [insert, edit?_of_misses (inserting_misses hslots)]

/-- A field is put into the first slot of an address, and all else stays. -/
theorem insert_fill {p : Path} {cs : List Field} (f : Field) (position : Option Nat)
    (hp : p.slot .root ∉ addresses (p.before .root)) :
    insert ⟨p.fill cs⟩ (p.slot .root) f position
      = .ok (⟨p.fill (cs.insertIdx (clamp position cs.length) f)⟩, clamp position cs.length) := by
  have hslot : editSlot (inserting (p.slot .root) f position) (p.slot .root) cs
      = some (cs.insertIdx (clamp position cs.length) f, clamp position cs.length) := by
    rw [editSlot]
    simp [inserting]
  rw [insert, edit?_fill (inserting_misses hp) hslot]

theorem insert_end {p : Path} (cs : List Field) (f : Field)
    (hp : p.slot .root ∉ addresses (p.before .root)) :
    insert ⟨p.fill cs⟩ (p.slot .root) f none = .ok (⟨p.fill (cs ++ [f])⟩, cs.length) := by
  rw [insert_fill f none hp, clamp, List.insertIdx_length_self]

theorem insert_before {p : Path} (pre post : List Field) (f : Field)
    (hp : p.slot .root ∉ addresses (p.before .root)) :
    insert ⟨p.fill (pre ++ post)⟩ (p.slot .root) f (some pre.length)
      = .ok (⟨p.fill (pre ++ f :: post)⟩, pre.length) := by
  have hmin : min pre.length (pre ++ post).length = pre.length := by
    rw [List.length_append]
    omega
  rw [insert_fill f _ hp, clamp, hmin, insertIdx_length]

/-! ## What was put in -/

section Inserted

variable {p : Path} {pre post : List Field} {f : Field}

/-- An id that is nowhere in the tree is neither on the way to a place nor before it. -/
theorem not_mem_before_fill {id : String} (h : id ∉ ids (marks ⟨p.fill (pre ++ post)⟩)) :
    id ∉ ids (p.before .root) ∧ id ∉ ids (marksAmong (p.slot .root) pre) := by
  simp only [marks_fill, marksSlot, marksAmong_append, ids_append, ids_slot, List.mem_append,
    not_or] at h
  exact ⟨h.1, h.2.1.1⟩

/-- Taking a field out of where it was put gives the tree before. -/
theorem remove?_inserted (h : f.id ∉ ids (marks ⟨p.fill (pre ++ post)⟩)) :
    remove? ⟨p.fill (pre ++ f :: post)⟩ f.id = some (⟨p.fill (pre ++ post)⟩, f) :=
  remove?_fill (not_mem_before_fill h).1 (not_mem_before_fill h).2

theorem remove?_appended {cs : List Field} (h : f.id ∉ ids (marks ⟨p.fill cs⟩)) :
    remove? ⟨p.fill (cs ++ [f])⟩ f.id = some (⟨p.fill cs⟩, f) := by
  rw [← List.append_nil cs] at h
  have hremove := remove?_inserted h
  rwa [List.append_nil] at hremove

/-- A field is found where it was put. -/
theorem locate?_inserted (h : f.id ∉ ids (marks ⟨p.fill (pre ++ post)⟩)) :
    locate? ⟨p.fill (pre ++ f :: post)⟩ f.id = some (p.slot .root, pre.length) :=
  locate?_fill (not_mem_before_fill h).1 (not_mem_before_fill h).2

end Inserted

end Tree

end FormBuilder
