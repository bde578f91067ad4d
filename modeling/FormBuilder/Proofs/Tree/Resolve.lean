/-
What an id means: the first field of the id in the order of a visit. Lookups find it, and removals,
modifications and patches change it and nothing else.
-/
import FormBuilder.Proofs.Tree.Edit
import FormBuilder.Proofs.Tree.Walk
import FormBuilder.Tree.Patch

namespace FormBuilder.Tree

open Outline FormBuilder.Field

variable {α : Type} {t : Tree} {id : String}

/-! ## Modification -/

theorem modifying_misses {change : Field → Field × α} {ms : List Mark} (h : id ∉ ids ms) :
    ∀ m ∈ ms, (modifying id change).Misses m :=
  Edit.misses_of_not_mem (fun _ _ => rfl) (fun g hid => by simp [modifying, hid]) h

theorem modify?_of_not_mem (change : Field → Field × α) (h : id ∉ ids t.marks) :
    t.modify? id change = none :=
  edit?_of_misses (modifying_misses h)

/-- The first field of an id is changed, once, and all else stays. -/
theorem modify?_fill {p : Path} {pre post : List Field} {f : Field} (change : Field → Field × α)
    (hp : f.id ∉ ids (p.before .root)) (hpre : f.id ∉ ids (marksAmong (p.slot .root) pre)) :
    modify? ⟨p.fill (pre ++ f :: post)⟩ f.id change
      = some (⟨p.fill (pre ++ (change f).1 :: post)⟩, (change f).2) := by
  refine edit?_fill (modifying_misses hp) ?_
  have hfield : (modifying f.id change).field f = some ([(change f).1], (change f).2) := by
    simp [modifying]
  rw [editSlot_of_misses fun _ => rfl]
  exact editAmong_hit (modifying_misses hpre) hfield

theorem replace_fill {p : Path} {pre post : List Field} {f : Field} (g : Field)
    (hp : f.id ∉ ids (p.before .root)) (hpre : f.id ∉ ids (marksAmong (p.slot .root) pre)) :
    replace ⟨p.fill (pre ++ f :: post)⟩ f.id g = ⟨p.fill (pre ++ g :: post)⟩ := by
  rw [replace, modify?_fill _ hp hpre]
  rfl

/-! ## Resolution -/

/-- No operation finds a field of the id, and none changes the tree. -/
structure Absent (t : Tree) (id : String) : Prop where
  find : t.find? id = none
  contains : t.contains id = false
  locate : t.locate? id = none
  remove : t.remove? id = none
  modify : ∀ {α : Type} (change : Field → Field × α), t.modify? id change = none
  update : ∀ patch : Patch, t.update id patch = .ok (t, false)

/-- Every operation on the id means the field `f`, which stands behind `pre` and before `post` in the
slot where the way `p` ends: nothing that is visited before has the id, and what changes the field
leaves everything around it as it is. -/
structure ResolvesTo (t : Tree) (id : String) (f : Field) (p : Path) (pre post : List Field) :
    Prop where
  tree : t = ⟨p.fill (pre ++ f :: post)⟩
  named : f.id = id
  first : id ∉ ids (p.before .root) ∧ id ∉ ids (marksAmong (p.slot .root) pre)
  slot : (p.slot .root, pre ++ f :: post) ∈ t.slots
  find : t.find? id = some f
  contains : t.contains id = true
  locate : t.locate? id = some (p.slot .root, pre.length)
  remove : t.remove? id = some (⟨p.fill (pre ++ post)⟩, f)
  modify : ∀ {α : Type} (change : Field → Field × α),
    t.modify? id change = some (⟨p.fill (pre ++ (change f).1 :: post)⟩, (change f).2)
  update : ∀ patch : Patch, t.update id patch
    = (patch.apply f).map fun g => (⟨p.fill (pre ++ g :: post)⟩, true)

theorem find?_eq_find?_flatten (t : Tree) (id : String) :
    t.find? id = t.flatten.find? (·.id == id) := by
  rw [flatten, List.find?_map]
  rfl

theorem absent_of_not_mem (h : id ∉ ids t.marks) : t.Absent id := by
  have hfind : t.find? id = none := by rw [find?, entry?_of_not_mem h]; rfl
  refine ⟨hfind, ?_, ?_, remove?_of_not_mem h, fun change => modify?_of_not_mem change h,
    fun patch => ?_⟩
  · rw [contains, hfind]
    rfl
  · rw [locate?, entry?_of_not_mem h]
    rfl
  · rw [update, hfind]

theorem resolvesTo_fill {p : Path} {pre post : List Field} {f : Field}
    (hp : f.id ∉ ids (p.before .root)) (hpre : f.id ∉ ids (marksAmong (p.slot .root) pre)) :
    ResolvesTo ⟨p.fill (pre ++ f :: post)⟩ f.id f p pre post := by
  have hfind : find? ⟨p.fill (pre ++ f :: post)⟩ f.id = some f := by
    rw [find?, entry?_fill hp hpre]
    rfl
  refine ⟨rfl, rfl, ⟨hp, hpre⟩, mem_slots_fill _ p, hfind, ?_, locate?_fill hp hpre,
    remove?_fill hp hpre, fun change => modify?_fill change hp hpre, fun patch => ?_⟩
  · rw [contains, hfind]
    rfl
  · rw [update, hfind]
    simp only [replace_fill _ hp hpre]

/-- Every operation resolves an id to the same place: to the first field of the id in the order of a
visit, or to none where no field has it. Every edit is a walk, and a walk that is never ended reports
the places and fields of a visit in its order. -/
theorem operations_resolve (t : Tree) (id : String) :
    (match t.flatten.find? (·.id == id) with
      | none => t.Absent id
      | some f => ∃ p pre post, t.ResolvesTo id f p pre post) ∧
    (∀ (α : Type) (e : Edit α), t.edit? e = (t.walk e.visitor ()).2) ∧
    ∀ (σ α : Type) (report : σ → Entry → σ) (s : σ),
      t.walk (Visitor.reporting report : Visitor σ α) s = (t.entries.foldl report s, none) := by
  refine ⟨?_, fun α e => edit?_eq_walk e t, fun σ α report s => walk_reporting report s t⟩
  rw [← find?_eq_find?_flatten]
  by_cases hmem : id ∈ ids t.marks
  · obtain ⟨p, pre, f, post, hfill, rfl, hp, hpre⟩ := exists_fill_of_mem_ids hmem
    obtain rfl : t = ⟨p.fill (pre ++ f :: post)⟩ := by rw [← hfill]
    have hresolves : ResolvesTo _ f.id f p pre post := resolvesTo_fill hp hpre
    rw [hresolves.find]
    exact ⟨p, pre, post, hresolves⟩
  · have habsent := absent_of_not_mem hmem
    rw [habsent.find]
    exact habsent

end FormBuilder.Tree
