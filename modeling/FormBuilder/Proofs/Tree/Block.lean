/-
What insertions and removals change in a visit: one block of it, a field with everything inside it,
and the contents of the one slot in which the field stands. The slots are listed with their contents
in the order of a visit, each before its fields, so that the first slot of an address can be told
from later ones.
-/
import FormBuilder.Proofs.Tree.Edit
import Mathlib.Data.List.InsertIdx

namespace FormBuilder

open Outline FormBuilder.Field

/-! ## The layout of a tree -/

namespace Field

mutual

/-- The slots inside a field, each with its fields without what is inside them. -/
def layoutInside : Field → List (Slot × List Field)
  | .leaf _ _ => []
  | .group h _ cs | .repeater h _ cs => (.children h.id, cs.map shell) :: layoutAmong cs
  | .tabs h ts => layoutTabs h.id ts
  | .abTest h a b =>
    (.variant h.id .a, a.map shell) :: (layoutAmong a ++
      (.variant h.id .b, b.map shell) :: layoutAmong b)

/-- The slots inside some fields of a slot. -/
def layoutAmong : List Field → List (Slot × List Field)
  | [] => []
  | f :: fs => layoutInside f ++ layoutAmong fs

def layoutTabs (id : String) : List (Tab Field) → List (Slot × List Field)
  | [] => []
  | ⟨tab, _, cs⟩ :: ts => (.tab id tab, cs.map shell) :: (layoutAmong cs ++ layoutTabs id ts)

end

/-- A slot with its contents, and the slots inside its fields. -/
def layoutSlot (s : Slot) (fs : List Field) : List (Slot × List Field) :=
  (s, fs.map shell) :: layoutAmong fs

theorem layoutAmong_append : ∀ fs gs : List Field,
    layoutAmong (fs ++ gs) = layoutAmong fs ++ layoutAmong gs
  | [], _ => rfl
  | f :: fs, gs => by simp [layoutAmong, layoutAmong_append fs gs]

theorem layoutTabs_append (id : String) : ∀ ts us : List (Tab Field),
    layoutTabs id (ts ++ us) = layoutTabs id ts ++ layoutTabs id us
  | [], _ => rfl
  | ⟨_, _, _⟩ :: ts, us => by simp [layoutTabs, layoutTabs_append id ts us]

mutual

/-- The layout names the slots of the outline, in its order. -/
theorem addresses_marksInside : ∀ f : Field, addresses f.marksInside = f.layoutInside.map (·.1)
  | .leaf _ _ => rfl
  | .group h _ cs | .repeater h _ cs => by
    rw [marksInside, layoutInside, addresses_slot, addresses_marksAmong (.children h.id) cs]
    rfl
  | .tabs h ts => by
    rw [marksInside, layoutInside, addresses_marksTabs h.id ts]
  | .abTest h a b => by
    rw [marksInside, layoutInside, addresses_slot, addresses_append, addresses_slot,
      addresses_marksAmong (.variant h.id .a) a, addresses_marksAmong (.variant h.id .b) b]
    simp

theorem addresses_marksAmong (s : Slot) : ∀ fs : List Field,
    addresses (marksAmong s fs) = (layoutAmong fs).map (·.1)
  | [] => rfl
  | f :: fs => by
    rw [marksAmong, layoutAmong, addresses_field, addresses_append, addresses_marksInside f,
      addresses_marksAmong s fs, List.map_append]

theorem addresses_marksTabs (id : String) : ∀ ts : List (Tab Field),
    addresses (marksTabs id ts) = (layoutTabs id ts).map (·.1)
  | [] => rfl
  | ⟨tab, _, cs⟩ :: ts => by
    rw [marksTabs, layoutTabs, addresses_slot, addresses_append,
      addresses_marksAmong (.tab id tab) cs, addresses_marksTabs id ts]
    simp

end

theorem addresses_marksSlot (s : Slot) (fs : List Field) :
    addresses (marksSlot s fs) = (layoutSlot s fs).map (·.1) := by
  rw [marksSlot, layoutSlot, addresses_slot, addresses_marksAmong]
  rfl

/-- The field and everything inside it, in the order of a visit, each without what is inside it. -/
def shells (f : Field) : List Field := f.subtree.map shell

theorem shells_eq (f : Field) : f.shells = f.shell :: (places f.marksInside).map (·.2) := by
  rw [shells, subtree, List.map_cons, List.map_map, places_marksInside, List.map_map]
  rfl

end Field

namespace Tree

/-- The slots in the order of a visit, each with its fields without what is inside them. -/
def layout (t : Tree) : List (Slot × List Field) := layoutSlot .root t.fields

/-- The fields in the order of a visit, each without what is inside it. -/
def shells (t : Tree) : List Field := t.flatten.map shell

theorem shells_eq (t : Tree) : t.shells = (places t.marks).map (·.2) := by
  rw [shells, flatten, List.map_map, marks, marksSlot, places_slot, places_marksAmong .root 0,
    List.map_map]
  rfl

end Tree

/-! ## The layout along a way -/

/-- The layout inside a layer before and behind the open slot does not depend on its contents. -/
theorem Layer.layoutInside_fill (l : Layer) : ∃ ls ls', addresses l.before = ls.map (·.1) ∧
    ∀ cs, (l.fill cs).layoutInside = ls ++ (layoutSlot l.slot cs ++ ls') := by
  cases l with
  | group h n => exact ⟨[], [], rfl, fun cs => by simp [fill, layoutInside, slot, layoutSlot]⟩
  | repeater h l => exact ⟨[], [], rfl, fun cs => by simp [fill, layoutInside, slot, layoutSlot]⟩
  | tab h ts id label us =>
    refine ⟨layoutTabs h.id ts, layoutTabs h.id us, addresses_marksTabs h.id ts, fun cs => ?_⟩
    simp [fill, layoutInside, slot, layoutSlot, layoutTabs_append, layoutTabs]
  | variantA h vb =>
    refine ⟨[], layoutSlot (.variant h.id .b) vb, rfl, fun cs => ?_⟩
    simp [fill, layoutInside, slot, layoutSlot]
  | variantB h va =>
    refine ⟨layoutSlot (.variant h.id .a) va, [], addresses_marksSlot _ va, fun cs => ?_⟩
    simp [fill, layoutInside, slot, layoutSlot]

/-- Only the slot where a way ends, and what is inside it, depends on its contents. -/
theorem Path.layoutSlot_fill : ∀ (p : Path) (s : Slot), ∃ ls ls',
    addresses (p.before s) = ls.map (·.1) ∧
    ∀ cs, layoutSlot s (p.fill cs) = ls ++ (layoutSlot (p.slot s) cs ++ ls')
  | [], _ => ⟨[], [], rfl, fun _ => (List.append_nil _).symm⟩
  | v :: p, s => by
    obtain ⟨ls, ls', hls, hrest⟩ := layoutSlot_fill p v.layer.slot
    obtain ⟨ms, ms', hms, hinside⟩ := v.layer.layoutInside_fill
    refine ⟨(s, v.before.map Field.shell ++ v.layer.shell :: v.after.map Field.shell)
        :: (layoutAmong v.before ++ (ms ++ ls)), ls' ++ (ms' ++ layoutAmong v.after), ?_, fun cs => ?_⟩
    · simp [before, marksSlot, addresses_marksAmong, hms, hls]
    · rw [layoutSlot, fill, List.map_append, List.map_cons, v.layer.shell_fill, layoutAmong_append,
        layoutAmong, hinside, hrest]
      simp [slot]

/-! ## One field more -/

namespace Tree

/-- A visit of `large` comes to what a visit of `small` comes to and to one block more, which stands
behind the fields `pre`: the field `f` and everything inside it. The field stands at an index of a
slot which is visited after the slots `before` and has the contents `cs` without it; every other slot
of `small` has the same contents in `large`, and the slots that are new are those inside the field. -/
structure OneMore (small large : Tree) (f : Field) (pre : List Field)
    (before : List (Slot × List Field)) (s : Slot) (cs : List Field) (index : Nat) : Prop where
  index_le : index ≤ cs.length
  shells : ∃ post, small.shells = pre ++ post ∧ large.shells = pre ++ f.shells ++ post
  layout : ∃ ahead behind, small.layout = before ++ (s, cs) :: (ahead ++ behind) ∧
    large.layout = before ++ (s, cs.insertIdx index f.shell) :: (ahead ++ f.layoutInside ++ behind)

/-- The bigger tree has the fields of the smaller one, and those of the block. -/
theorem OneMore.shells_perm {small large : Tree} {f : Field} {pre : List Field}
    {before : List (Slot × List Field)} {s : Slot} {cs : List Field} {index : Nat}
    (h : OneMore small large f pre before s cs index) :
    large.shells.Perm (f.shells ++ small.shells) := by
  obtain ⟨post, hsmall, hlarge⟩ := h.shells
  rw [hsmall, hlarge, ← List.append_assoc]
  exact List.perm_append_comm.append_right post

/-- A field more in the slot where a way ends. -/
theorem oneMore_fill (p : Path) (xs ys : List Field) (f : Field) : ∃ before,
    addresses (p.before .root) = before.map (·.1) ∧
    OneMore ⟨p.fill (xs ++ ys)⟩ ⟨p.fill (xs ++ f :: ys)⟩ f
      ((places (p.before .root ++ marksSlot (p.slot .root) xs)).map (·.2)) before
      (p.slot .root) ((xs ++ ys).map shell) xs.length := by
  obtain ⟨ls, ls', hls, hfill⟩ := p.layoutSlot_fill .root
  refine ⟨ls, hls, ⟨by simp, ?_, ?_⟩⟩
  · refine ⟨(places (marksAmong (p.slot .root) ys ++ p.after .root)).map (·.2), ?_, ?_⟩
    · simp [shells_eq, marks_fill, marksSlot, marksAmong_append]
    · simp [shells_eq, Field.shells_eq, marks_fill, marksSlot, marksAmong_append, marksAmong]
  · refine ⟨layoutAmong xs, layoutAmong ys ++ ls', ?_, ?_⟩
    · rw [layout, hfill, layoutSlot, layoutAmong_append]
      simp
    · have hindex := insertIdx_length f.shell (ys.map shell) (xs.map shell)
      rw [List.length_map] at hindex
      rw [layout, hfill, layoutSlot, layoutAmong_append, layoutAmong, List.map_append, List.map_append,
        hindex]
      simp

theorem isOk_insert_iff (t : Tree) (s : Slot) (f : Field) (position : Option Nat) :
    (∃ r, t.insert s f position = .ok r) ↔ t.HasSlot s := by
  constructor
  · rintro ⟨r, h⟩
    by_contra hnot
    rw [insert_of_not_hasSlot f position hnot] at h
    cases h
  · intro h
    obtain ⟨p, cs, hfill, rfl, hbefore⟩ := exists_fill_of_hasSlot h
    obtain rfl : t = ⟨p.fill cs⟩ := by rw [← hfill]
    exact ⟨_, insert_fill f position hbefore⟩

/-- The contents of the slot are cut where an insertion puts the field. -/
theorem exists_fill_of_insert {t grown : Tree} {s : Slot} {f : Field} {position : Option Nat}
    {index : Nat} (h : t.insert s f position = .ok (grown, index)) : ∃ p xs ys,
      t = ⟨Path.fill (xs ++ ys) p⟩ ∧ grown = ⟨p.fill (xs ++ f :: ys)⟩ ∧ p.slot .root = s ∧
        s ∉ addresses (p.before .root) ∧ index = xs.length ∧
        xs.length = clamp position (xs ++ ys).length := by
  obtain ⟨p, cs, hfill, rfl, hbefore⟩ :=
    exists_fill_of_hasSlot ((isOk_insert_iff t s f position).1 ⟨_, h⟩)
  obtain rfl : t = ⟨p.fill cs⟩ := by rw [← hfill]
  rw [insert_fill f position hbefore] at h
  cases h
  have hle : clamp position cs.length ≤ cs.length := by
    cases position with
    | none => exact Nat.le_refl _
    | some k => exact Nat.min_le_right ..
  -- the place is counted from the start, so the siblings are cut there
  have hlength : (cs.take (clamp position cs.length)).length = clamp position cs.length :=
    List.length_take_of_le hle
  obtain ⟨xs, ys, rfl, hxs⟩ : ∃ xs ys, cs = xs ++ ys ∧ xs.length = clamp position cs.length :=
    ⟨_, _, (List.take_append_drop _ cs).symm, hlength⟩
  rw [← hxs, insertIdx_length]
  exact ⟨p, xs, ys, rfl, rfl, rfl, hbefore, rfl, hxs⟩

/-- A removal takes out the block of the first field of an id. -/
theorem oneMore_of_remove? {t rest : Tree} {id : String} {f : Field}
    (h : t.remove? id = some (rest, f)) : ∃ pre before s cs index,
      OneMore rest t f pre before s cs index ∧ ∀ g ∈ pre, g.id ≠ id := by
  obtain ⟨p, xs, ys, rfl, rfl, -, hbefore, hxs⟩ := exists_fill_of_remove? h
  obtain ⟨before, -, hmore⟩ := oneMore_fill p xs ys f
  refine ⟨_, before, _, _, _, hmore, fun g hg hid => ?_⟩
  have hmem : id ∈ ids (p.before .root ++ marksSlot (p.slot .root) xs) := by
    obtain ⟨place, hplace, rfl⟩ := List.mem_map.1 hg
    exact List.mem_map.2 ⟨place, hplace, hid⟩
  rw [ids_append, marksSlot, ids_slot, List.mem_append] at hmem
  exact hmem.elim hbefore hxs

/-- An insertion puts a block into the first slot of an address. -/
theorem oneMore_of_insert {t grown : Tree} {s : Slot} {f : Field} {position : Option Nat}
    {index : Nat} (h : t.insert s f position = .ok (grown, index)) : ∃ pre before cs,
      OneMore t grown f pre before s cs index ∧ s ∉ before.map (·.1) ∧
        index = clamp position cs.length := by
  obtain ⟨p, xs, ys, rfl, rfl, rfl, hbefore, rfl, hindex⟩ := exists_fill_of_insert h
  obtain ⟨before, hnames, hmore⟩ := oneMore_fill p xs ys f
  refine ⟨_, before, _, hmore, hnames ▸ hbefore, ?_⟩
  rw [hindex, List.length_map]

/-- Removals and insertions change one block of the visit and nothing else, also where ids and slot
addresses occur more than once. A removal takes out the first field of the id with everything inside
it, and fails only where no field has the id. An insertion succeeds exactly when the tree has a slot
of the address; then it puts the field and everything inside it into the first such slot, at the
position or at the end of the slot. -/
theorem edits_change_one_block (t : Tree) :
    (∀ id, match t.remove? id with
      | none => id ∉ t.flatten.map (·.id)
      | some (rest, f) => f.id = id ∧ ∃ pre before s cs index,
        OneMore rest t f pre before s cs index ∧ ∀ g ∈ pre, g.id ≠ id) ∧
    ∀ target f position, match t.insert target f (some position) with
      | .error e => e = .slotNotFound target ∧
        ¬ (target = .root ∨ ∃ g ∈ t.flatten, target ∈ g.slots.map (·.1))
      | .ok (grown, index) => (target = .root ∨ ∃ g ∈ t.flatten, target ∈ g.slots.map (·.1)) ∧
        ∃ pre before cs, OneMore t grown f pre before target cs index ∧
          target ∉ before.map (·.1) ∧ index = min position cs.length := by
  refine ⟨fun id => ?_, fun target f position => ?_⟩
  · cases h : t.remove? id with
    | none =>
      rw [← ids_marks, ← remove?_isSome, h]
      exact Bool.false_ne_true
    | some r =>
      obtain ⟨_, _, _, _, _, hid, _⟩ := exists_fill_of_remove? h
      exact ⟨hid, oneMore_of_remove? h⟩
  · have hslot : (∃ r, t.insert target f (some position) = .ok r) ↔
        target = .root ∨ ∃ g ∈ t.flatten, target ∈ g.slots.map (·.1) :=
      (isOk_insert_iff t target f (some position)).trans hasSlot_iff
    cases h : t.insert target f (some position) with
    | error e =>
      have hnot : ¬ t.HasSlot target := fun hhas => by
        obtain ⟨r, hr⟩ := (isOk_insert_iff t target f (some position)).2 hhas
        exact nomatch h.symm.trans hr
      rw [insert_of_not_hasSlot f (some position) hnot] at h
      cases h
      exact ⟨rfl, fun hhas => hnot (hasSlot_iff.2 hhas)⟩
    | ok r =>
      exact ⟨hslot.1 ⟨r, h⟩, oneMore_of_insert h⟩

/-- An A/B test in the first arm of another one of the same id, with fields in its second arm. -/
def nestedTests (fs : List Field) : Tree :=
  let head : Field.Head := ⟨"test", "", none, [], [], none, false⟩
  ⟨[.abTest head [.abTest head [] fs] []]⟩

example (f : Field) :
    (nestedTests []).insert (.variant "test" .b) f (some 7) = .ok (nestedTests [f], 0) := rfl

end Tree

end FormBuilder
