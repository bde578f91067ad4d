/-
The exact effect of a drop on a tree whose fields and tabs can be told apart. A field that is moved
is taken out first and the target is looked up in what is left: a target inside the field is not
there any more, every other target is in the slot where it was.
-/
import FormBuilder.Drag
import FormBuilder.Proofs.Tree.Distinct

namespace FormBuilder.Drag

open Outline

/-! ## Targets -/

/-- The slot that a target means in a tree: the slot itself, or the one in which the field stands. -/
def Target.Means (t : Tree) (s : Slot) : Target → Prop
  | .field o => ∃ index, t.locate? o = some (s, index)
  | .slot s' => s' = s ∧ t.HasSlot s

/-- The target is neither the field nor anything inside it. -/
def Target.Outside (f : Field) : Target → Prop
  | .field o => o ∉ f.subtree.map (·.id)
  | .slot s => ∀ g ∈ f.subtree, ¬ g.Owns s

/-- In the slot the field stands where the target puts it: immediately before the field of the
target, or as the last. -/
def Target.Holds (t : Tree) (s : Slot) (f : Field) : Target → Prop
  | .field o => ∃ pre g post, (s, pre ++ f :: g :: post) ∈ t.slots ∧ g.id = o
  | .slot _ => ∃ pre, (s, pre ++ [f]) ∈ t.slots

/-- A field of the tree and the slot into which a drop on the target moves it. -/
structure MovesTo (t : Tree) (x : String) (target : Target) (f : Field) (s : Slot) : Prop where
  found : t.find? x = some f
  means : target.Means t s
  outside : target.Outside f

/-! ## What is left -/

section Removed

variable {t rest : Tree} {x : String} {f : Field}

theorem marks_of_rest (hr : t.remove? x = some (rest, f)) {m : Mark} (hm : m ∈ rest.marks) :
    m ∈ t.marks := by
  obtain ⟨s, hperm⟩ := Tree.marks_perm_of_remove? hr
  exact hperm.mem_iff.2 (List.mem_append_right _ hm)

theorem id_mem_rest (hr : t.remove? x = some (rest, f)) {o : String} (ho : o ∈ ids t.marks)
    (hout : o ∉ f.subtree.map (·.id)) : o ∈ ids rest.marks := by
  obtain ⟨s, hperm⟩ := Tree.marks_perm_of_remove? hr
  have hmem := (ids_perm hperm).mem_iff.1 ho
  rw [Field.ids_subtree] at hout
  rw [ids_append, List.mem_append] at hmem
  exact hmem.resolve_left (by simpa using hout)

theorem hasSlot_rest (hr : t.remove? x = some (rest, f)) {s : Slot} (hs : t.HasSlot s)
    (hout : ∀ g ∈ f.subtree, ¬ g.Owns s) : rest.HasSlot s := by
  obtain ⟨s', hperm⟩ := Tree.marks_perm_of_remove? hr
  have hmem := hperm.mem_iff.1 (Tree.slot_mem_marks.2 hs)
  rw [List.cons_append, List.mem_cons, List.mem_append] at hmem
  rcases hmem with hmem | hmem | hmem
  · cases hmem
  · obtain ⟨g, hg, hown⟩ := Field.slot_mem_marksInside_iff.1 hmem
    exact absurd hown (hout g hg)
  · exact Tree.slot_mem_marks.1 hmem

/-- Every field that is left stands in the slot where it stood. -/
theorem locate?_rest (ht : t.Distinct) (hr : t.remove? x = some (rest, f)) {o : String}
    {s s' : Slot} {index index' : Nat} (h : t.locate? o = some (s, index))
    (h' : rest.locate? o = some (s', index')) : s' = s := by
  obtain ⟨g, hg, hid⟩ := Tree.field_mem_of_locate? h
  obtain ⟨g', hg', hid'⟩ := Tree.field_mem_of_locate? h'
  exact Tree.slot_unique ht.nodup_ids (marks_of_rest hr hg') hg (hid'.trans hid.symm)

end Removed

/-! ## Moving a field -/

section Moving

variable {t : Tree} {x : String} {target : Target} {f : Field} {s : Slot}

theorem MovesTo.exists_rest (h : MovesTo t x target f s) :
    ∃ rest, t.remove? x = some (rest, f) ∧ f.id = x := by
  have hmem : x ∈ ids t.marks := by
    by_contra hnot
    have hfound := h.found
    rw [Tree.find?, Tree.entry?_of_not_mem hnot] at hfound
    cases hfound
  obtain ⟨⟨rest, g⟩, hr⟩ := Option.isSome_iff_exists.1 (Tree.remove?_isSome.2 hmem)
  have hg : g = f := Option.some.inj ((Tree.find?_of_remove? hr).symm.trans h.found)
  obtain ⟨_, _, _, _, _, hid, _⟩ := Tree.exists_fill_of_remove? hr
  exact ⟨rest, hg ▸ hr, hg ▸ hid⟩

theorem MovesTo.ne_self (h : MovesTo t x target f s) (hid : f.id = x) : target ≠ .field x := by
  rintro rfl
  exact h.outside (List.mem_map.2 ⟨f, List.mem_cons_self .., hid⟩)

/-- A field that is moved onto another one stands before it, in the slot in which that stood. -/
theorem dropExisting_field {o : String} (ht : t.Distinct) (h : MovesTo t x (.field o) f s) :
    (dropExisting t x (.field o)).outcome = .moved x s ∧
      (Target.field o).Holds (dropExisting t x (.field o)).tree s f ∧
      ∃ rest, t.remove? x = some (rest, f) ∧
        (dropExisting t x (.field o)).tree.remove? x = some (rest, f) := by
  obtain ⟨rest, hr, rfl⟩ := h.exists_rest
  have hne := h.ne_self rfl
  obtain ⟨index, hloc⟩ := h.means
  obtain ⟨g₀, hg₀, hid₀⟩ := Tree.field_mem_of_locate? hloc
  -- the target is not in what is moved, so it is found again once that is taken out
  have ho : o ∈ ids rest.marks := id_mem_rest hr (mem_ids.2 ⟨s, g₀, hg₀, hid₀⟩) h.outside
  obtain ⟨p, pre, g, post, hfill, rfl, hp, hpre⟩ := Tree.exists_fill_of_mem_ids ho
  obtain rfl : rest = ⟨p.fill (pre ++ g :: post)⟩ := by rw [← hfill]
  have hlocate : Tree.locate? ⟨p.fill (pre ++ g :: post)⟩ g.id = _ := Tree.locate?_fill hp hpre
  obtain rfl : p.slot .root = s := locate?_rest ht hr hloc hlocate
  have hinsert := Tree.insert_before pre (g :: post) f
    (Tree.not_mem_before_of_nodup (ht.nodup_addresses_rest hr))
  have hdrop : (dropExisting t f.id (.field g.id)).outcome = .moved f.id (p.slot .root) ∧
      (dropExisting t f.id (.field g.id)).tree = ⟨p.fill (pre ++ f :: g :: post)⟩ := by
    simp only [dropExisting, if_neg hne, hr, hlocate, Option.map_some, hinsert, and_self]
  rw [hdrop.1, hdrop.2]
  exact ⟨rfl, ⟨pre, g, post, Tree.mem_slots_fill _ p, rfl⟩, _, hr,
    Tree.remove?_inserted (ht.not_mem_rest hr)⟩

/-- A field that is moved into a slot is the last there. -/
theorem dropExisting_slot {s' : Slot} (ht : t.Distinct) (h : MovesTo t x (.slot s') f s) :
    (dropExisting t x (.slot s')).outcome = .moved x s ∧
      (Target.slot s').Holds (dropExisting t x (.slot s')).tree s f ∧
      ∃ rest, t.remove? x = some (rest, f) ∧
        (dropExisting t x (.slot s')).tree.remove? x = some (rest, f) := by
  obtain ⟨rest, hr, rfl⟩ := h.exists_rest
  have hne := h.ne_self rfl
  obtain ⟨rfl, hs⟩ := h.means
  obtain ⟨p, cs, hfill, rfl, -⟩ := Tree.exists_fill_of_hasSlot (hasSlot_rest hr hs h.outside)
  obtain rfl : rest = ⟨p.fill cs⟩ := by rw [← hfill]
  have hinsert := Tree.insert_end cs f
    (Tree.not_mem_before_of_nodup (ht.nodup_addresses_rest hr))
  have hdrop : (dropExisting t f.id (.slot (p.slot .root))).outcome = .moved f.id (p.slot .root) ∧
      (dropExisting t f.id (.slot (p.slot .root))).tree = ⟨p.fill (cs ++ [f])⟩ := by
    simp only [dropExisting, if_neg hne, hr, hinsert, and_self]
  rw [hdrop.1, hdrop.2]
  exact ⟨rfl, ⟨cs, Tree.mem_slots_fill _ p⟩, _, hr, Tree.remove?_appended (ht.not_mem_rest hr)⟩

/-- Where a field is not moved, the tree stays as it was. -/
theorem dropExisting_unchanged (ht : t.Distinct) (h : ¬ ∃ f s, MovesTo t x target f s) :
    (dropExisting t x target).outcome = .unchanged ∧ (dropExisting t x target).tree = t := by
  by_cases hne : target = .field x
  · simp [dropExisting, hne]
  cases hr : t.remove? x with
  | none => simp [dropExisting, hne, hr]
  | some r =>
    obtain ⟨rest, f⟩ := r
    have hfound := Tree.find?_of_remove? hr
    cases target with
    | field o =>
      cases hloc : rest.locate? o with
      | none => simp [dropExisting, hne, hr, hloc]
      | some place =>
        obtain ⟨s, index⟩ := place
        obtain ⟨g, hg, hid⟩ := Tree.field_mem_of_locate? hloc
        -- the target is left, so it was there before and is outside the field
        have hleft : o ∈ ids rest.marks := mem_ids.2 ⟨s, g, hg, hid⟩
        obtain ⟨s', index', hloc'⟩ := Tree.exists_locate? (t := t)
          (mem_ids.2 ⟨s, g, marks_of_rest hr hg, hid⟩)
        refine absurd ⟨f, s', hfound, ⟨index', hloc'⟩, fun hin => ?_⟩ h
        exact (List.nodup_append.1 (ht.ids_apart hr)).2.2 _ hin _ hleft rfl
    | slot s =>
      by_cases hs : rest.HasSlot s
      · have hmem := Tree.slot_mem_marks.2 hs
        refine absurd ⟨f, s, hfound, ⟨rfl, ?_⟩, fun g hg hown => ?_⟩ h
        · exact Tree.slot_mem_marks.1 (marks_of_rest hr hmem)
        · have hin := mem_addresses.2 (Field.slot_mem_marksInside_iff.2 ⟨g, hg, hown⟩)
          exact (List.nodup_append.1 (ht.addresses_apart hr)).2.2 _ hin _ (mem_addresses.2 hmem) rfl
      · simp [dropExisting, hr, Tree.insert_of_not_hasSlot f none hs]

end Moving

/-! ## Adding a field -/

section Adding

variable {t : Tree} {target : Target} {f : Field} {s : Slot}

/-- The way to the slot that a target means. -/
theorem Target.Means.exists_fill (ht : t.Distinct) (h : target.Means t s) :
    ∃ p cs, t = ⟨Path.fill cs p⟩ ∧ p.slot .root = s ∧ s ∉ addresses (p.before .root) := by
  cases target with
  | field o =>
    obtain ⟨index, hloc⟩ := h
    obtain ⟨g, hg, hid⟩ := Tree.field_mem_of_locate? hloc
    obtain ⟨p, pre, g', post, hfill, rfl, hp, hpre⟩ :=
      Tree.exists_fill_of_mem_ids (mem_ids.2 ⟨s, g, hg, hid⟩)
    obtain rfl : t = ⟨p.fill (pre ++ g' :: post)⟩ := by rw [← hfill]
    rw [Tree.locate?_fill hp hpre] at hloc
    cases hloc
    exact ⟨p, _, rfl, rfl, Tree.not_mem_before_of_nodup ht.nodup_addresses⟩
  | slot s' =>
    obtain ⟨rfl, hs⟩ := h
    obtain ⟨p, cs, hfill, hslot, hbefore⟩ := Tree.exists_fill_of_hasSlot hs
    exact ⟨p, cs, by rw [← hfill], hslot, hbefore⟩

/-- A new field is the last in the slot that the target means. -/
theorem dropNew_inserted (ht : t.Distinct) (hnew : f.id ∉ ids t.marks) (h : target.Means t s) :
    (dropNew t f target).outcome = .inserted f.id s ∧
      (∃ pre, (s, pre ++ [f]) ∈ (dropNew t f target).tree.slots) ∧
      (dropNew t f target).tree.remove? f.id = some (t, f) := by
  obtain ⟨p, cs, rfl, rfl, hbefore⟩ := h.exists_fill ht
  have hinsert := Tree.insert_end cs f hbefore
  have hdrop : (dropNew ⟨p.fill cs⟩ f target).outcome = .inserted f.id (p.slot .root) ∧
      (dropNew ⟨p.fill cs⟩ f target).tree = ⟨p.fill (cs ++ [f])⟩ := by
    cases target with
    | field o =>
      obtain ⟨index, hloc⟩ := h
      simp only [dropNew, hloc, Option.map_some, hinsert, and_self]
    | slot s' =>
      obtain ⟨rfl, -⟩ := h
      simp only [dropNew, hinsert, and_self]
  rw [hdrop.1, hdrop.2]
  exact ⟨rfl, ⟨cs, Tree.mem_slots_fill _ p⟩, Tree.remove?_appended hnew⟩

/-- Where a target means no slot, nothing is added. -/
theorem dropNew_unchanged (h : ¬ ∃ s, target.Means t s) :
    (dropNew t f target).outcome = .unchanged ∧ (dropNew t f target).tree = t := by
  cases target with
  | field o =>
    cases hloc : t.locate? o with
    | none => simp [dropNew, hloc]
    | some place => exact absurd ⟨place.1, place.2, hloc⟩ h
  | slot s =>
    have hs : ¬ t.HasSlot s := fun hs => h ⟨s, rfl, hs⟩
    simp [dropNew, Tree.insert_of_not_hasSlot f none hs]

end Adding

/-! ## Dropping -/

/-- A drop of a new field changes nothing, or it inserts the field. -/
theorem dropNew_cases (t : Tree) (f : Field) (target : Target) :
    let d := dropNew t f target
    (d.outcome = .unchanged ∧ d.tree = t) ∨
      ∃ slot index, t.insert slot f none = .ok (d.tree, index) ∧ d.outcome = .inserted f.id slot := by
  dsimp only
  unfold dropNew
  dsimp only
  split
  · exact .inl ⟨rfl, rfl⟩
  split
  · rename_i hinsert
    exact .inr ⟨_, _, hinsert, rfl⟩
  · exact .inl ⟨rfl, rfl⟩

/-- A drop of a field of the tree changes nothing, or it takes the field out and puts it in
elsewhere. -/
theorem dropExisting_cases (t : Tree) (id : String) (target : Target) :
    let d := dropExisting t id target
    (d.outcome = .unchanged ∧ d.tree = t) ∨
      ∃ rest f slot position index, t.remove? id = some (rest, f) ∧
        rest.insert slot f position = .ok (d.tree, index) ∧ d.outcome = .moved id slot := by
  dsimp only
  unfold dropExisting
  split
  · exact .inl ⟨rfl, rfl⟩
  split
  · exact .inl ⟨rfl, rfl⟩
  rename_i hremove
  dsimp only
  split
  · exact .inl ⟨rfl, rfl⟩
  split
  · rename_i hinsert
    exact .inr ⟨_, _, _, _, _, hremove, hinsert, rfl⟩
  · exact .inl ⟨rfl, rfl⟩

theorem id_new (id : String) (type : FieldType) (subtype : Option TextSubtype) (fresh : FreshIds) :
    (Field.new id type subtype fresh).id = id := by
  cases type <;> rfl

/-- The exact effect of a drop. A field of the tree is moved to where the target means, unless that
is the field itself or inside it, and taking it out again leaves what taking it out before would
have left; a new field is put at the end of the slot that the target means, and taking it out again
gives the old tree. In every other case nothing changes. -/
theorem drop_exact {t : Tree} (ht : t.Distinct) (target : Target) (fresh : FreshIds) :
    (∀ copy : Field, let d := drop (some (.existing copy)) (some target) t fresh
      (∀ f s, MovesTo t copy.id target f s → d.outcome = .moved copy.id s ∧
        target.Holds d.tree s f ∧
        ∃ rest, t.remove? copy.id = some (rest, f) ∧ d.tree.remove? copy.id = some (rest, f)) ∧
      ((¬ ∃ f s, MovesTo t copy.id target f s) → d.outcome = .unchanged ∧ d.tree = t)) ∧
    (∀ type subtype preview, let d := drop (some (.template type subtype preview)) (some target) t fresh
      let f := Field.new (fresh 0) type subtype (fresh.skip 1)
      (t.contains (fresh 0) = false → ∀ s, target.Means t s → d.outcome = .inserted (fresh 0) s ∧
        (∃ pre, (s, pre ++ [f]) ∈ d.tree.slots) ∧ d.tree.remove? (fresh 0) = some (t, f)) ∧
      ((¬ ∃ s, target.Means t s) → d.outcome = .unchanged ∧ d.tree = t)) := by
  refine ⟨fun copy => ⟨fun f s h => ?_, dropExisting_unchanged ht⟩,
    fun type subtype preview => ⟨fun hnew s h => ?_, dropNew_unchanged⟩⟩
  · cases target with
    | field o => exact dropExisting_field ht h
    | slot s' => exact dropExisting_slot ht h
  · have hid := id_new (fresh 0) type subtype (fresh.skip 1)
    have hnot : (Field.new (fresh 0) type subtype (fresh.skip 1)).id ∉ ids t.marks := by
      rw [hid, ← Tree.contains_iff, hnew]
      exact Bool.false_ne_true
    -- the new field is named by the first fresh id
    have hinserted := dropNew_inserted ht hnot h
    rw [hid] at hinserted
    exact hinserted

/-- Two tabs, one with a page break in it, and a progress tracker behind them. -/
def tabsTree : Tree :=
  let head id : Field.Head := ⟨id, "", none, [], [], none, false⟩
  ⟨[.tabs (head "tabs") [⟨"one", "", [.leaf (head "break") .pageBreak]⟩, ⟨"two", "", []⟩],
    .leaf (head "tracker") .progressTracker]⟩

theorem drop_tabsTree :
    let stock : FreshIds := fun n => "new-" ++ toString n
    let copy := Field.new "break" .pageBreak none stock
    let two := Slot.tab "tabs" "two"
    tabsTree.Distinct ∧
      (drop (some (.existing copy)) (some (.field "tracker")) tabsTree stock).outcome
        = .moved "break" .root ∧
      (drop (some (.template .rating none copy)) (some (.slot two)) tabsTree stock).outcome
        = .inserted (stock 0) two := by
  intro stock copy two
  have ht : tabsTree.Distinct := by
    refine ⟨by decide, fun h ts hmem => ?_⟩
    simp [tabsTree, Tree.flatten, Tree.entries, Field.entriesFrom, Field.inside, Field.insideTabs]
      at hmem
    rw [hmem.2]
    decide
  refine ⟨ht, (((drop_exact ht (.field "tracker") stock).1 copy).1 _ .root ⟨rfl, ⟨1, rfl⟩, ?_⟩).1,
    (((drop_exact ht (.slot two) stock).2 .rating none copy).1 ?_ two ⟨rfl, ?_⟩).1⟩
  · simp [Target.Outside, Field.subtree, Field.inside, Field.id, Field.head]
  · decide
  · decide

end FormBuilder.Drag
