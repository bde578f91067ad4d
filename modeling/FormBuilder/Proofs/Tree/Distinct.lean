/-
Trees in which every field and every slot can be told apart by name: no two fields have one id, and
no two tabs of a field do. Then no two slots have one address, because a slot is named after the
field that owns it.
-/
import FormBuilder.Proofs.Tree.Edit
import Mathlib.Data.List.Nodup

namespace FormBuilder

open Outline FormBuilder.Field

/-- No two fields of the tree have the same id, and no two tabs of one field. -/
structure Tree.Distinct (t : Tree) : Prop where
  ids : (t.flatten.map (·.id)).Nodup
  tabs : ∀ h ts, Field.tabs h ts ∈ t.flatten → (ts.map (·.id)).Nodup

/-! ## Owners -/

/-- A slot is named after the field that owns it. -/
theorem Field.Owns.container? {f : Field} {s : Slot} (h : f.Owns s) : s.container? = some f.id := by
  cases f with
  | leaf => exact absurd h owns_leaf
  | group => rw [owns_group.1 h]; rfl
  | repeater => rw [owns_repeater.1 h]; rfl
  | tabs =>
    obtain ⟨t, -, rfl⟩ := owns_tabs.1 h
    rfl
  | abTest =>
    rcases owns_abTest.1 h with rfl | rfl
    · rfl
    · rfl

theorem owner_mem_inside {f : Field} {s : Slot} (h : .slot s ∈ f.marksInside) :
    ∃ c ∈ f.id :: ids f.marksInside, s.container? = some c := by
  rcases (slot_mem_marksInside f).1 h with hown | ⟨e, he, hown⟩
  · exact ⟨f.id, List.mem_cons_self .., hown.container?⟩
  · refine ⟨e.field.id, List.mem_cons_of_mem _ ?_, hown.container?⟩
    rw [ids_marksInside]
    exact List.mem_map_of_mem he

theorem owner_mem_among {slot s : Slot} {fs : List Field} (h : .slot s ∈ marksAmong slot fs) :
    ∃ c ∈ ids (marksAmong slot fs), s.container? = some c := by
  obtain ⟨e, he, hown⟩ := (slot_mem_marksAmong slot 0 fs).1 h
  refine ⟨e.field.id, ?_, hown.container?⟩
  rw [ids_marksAmong slot 0]
  exact List.mem_map_of_mem he

theorem not_mem_addresses_among {slot s : Slot} {c : String} {fs : List Field}
    (hs : s.container? = some c) (hc : c ∉ ids (marksAmong slot fs)) :
    s ∉ addresses (marksAmong slot fs) := by
  intro hmem
  obtain ⟨d, hd, hsd⟩ := owner_mem_among (mem_addresses.1 hmem)
  exact hc (Option.some.inj (hs.symm.trans hsd) ▸ hd)

/-- A slot in the tabs of a field is that of a tab, or is named after a field in the tabs. -/
theorem owner_mem_tabs {id : String} {s : Slot} : ∀ {ts : List (Tab Field)},
    .slot s ∈ marksTabs id ts →
      (∃ t ∈ ts, s = .tab id t.id) ∨ ∃ c ∈ ids (marksTabs id ts), s.container? = some c
  | ⟨tab, _, cs⟩ :: ts, h => by
    rw [marksTabs, List.mem_cons, List.mem_append, Mark.slot.injEq] at h
    rcases h with rfl | h | h
    · exact .inl ⟨_, List.mem_cons_self .., rfl⟩
    · obtain ⟨c, hc, hs⟩ := owner_mem_among h
      exact .inr ⟨c, by simp [marksTabs, hc], hs⟩
    · rcases owner_mem_tabs h with ⟨t, ht, rfl⟩ | ⟨c, hc, hs⟩
      · exact .inl ⟨t, List.mem_cons_of_mem _ ht, rfl⟩
      · exact .inr ⟨c, by simp [marksTabs, hc], hs⟩

/-! ## Addresses -/

/-- No tabs field among the marks has two tabs of one id. -/
def TabsDistinct (ms : List Mark) : Prop :=
  ∀ s h ts, .field s (.tabs h ts) ∈ ms → (ts.map (·.id)).Nodup

theorem TabsDistinct.mono {ms ns : List Mark} (h : TabsDistinct ms) (hsub : ∀ m ∈ ns, m ∈ ms) :
    TabsDistinct ns :=
  fun s hd ts hm => h s hd ts (hsub _ hm)

/-- Slots of two outlines are apart when their owners are. -/
theorem disjoint_addresses {ms ns : List Mark} {cs ds : List String}
    (hms : ∀ s, .slot s ∈ ms → ∃ c ∈ cs, s.container? = some c)
    (hns : ∀ s, .slot s ∈ ns → ∃ c ∈ ds, s.container? = some c)
    (hdisj : ∀ c ∈ cs, ∀ d ∈ ds, c ≠ d) : ∀ s ∈ addresses ms, ∀ s' ∈ addresses ns, s ≠ s' := by
  rintro s hs _ hs' rfl
  obtain ⟨c, hc, hsc⟩ := hms s (mem_addresses.1 hs)
  obtain ⟨d, hd, hsd⟩ := hns s (mem_addresses.1 hs')
  exact hdisj c hc d hd (Option.some.inj (hsc.symm.trans hsd))

mutual

theorem nodup_addresses_inside : ∀ f : Field, (f.id :: ids f.marksInside).Nodup →
    (∀ h ts, f = .tabs h ts → (ts.map (·.id)).Nodup) → TabsDistinct f.marksInside →
    (addresses f.marksInside).Nodup
  | .leaf _ _, _, _, _ => .nil
  | .group h _ cs, hid, _, htabs | .repeater h _ cs, hid, _, htabs => by
    obtain ⟨hnot, hcs⟩ := List.nodup_cons.1 hid
    exact List.nodup_cons.2 ⟨not_mem_addresses_among rfl hnot,
      nodup_addresses_among (.children h.id) cs hcs (htabs.mono fun m => List.mem_cons_of_mem _)⟩
  | .tabs h ts, hid, hown, htabs => nodup_addresses_tabs h.id ts hid (hown h ts rfl) htabs
  | .abTest h a b, hid, _, htabs => by
    simp only [marksInside, ids_slot, ids_append, List.nodup_cons, List.nodup_append,
      List.mem_append, not_or] at hid
    obtain ⟨⟨hnotA, hnotB⟩, hidA, hidB, hdisj⟩ := hid
    have ha := nodup_addresses_among (.variant h.id .a) a hidA (htabs.mono fun m hm => by
      simp [marksInside, hm])
    have hb := nodup_addresses_among (.variant h.id .b) b hidB (htabs.mono fun m hm => by
      simp [marksInside, hm])
    -- every address names its owner, so distinct owners keep the two variants apart
    have happart := disjoint_addresses (fun _ => owner_mem_among) (fun _ => owner_mem_among) hdisj
    have haA : Slot.variant h.id .a ∉ addresses (marksAmong (.variant h.id .a) a) :=
      not_mem_addresses_among rfl hnotA
    have haB : Slot.variant h.id .a ∉ addresses (marksAmong (.variant h.id .b) b) :=
      not_mem_addresses_among rfl hnotB
    have hbA : Slot.variant h.id .b ∉ addresses (marksAmong (.variant h.id .a) a) :=
      not_mem_addresses_among rfl hnotA
    have hbB : Slot.variant h.id .b ∉ addresses (marksAmong (.variant h.id .b) b) :=
      not_mem_addresses_among rfl hnotB
    rw [marksInside, addresses_slot, addresses_append, addresses_slot, List.nodup_cons, List.mem_append,
      List.mem_cons, List.nodup_append, List.nodup_cons]
    refine ⟨by simp [haA, haB], ha, ⟨hbB, hb⟩, fun s hs s' hs' => ?_⟩
    rcases List.mem_cons.1 hs' with rfl | hs'
    · exact fun heq => hbA (heq ▸ hs)
    · exact happart s hs s' hs'

theorem nodup_addresses_among (slot : Slot) : ∀ fs : List Field, (ids (marksAmong slot fs)).Nodup →
    TabsDistinct (marksAmong slot fs) → (addresses (marksAmong slot fs)).Nodup
  | [], _, _ => .nil
  | f :: fs, hid, htabs => by
    simp only [marksAmong, ids_field, ids_append, id_shell] at hid
    rw [← List.cons_append, List.nodup_append] at hid
    obtain ⟨hidf, hidfs, hdisj⟩ := hid
    have hf := nodup_addresses_inside f hidf
      (fun h ts hts => by
        have hm : .field slot (Field.tabs h ts).shell ∈ marksAmong slot (f :: fs) := by
          rw [marksAmong, hts]
          exact List.mem_cons_self ..
        simpa [shell, List.map_map, Function.comp_def] using htabs slot h _ hm)
      (htabs.mono fun m hm => by simp [marksAmong, hm])
    have hfs := nodup_addresses_among slot fs hidfs (htabs.mono fun m hm => by simp [marksAmong, hm])
    rw [marksAmong, addresses_field, addresses_append, List.nodup_append]
    exact ⟨hf, hfs, disjoint_addresses (fun s => owner_mem_inside) (fun s => owner_mem_among) hdisj⟩

theorem nodup_addresses_tabs (id : String) : ∀ ts : List (Tab Field), (id :: ids (marksTabs id ts)).Nodup →
    (ts.map (·.id)).Nodup → TabsDistinct (marksTabs id ts) → (addresses (marksTabs id ts)).Nodup
  | [], _, _, _ => .nil
  | ⟨tab, label, cs⟩ :: ts, hid, hown, htabs => by
    simp only [marksTabs, ids_slot, ids_append, List.nodup_cons, List.nodup_append,
      List.mem_append, not_or] at hid
    obtain ⟨⟨hnotC, hnotT⟩, hidC, hidT, hdisj⟩ := hid
    obtain ⟨hnew, hrest⟩ := List.nodup_cons.1 hown
    have hc := nodup_addresses_among (.tab id tab) cs hidC (htabs.mono fun m hm => by
      simp [marksTabs, hm])
    have ht := nodup_addresses_tabs id ts (List.nodup_cons.2 ⟨hnotT, hidT⟩) hrest
      (htabs.mono fun m hm => by simp [marksTabs, hm])
    have hmemT : Slot.tab id tab ∉ addresses (marksTabs id ts) := by
      intro hmem
      rcases owner_mem_tabs (mem_addresses.1 hmem) with ⟨t, ht, heq⟩ | ⟨c, hc, hsc⟩
      · have htab : t.id = tab := by simpa using heq.symm
        exact hnew (List.mem_map.2 ⟨t, ht, htab⟩)
      · cases hsc
        exact hnotT hc
    -- the slots of the first tab's fields are named after them, those of the other tabs after the
    -- field of the tabs or the fields in the other tabs
    have hapart : ∀ s ∈ addresses (marksAmong (.tab id tab) cs), ∀ s' ∈ addresses (marksTabs id ts), s ≠ s' := by
      rintro s hs _ hs' rfl
      obtain ⟨c, hcmem, hsc⟩ := owner_mem_among (mem_addresses.1 hs)
      rcases owner_mem_tabs (mem_addresses.1 hs') with ⟨t, -, rfl⟩ | ⟨d, hd, hsd⟩
      · cases hsc
        exact hnotC hcmem
      · exact hdisj c hcmem d hd (Option.some.inj (hsc.symm.trans hsd))
    rw [marksTabs, addresses_slot, addresses_append, List.nodup_cons, List.mem_append, List.nodup_append]
    exact ⟨fun hmem => hmem.elim (not_mem_addresses_among rfl hnotC) hmemT, hc, ht, hapart⟩

end

namespace Tree

theorem mem_flatten_of_field_mem {t : Tree} {s : Slot} {f : Field} (h : .field s f ∈ t.marks) :
    ∃ g ∈ t.flatten, g.shell = f := by
  have hplace : (s, f) ∈ places (marksAmong .root t.fields) := mem_places.2 (by
    simpa [marks, marksSlot] using h)
  rw [places_marksAmong .root 0] at hplace
  obtain ⟨e, he, heq⟩ := List.mem_map.1 hplace
  cases heq
  exact ⟨e.field, List.mem_map_of_mem he, rfl⟩

/-- No two slots of a tree have one address, when fields and tabs can be told apart. -/
theorem Distinct.nodup_addresses {t : Tree} (h : t.Distinct) : (addresses t.marks).Nodup := by
  have hids : (Outline.ids (marksAmong .root t.fields)).Nodup := by
    have := h.ids
    rwa [← ids_marks, marks, marksSlot, ids_slot] at this
  have htabs : TabsDistinct (marksAmong .root t.fields) := by
    intro s hd ts hm
    obtain ⟨g, hg, hshell⟩ := mem_flatten_of_field_mem (t := t) (List.mem_cons_of_mem _ hm)
    cases g with
    | tabs hd' ts' =>
      simp only [shell, Field.tabs.injEq] at hshell
      obtain ⟨-, rfl⟩ := hshell
      simpa [List.map_map, Function.comp_def] using h.tabs hd' ts' hg
    | _ => cases hshell
  have hroot : Slot.root ∉ addresses (marksAmong .root t.fields) := by
    intro hmem
    obtain ⟨_, -, hs⟩ := owner_mem_among (mem_addresses.1 hmem)
    cases hs
  exact List.nodup_cons.2 ⟨hroot, nodup_addresses_among .root t.fields hids htabs⟩

theorem Distinct.nodup_ids {t : Tree} (h : t.Distinct) : (Outline.ids t.marks).Nodup := by
  rw [ids_marks]
  exact h.ids

/-- A field that stands at two places stands in one slot, when fields can be told apart. -/
theorem slot_unique {ms : List Mark} (h : (Outline.ids ms).Nodup) {s s' : Slot} {f f' : Field}
    (hf : .field s f ∈ ms) (hf' : .field s' f' ∈ ms) (hid : f.id = f'.id) : s = s' := by
  have heq : (s, f) = (s', f') :=
    List.inj_on_of_nodup_map h (mem_places.2 hf) (mem_places.2 hf') hid
  exact congrArg Prod.fst heq

/-- Before the slot where a way ends no slot has its address. -/
theorem not_mem_before_of_nodup {p : Path} {cs : List Field}
    (h : (addresses (marks ⟨p.fill cs⟩)).Nodup) : p.slot .root ∉ addresses (p.before .root) := by
  rw [marks_fill, addresses_append, List.nodup_append] at h
  intro hmem
  exact h.2.2 _ hmem _ (by simp [marksSlot]) rfl

/-! ## Removal -/

variable {t rest : Tree} {x : String} {f : Field}

/-- What is taken out shares no id with what stays. -/
theorem Distinct.ids_apart (h : t.Distinct) (hr : t.remove? x = some (rest, f)) :
    (f.subtree.map (·.id) ++ Outline.ids rest.marks).Nodup := by
  obtain ⟨s, hperm⟩ := marks_perm_of_remove? hr
  have hnodup := (ids_perm hperm).nodup_iff.1 h.nodup_ids
  rw [ids_subtree]
  simpa using hnodup

/-- What is taken out shares no slot address with what stays. -/
theorem Distinct.addresses_apart (h : t.Distinct) (hr : t.remove? x = some (rest, f)) :
    (addresses f.marksInside ++ addresses rest.marks).Nodup := by
  obtain ⟨s, hperm⟩ := marks_perm_of_remove? hr
  have hnodup := (addresses_perm hperm).nodup_iff.1 h.nodup_addresses
  simpa using hnodup

/-- In what is left no two slots have one address. -/
theorem Distinct.nodup_addresses_rest (h : t.Distinct) (hr : t.remove? x = some (rest, f)) :
    (addresses rest.marks).Nodup :=
  (List.nodup_append.1 (h.addresses_apart hr)).2.1

theorem Distinct.not_mem_rest (h : t.Distinct) (hr : t.remove? x = some (rest, f)) :
    f.id ∉ Outline.ids rest.marks := by
  intro hmem
  have hself : f.id ∈ f.subtree.map (·.id) := List.mem_map_of_mem (List.mem_cons_self ..)
  exact (List.nodup_append.1 (h.ids_apart hr)).2.2 _ hself _ hmem rfl

end Tree

end FormBuilder
