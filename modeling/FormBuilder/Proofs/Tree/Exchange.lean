/-
Edits as exchanges: an edit takes some marks out of the outline of a tree and puts others in, while
the rest stays. From what is taken out and put in alone it follows which fields the new tree has and
whether its names can still be told apart.
-/
import FormBuilder.Proofs.Tree.Block
import FormBuilder.Proofs.Tree.Distinct
import FormBuilder.Proofs.Tree.Resolve

namespace FormBuilder

open Outline FormBuilder.Field

/-! ## Blocks -/

/-- The outline of a field that stands in a slot, with everything inside it. -/
def Field.block (s : Slot) (f : Field) : List Mark := .field s f.shell :: f.marksInside

@[simp] theorem Field.ids_block (s : Slot) (f : Field) : ids (f.block s) = f.id :: ids f.marksInside := by
  rw [block, ids_field, id_shell]

@[simp] theorem Field.addresses_block (s : Slot) (f : Field) :
    addresses (f.block s) = addresses f.marksInside :=
  rfl

/-- Some of the tabs of a field have some of the outline of all of them. -/
theorem Field.marksTabs_sublist (id : String) {ts us : List (Tab Field)} (h : us.Sublist ts) :
    (marksTabs id us).Sublist (marksTabs id ts) := by
  induction h with
  | slnil => exact List.Sublist.refl _
  | cons t _ ih =>
    rw [marksTabs]
    exact (ih.trans (List.sublist_append_right ..)).cons _
  | cons_cons t _ ih =>
    rw [marksTabs, marksTabs]
    exact ((List.Sublist.refl _).append ih).cons_cons _

theorem Field.tabSlots_sublist (id : String) (ts : List (Tab Field)) :
    (ts.map fun t => Slot.tab id t.id).Sublist (addresses (marksTabs id ts)) := by
  induction ts with
  | nil => exact List.Sublist.refl _
  | cons t ts ih =>
    rw [List.map_cons, marksTabs, addresses_slot, addresses_append]
    exact (ih.trans (List.sublist_append_right ..)).cons_cons _

namespace Tree

variable {t t' rest : Tree} {id : String} {f g : Field} {s : Slot}

/-! ## Names of a tree -/

theorem find?_of_mem (h : (t.flatten.map (·.id)).Nodup) (hf : f ∈ t.flatten) :
    t.find? f.id = some f := by
  rw [find?_eq_find?_flatten]
  cases hfind : t.flatten.find? (·.id == f.id) with
  | none => simpa using List.find?_eq_none.1 hfind f hf
  | some g =>
    have hid : g.id = f.id := by simpa using List.find?_some hfind
    exact congrArg some (List.inj_on_of_nodup_map h (List.mem_of_find?_eq_some hfind) hf hid)

/-- Where a lookup leads, and what stands around it. -/
theorem exists_fill_of_find? (h : t.find? id = some f) :
    ∃ p pre post, t = ⟨Path.fill (pre ++ f :: post) p⟩ ∧ f.id = id ∧
      id ∉ ids (p.before .root) ∧ id ∉ ids (marksAmong (p.slot .root) pre) := by
  have hresolve := (operations_resolve t id).1
  rw [← find?_eq_find?_flatten, h] at hresolve
  obtain ⟨p, pre, post, hr⟩ := hresolve
  exact ⟨p, pre, post, hr.tree, hr.named, hr.first⟩

theorem marksInside_sublist (h : (t.flatten.map (·.id)).Nodup) (hf : f ∈ t.flatten) :
    f.marksInside.Sublist t.marks := by
  obtain ⟨p, pre, post, rfl, -⟩ := exists_fill_of_find? (find?_of_mem h hf)
  have hblock : f.marksInside.Sublist (marksSlot (p.slot .root) (pre ++ f :: post)) := by
    rw [marksSlot, marksAmong_append, marksAmong]
    refine List.Sublist.cons _ (List.Sublist.trans ?_ (List.sublist_append_right ..))
    exact (List.sublist_append_left ..).cons _
  rw [marks_fill]
  exact (hblock.trans (List.sublist_append_left ..)).trans (List.sublist_append_right ..)

/-- Fields and tabs can be told apart exactly when no two fields have one id and no two slots have
one address. -/
theorem distinct_iff : t.Distinct ↔ (ids t.marks).Nodup ∧ (addresses t.marks).Nodup := by
  constructor
  · exact fun h => ⟨h.nodup_ids, h.nodup_addresses⟩
  · rintro ⟨hids, haddresses⟩
    rw [ids_marks] at hids
    refine ⟨hids, fun h ts hmem => ?_⟩
    have hsub : (addresses (marksTabs h.id ts)).Sublist (addresses t.marks) :=
      (marksInside_sublist hids hmem).filterMap _
    have hslots : (ts.map fun x => Slot.tab h.id x.id).Nodup :=
      haddresses.sublist ((tabSlots_sublist h.id ts).trans hsub)
    rw [← Function.comp_def, ← List.map_map] at hslots
    exact hslots.of_map

/-! ## Exchanges -/

/-- Some marks are taken out of the outline and others are put in; the rest stays. -/
def Exchanges (t t' : Tree) (out into : List Mark) : Prop :=
  ∃ stays, t.marks.Perm (out ++ stays) ∧ t'.marks.Perm (into ++ stays)

theorem exchanges_of_remove? (h : t.remove? id = some (rest, f)) :
    ∃ s, Exchanges t rest (f.block s) [] := by
  obtain ⟨s, hperm⟩ := marks_perm_of_remove? h
  exact ⟨s, rest.marks, hperm, List.Perm.refl _⟩

theorem marks_perm_of_insert {position : Option Nat} {index : Nat}
    (h : t.insert s f position = .ok (t', index)) : t'.marks.Perm (f.block s ++ t.marks) := by
  obtain ⟨p, xs, ys, rfl, rfl, rfl, -⟩ := exists_fill_of_insert h
  exact marks_fill_perm p xs ys f

theorem exchanges_of_insert {position : Option Nat} {index : Nat}
    (h : t.insert s f position = .ok (t', index)) : Exchanges t t' [] (f.block s) :=
  ⟨t.marks, List.Perm.refl _, marks_perm_of_insert h⟩

/-- A field that is taken out and put in elsewhere. -/
theorem exchanges_of_move {position : Option Nat} {index : Nat}
    (hr : t.remove? id = some (rest, f)) (h : rest.insert s f position = .ok (t', index)) :
    ∃ s', Exchanges t t' (f.block s') (f.block s) := by
  obtain ⟨s', hperm⟩ := marks_perm_of_remove? hr
  exact ⟨s', rest.marks, hperm, marks_perm_of_insert h⟩

theorem exchanges_of_replace (h : t.find? id = some f) (g : Field) :
    ∃ s, Exchanges t (t.replace id g) (f.block s) (g.block s) := by
  obtain ⟨p, pre, post, rfl, rfl, hp, hpre⟩ := exists_fill_of_find? h
  rw [replace_fill g hp hpre]
  exact ⟨_, _, marks_fill_perm p pre post f, marks_fill_perm p pre post g⟩

/-! ## What an exchange keeps -/

variable {out into : List Mark}

/-- Fields stay that are not taken out, or that are put in again. -/
theorem Exchanges.contains (h : Exchanges t t' out into) (hids : ids out ⊆ ids into)
    (hid : t.contains id = true) : t'.contains id = true := by
  obtain ⟨stays, hout, hinto⟩ := h
  rw [contains_iff] at hid ⊢
  have hmem := (ids_perm hout).mem_iff.1 hid
  rw [ids_append, List.mem_append] at hmem
  rw [(ids_perm hinto).mem_iff, ids_append, List.mem_append]
  exact hmem.imp_left fun hmem => hids hmem

theorem Exchanges.contains_of_mem (h : Exchanges t t' out into) (hid : id ∈ ids into) :
    t'.contains id = true := by
  obtain ⟨stays, -, hinto⟩ := h
  rw [contains_iff, (ids_perm hinto).mem_iff, ids_append]
  exact List.mem_append_left _ hid

theorem nodup_of_exchange {α : Type} {xs xs' out into stays new : List α}
    (hxs : xs.Perm (out ++ stays)) (hxs' : xs'.Perm (into ++ stays))
    (hsub : into.Sublist (out ++ new)) (h : (new ++ xs).Nodup) : xs'.Nodup := by
  have hall : (new ++ (out ++ stays)).Nodup := ((hxs.append_left new).nodup_iff).1 h
  have hswap : (new ++ (out ++ stays)).Perm ((out ++ new) ++ stays) := by
    rw [List.append_assoc]
    exact List.perm_append_comm_assoc new out stays
  exact hxs'.nodup_iff.2 ((hswap.nodup_iff.1 hall).sublist (hsub.append_right stays))

/-- Names can be told apart after an exchange that brings in no names but those that it takes out and
some that are new. -/
theorem Exchanges.distinct {newIds : List String} {newSlots : List Slot}
    (h : Exchanges t t' out into) (hids : (ids into).Sublist (ids out ++ newIds))
    (hslots : (addresses into).Sublist (addresses out ++ newSlots))
    (hnewIds : (newIds ++ ids t.marks).Nodup)
    (hnewSlots : (newSlots ++ addresses t.marks).Nodup) : t'.Distinct := by
  obtain ⟨stays, hout, hinto⟩ := h
  rw [distinct_iff]
  constructor
  · have hperm := ids_perm hout
    have hperm' := ids_perm hinto
    rw [ids_append] at hperm hperm'
    exact nodup_of_exchange hperm hperm' hids hnewIds
  · have hperm := addresses_perm hout
    have hperm' := addresses_perm hinto
    rw [addresses_append] at hperm hperm'
    exact nodup_of_exchange hperm hperm' hslots hnewSlots

/-- An exchange that brings in no new name. -/
theorem Exchanges.distinct_of_sublist (h : Exchanges t t' out into) (ht : t.Distinct)
    (hids : (ids into).Sublist (ids out)) (hslots : (addresses into).Sublist (addresses out)) :
    t'.Distinct := by
  rw [← List.append_nil (ids out)] at hids
  rw [← List.append_nil (addresses out)] at hslots
  exact h.distinct hids hslots ht.nodup_ids ht.nodup_addresses

end Tree

end FormBuilder
