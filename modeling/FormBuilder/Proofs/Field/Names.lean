/-
The names of a field: its id, and the slots and ids inside it. A patch that names none of the
properties which hold fields reads everything inside the field anew, but keeps all names.
-/
import FormBuilder.Proofs.Field.Json
import FormBuilder.Proofs.Tree.Outline
import FormBuilder.Proofs.Tree.Patch

namespace FormBuilder

open Json (DistinctKeys storableEntries storableItems orElse required list? string?)

/-! ## Names -/

/-- What a mark names: a slot, or an id in a slot. -/
def Mark.name : Mark → Slot × Option String
  | .slot s => (s, none)
  | .field s f => (s, some f.id)

namespace Outline

/-- The slots and ids of an outline, in its order. -/
def names (ms : List Mark) : List (Slot × Option String) := ms.map Mark.name

@[simp] theorem names_nil : names [] = [] := rfl

@[simp] theorem names_slot (s : Slot) (ms : List Mark) :
    names (.slot s :: ms) = (s, none) :: names ms := rfl

@[simp] theorem names_field (s : Slot) (f : Field) (ms : List Mark) :
    names (.field s f :: ms) = (s, some f.id) :: names ms := rfl

@[simp] theorem names_append (ms ns : List Mark) : names (ms ++ ns) = names ms ++ names ns :=
  List.map_append

theorem ids_eq_names : ∀ ms : List Mark, ids ms = (names ms).filterMap (·.2)
  | [] => rfl
  | .slot s :: ms => by simp [ids_eq_names ms]
  | .field s f :: ms => by simp [ids_eq_names ms]

theorem addresses_eq_names : ∀ ms : List Mark,
    addresses ms = (names ms).filterMap fun n => if n.2.isNone then some n.1 else none
  | [] => rfl
  | .slot s :: ms => by simp [addresses_eq_names ms]
  | .field s f :: ms => by simp [addresses_eq_names ms]

end Outline

open Outline

/-- Two fields of one id in which the same names occur at the same places. -/
structure Field.SameNames (f g : Field) : Prop where
  id : g.id = f.id
  inside : names g.marksInside = names f.marksInside

namespace Field

variable {f g : Field}

theorem SameNames.ids (h : f.SameNames g) : ids g.marksInside = ids f.marksInside := by
  rw [ids_eq_names, h.inside, ← ids_eq_names]

theorem SameNames.addresses (h : f.SameNames g) :
    addresses g.marksInside = addresses f.marksInside := by
  rw [addresses_eq_names, h.inside, ← addresses_eq_names]

theorem sameNames_withHead {h : Head} (hid : h.id = f.id) : f.SameNames (f.withHead h) := by
  have hid : h.id = f.head.id := hid
  cases f with
  | leaf _ _ | group _ _ _ | repeater _ _ _ | tabs _ _ | abTest _ _ _ =>
    refine ⟨hid, ?_⟩
    simp only [withHead, marksInside, hid, head]

/-! ## Documents of fields -/

theorem not_mem_headNames_of_mem_childNames {key : String}
    (h : key ∈ "type" :: FieldType.childNames) : key ∉ Head.names := by
  revert key
  decide

/-- The entries that are read have the tag of the field and, as far as a text can hold them, its
fields inside. -/
def TaggedAs (f : Field) (es : List (String × Json)) : Prop :=
  ∀ key ∈ "type" :: FieldType.childNames, es.lookup key = (f.kindEntries.lookup key).map Json.storable

theorem taggedAs_storableEntries (f : Field) : f.TaggedAs (storableEntries f.kindEntries) :=
  fun key _ => Json.lookup_storableEntries key f.kindEntries

theorem taggedAs_document (f : Field) : f.TaggedAs
    ((storableEntries (f.head.entries ++ f.kindEntries)).filter
      fun e => !Head.names.contains e.1) := by
  intro key hkey
  have hnot := not_mem_headNames_of_mem_childNames hkey
  rw [Json.lookup_filter fun k => !Head.names.contains k, if_pos (by simpa using hnot),
    Json.lookup_storableEntries, List.lookup_append, Head.lookup_entries_of_not_mem hnot,
    Option.none_or]

theorem TaggedAs.lookup {es : List (String × Json)} (h : f.TaggedAs es) {key : String} {j : Json}
    (hkey : key ∈ "type" :: FieldType.childNames) (hj : f.kindEntries.lookup key = some j) :
    es.lookup key = some j.storable := by
  rw [h key hkey, hj]
  rfl

variable {item : Json → Option Field} {head : Head} {es : List (String × Json)}

theorem TaggedAs.ofProperties? (h : f.TaggedAs es) (hread : ofEntries? item head es = some g) :
    ofProperties? item head es f.type = some g := by
  obtain ⟨type, htype, hread⟩ := properties_of_ofEntries? hread
  rw [h.lookup (List.mem_cons_self ..) f.lookup_type] at htype
  have heq : f.type = type := Option.some.inj ((FieldType.ofName?_name f.type).symm.trans htype)
  rwa [heq]

/-- The fields of a property that holds a list of them. -/
theorem TaggedAs.list? {α : Type} {decode : Json → Option α} (h : f.TaggedAs es) {key : String}
    {js : List Json} {xs : List α} (hkey : key ∈ FieldType.childNames)
    (hjs : f.kindEntries.lookup key = some (.array js))
    (hread : orElse es key [] (Json.list? decode) = some xs) :
    (storableItems js).mapM decode = some xs := by
  rw [orElse, h.lookup (List.mem_cons_of_mem _ hkey) hjs] at hread
  exact hread

/-! ## Reading again -/

theorem exists_of_mapM_cons {α : Type} {decode : Json → Option α} {j : Json} {js : List Json}
    {xs : List α} (h : (j :: js).mapM decode = some xs) :
    ∃ y ys, xs = y :: ys ∧ decode j = some y ∧ js.mapM decode = some ys := by
  rw [List.mapM_cons] at h
  obtain ⟨y, hy, h⟩ := Option.bind_eq_some_iff.1 h
  obtain ⟨ys, hys, h⟩ := Option.bind_eq_some_iff.1 h
  exact ⟨y, ys, (Option.some.inj h).symm, hy, hys⟩

mutual

/-- What is read under the id of a field, with its tag and its fields inside, has the names of the
field. -/
theorem sameNames_of_ofEntries? : ∀ (f : Field) {fuel : Nat} {head : Head}
    {es : List (String × Json)} {g : Field}, head.id = f.id → f.TaggedAs es →
    ofEntries? (ofJsonWithin? fuel) head es = some g → f.SameNames g
  | .leaf h k, fuel, head, es, g, hid, htagged, hread => by
    obtain ⟨k', -, rfl⟩ := leaf_of_ofProperties? k.not_isContainer (htagged.ofProperties? hread)
    exact ⟨hid, rfl⟩
  | .group h n cs, fuel, head, es, g, hid, htagged, hread => by
    obtain ⟨n', cs', -, hcs, rfl⟩ := group_of_ofProperties? (htagged.ofProperties? hread)
    have hnames := names_of_mapM (.children h.id) cs (htagged.list? (by decide) rfl hcs)
    refine ⟨hid, ?_⟩
    have hid : head.id = h.id := hid
    simp [marksInside, hid, hnames]
  | .repeater h l cs, fuel, head, es, g, hid, htagged, hread => by
    obtain ⟨l', cs', -, hcs, rfl⟩ := repeater_of_ofProperties? (htagged.ofProperties? hread)
    have hnames := names_of_mapM (.children h.id) cs (htagged.list? (by decide) rfl hcs)
    refine ⟨hid, ?_⟩
    have hid : head.id = h.id := hid
    simp [marksInside, hid, hnames]
  | .tabs h ts, fuel, head, es, g, hid, htagged, hread => by
    obtain ⟨ts', hts, rfl⟩ := tabs_of_ofProperties? (htagged.ofProperties? hread)
    have hnames := names_of_mapM_tabs h.id ts (htagged.list? (by decide) rfl hts)
    refine ⟨hid, ?_⟩
    have hid : head.id = h.id := hid
    simp [marksInside, hid, hnames]
  | .abTest h a b, fuel, head, es, g, hid, htagged, hread => by
    obtain ⟨a', b', ha, hb, rfl⟩ := abTest_of_ofProperties? (htagged.ofProperties? hread)
    have hnamesA := names_of_mapM (.variant h.id .a) a (htagged.list? (by decide) rfl ha)
    have hnamesB := names_of_mapM (.variant h.id .b) b (htagged.list? (by decide) rfl hb)
    refine ⟨hid, ?_⟩
    have hid : head.id = h.id := hid
    simp [marksInside, hid, hnamesA, hnamesB]

theorem names_of_mapM (s : Slot) : ∀ (fs : List Field) {fuel : Nat} {gs : List Field},
    (storableItems (listToJson fs)).mapM (ofJsonWithin? fuel) = some gs →
    names (marksAmong s gs) = names (marksAmong s fs)
  | [], fuel, gs, h => by
    obtain rfl := Option.some.inj h
    rfl
  | f :: fs, fuel, gs, h => by
    obtain ⟨g, gs, rfl, hg, hgs⟩ := exists_of_mapM_cons h
    obtain ⟨n, head, rfl, hhead, hg⟩ := entries_of_ofJsonWithin? hg
    -- the id is written first in the document and is read as it was written
    have hid : head.id = f.id := by
      have hread := (Head.ofEntries?_eq_some_iff.1 hhead).id
      rw [required, Json.lookup_storableEntries] at hread
      exact (Option.some.inj hread).symm
    have hf := sameNames_of_ofEntries? f hid f.taggedAs_document hg
    have hfs := names_of_mapM s fs hgs
    simp [marksAmong, hf.id, hf.inside, hfs]

theorem names_of_mapM_tabs (id : String) : ∀ (ts : List (Tab Field)) {fuel : Nat}
    {us : List (Tab Field)},
    (storableItems (tabsToJson ts)).mapM (Tab.ofJson? (ofJsonWithin? fuel)) = some us →
    names (marksTabs id us) = names (marksTabs id ts)
  | [], fuel, us, h => by
    obtain rfl := Option.some.inj h
    rfl
  | ⟨tab, label, cs⟩ :: ts, fuel, us, h => by
    obtain ⟨⟨tab', label', cs'⟩, us, rfl, hu, hus⟩ := exists_of_mapM_cons h
    have hts := names_of_mapM_tabs id ts hus
    unfold Tab.ofJson? at hu
    rw [Json.storable, Json.members?_object (by simp [storableEntries, DistinctKeys])] at hu
    obtain ⟨_, ⟨⟩, hu⟩ := Option.bind_eq_some_iff.1 hu
    obtain ⟨_, ⟨⟩, hu⟩ := Option.bind_eq_some_iff.1 hu
    obtain ⟨_, ⟨⟩, hu⟩ := Option.bind_eq_some_iff.1 hu
    obtain ⟨_, hcs, hu⟩ := Option.bind_eq_some_iff.1 hu
    cases hu
    have hnames := names_of_mapM (.tab id tab) cs hcs
    simp [marksTabs, hnames, hts]

end

end Field

/-! ## Patches -/

namespace Patch

variable {p : Patch} {f g : Field}

/-- The patch names none of the properties that hold fields. -/
def KeepsFields (p : Patch) : Prop := ∀ e ∈ p.properties, e.1 ∉ FieldType.childNames

/-- A patch that names no property which holds fields keeps the names of a field. -/
theorem KeepsFields.sameNames (hp : p.KeepsFields) (h : p.apply f = .ok g) : f.SameNames g := by
  obtain ⟨g', hmerge, rfl⟩ := apply_eq_ok h
  have hnames : f.SameNames g' := by
    rcases cases_of_mergeKind hmerge with rfl | ⟨htype, fuel, hread⟩
    · exact ⟨rfl, rfl⟩
    · refine Field.sameNames_of_ofEntries? f rfl (fun key hkey => ?_) hread
      rw [Json.lookup_overwrite_of_not_mem, f.taggedAs_storableEntries key hkey]
      rcases List.mem_cons.1 hkey with rfl | hkey
      · exact htype
      · intro hmem
        obtain ⟨e, he, rfl⟩ := List.mem_map.1 hmem
        exact hp e he hkey
  have hhead : g'.SameNames (g'.withHead (p.patchHead g'.head)) := Field.sameNames_withHead rfl
  exact ⟨hhead.id.trans hnames.id, hhead.inside.trans hnames.inside⟩

end Patch

end FormBuilder
