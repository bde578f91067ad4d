/-
Patching is a merge of documents: reading an object as a patch and applying it gives the field that
is read from the document of the field with the entries of the object put over it.
-/
import FormBuilder.Proofs.Field.Document
import FormBuilder.Proofs.Tree.Patch
import FormBuilder.Proofs.Tree.PatchEntries
import FormBuilder.Proofs.Tree.Resolve

namespace FormBuilder

open Json (orElse required list? string? bool? depthEntries)

/-! ## A field and its document -/

namespace Field

variable {f : Field}

theorem Distinct.head (h : f.Distinct) : f.head.Distinct := by
  cases f with
  | leaf => exact h
  | group | repeater | tabs | abTest => exact h.1

theorem ofEntries?_document (hs : f.Storable) (hd : f.Distinct) :
    Head.ofEntries? f.document = some f.head := by
  rw [document, f.head.ofEntries?_append f.not_mem_headNames, f.head.ofEntries?_entries hs.head,
    f.head.reread_eq_self_iff.2 hd.head]

theorem ofJsonWithin?_document (hs : f.Storable) (hd : f.Distinct) {n : Nat}
    (hn : depthEntries f.document ≤ n) : ofJsonWithin? (n + 1) (.object f.document) = some f := by
  have hread := ofJsonWithin?_toJson f (n + 1) hs (Nat.succ_le_succ hn)
  rw [(reread_eq_self_iff f).2 hd] at hread
  exact hread

theorem ofEntries?_self (hs : f.Storable) (hd : f.Distinct) {n : Nat}
    (hn : depthEntries f.kindEntries ≤ n) :
    ofEntries? (ofJsonWithin? n) f.head f.kindEntries = some f := by
  have hread := ofJsonWithin?_document hs hd (Nat.le_refl _)
  have hsucc := ofJsonWithin?_succ (depthEntries f.document) f hs.head
  rw [f.head.reread_eq_self_iff.2 hd.head] at hsucc
  have hle : depthEntries f.kindEntries ≤ depthEntries f.document :=
    Json.depthEntries_le_of_subset fun e he => List.mem_append_right _ he
  rw [ofEntries?_congr_item fun j hj =>
    ofJsonWithin?_congr n (depthEntries f.document) j (by omega) (by omega)]
  exact hsucc.symm.trans hread

end Field

namespace Patch

variable {o es : List (String × Json)} {f g : Field} {h h' : Field.Head}

/-! ## The head -/

/-- What is read under a key after entries were put over others is the value that they give it, if it
can stand there, or else what was read before. -/
theorem elim_overwrite_iff {α : Type} {default : Option α} {decode : Json → Option α} {a a' : α}
    {key : String} (hfits : ∀ j, fits key j = (decode j).isSome)
    (hread : (es.lookup key).elim default decode = some a) :
    ((Json.overwrite es o).lookup key).elim default decode = some a'
      ↔ misfits o key = false ∧ (((sortEntries o).lookup key).bind decode).getD a = a' := by
  rw [Json.lookup_overwrite, misfits]
  cases (sortEntries o).lookup key with
  | none => simp [hread]
  | some j => cases hj : decode j <;> simp [hfits, hj]

theorem required_overwrite_iff (o : List (String × Json)) {α : Type} {decode : Json → Option α}
    {a : α} {key : String} (hfits : ∀ j, fits key j = (decode j).isSome)
    (hread : required es key decode = some a) (a' : α) :
    required (Json.overwrite es o) key decode = some a'
      ↔ misfits o key = false ∧ (((sortEntries o).lookup key).bind decode).getD a = a' := by
  have helim : ∀ es, required es key decode = (es.lookup key).elim none decode := fun es => by
    unfold required
    cases es.lookup key <;> rfl
  rw [helim] at hread ⊢
  exact elim_overwrite_iff hfits hread

theorem orElse_overwrite_iff (o : List (String × Json)) {α : Type} {default : α}
    {decode : Json → Option α} {a : α} {key : String}
    (hfits : ∀ j, fits key j = (decode j).isSome)
    (hread : orElse es key default decode = some a) (a' : α) :
    orElse (Json.overwrite es o) key default decode = some a'
      ↔ misfits o key = false ∧ (((sortEntries o).lookup key).bind decode).getD a = a' := by
  have helim : ∀ es, orElse es key default decode = (es.lookup key).elim (some default) decode :=
    fun es => by
      unfold orElse
      cases es.lookup key <;> rfl
  rw [helim] at hread ⊢
  exact elim_overwrite_iff hfits hread

theorem entry?_overwrite (key : String) (es o : List (String × Json)) :
    Value.entry? (Json.overwrite es o) key
      = (((sortEntries o).lookup key).map fun j => some (Value.ofJson j)).getD
        (Value.entry? es key) := by
  unfold Value.entry?
  rw [Json.lookup_overwrite]
  cases (sortEntries o).lookup key <;> rfl

/-- A head is read from the document with the entries put over it exactly when none of these is at
fault, and then it is the patched one. -/
theorem ofEntries?_overwrite (hread : Field.Head.ofEntries? es = some h)
    (hid : "id" ∉ o.map (·.1)) : Field.Head.ofEntries? (Json.overwrite es o)
      = match typedKeys.find? (misfits o) with
        | some _ => none
        | none => some ((spelled (sortEntries o)).patchHead h) := by
  have hfrom := Field.Head.ofEntries?_eq_some_iff.1 hread
  have hlabel := required_overwrite_iff o (fun _ => rfl) hfrom.label
  have hstyles := orElse_overwrite_iff o (fun _ => rfl) hfrom.styles
  have hrules := orElse_overwrite_iff o (fun _ => rfl) hfrom.rules
  have hvalidation := orElse_overwrite_iff o (fun _ => rfl) hfrom.validation
  have hreadOnly := orElse_overwrite_iff o (fun _ => rfl) hfrom.readOnly
  cases hfind : typedKeys.find? (misfits o) with
  | none =>
    have hfits : ∀ key ∈ typedKeys, misfits o key = false := fun key hkey => by
      simpa using List.find?_eq_none.1 hfind key hkey
    -- the id is not overwritten, and every other entry is read from the patch or as before
    have hkept : required (Json.overwrite es o) "id" string? = some h.id := by
      rw [required, Json.lookup_overwrite_of_not_mem hid]
      exact hfrom.id
    have hdefault := entry?_overwrite "defaultValue" es o
    rw [hfrom.defaultValue] at hdefault
    refine Field.Head.ofEntries?_eq_some_iff.2 ⟨hkept, (hlabel _).2 ⟨hfits _ (by decide), rfl⟩,
      hdefault, (hstyles _).2 ⟨hfits _ (by decide), rfl⟩, (hrules _).2 ⟨hfits _ (by decide), rfl⟩,
      (hvalidation _).2 ⟨hfits _ (by decide), rfl⟩, (hreadOnly _).2 ⟨hfits _ (by decide), rfl⟩⟩
  | some key =>
    by_contra hsome
    obtain ⟨h', hread'⟩ := Option.ne_none_iff_exists'.1 hsome
    -- a head that is read has no entry that misfits, the one found included
    have hfrom' := Field.Head.ofEntries?_eq_some_iff.1 hread'
    have hmisfits : misfits o key = true := List.find?_some hfind
    have hkey := List.mem_of_find?_eq_some hfind
    simp only [typedKeys, keysBeforeType, List.cons_append, List.nil_append, List.mem_cons,
      List.not_mem_nil, or_false] at hkey
    have hfits : misfits o key = false := by
      rcases hkey with rfl | rfl | rfl | rfl | rfl
      · exact ((hlabel _).1 hfrom'.label).1
      · exact ((hrules _).1 hfrom'.rules).1
      · exact ((hreadOnly _).1 hfrom'.readOnly).1
      · exact ((hstyles _).1 hfrom'.styles).1
      · exact ((hvalidation _).1 hfrom'.validation).1
    exact Bool.false_ne_true (hfits.symm.trans hmisfits)

/-! ## The properties of the type -/

/-- A patch reads the properties of the type again, also where it names none of them. -/
theorem mergeKind_eq {p : Patch} (hs : f.Storable) (hd : f.Distinct)
    (hprotected : ∀ e ∈ p.properties, isProtected e.1 = false) {n : Nat}
    (hn : depthEntries (Json.overwrite f.kindEntries p.properties) ≤ n) :
    p.mergeKind f = match Field.ofEntries? (Field.ofJsonWithin? n) f.head
        (Json.overwrite f.kindEntries p.properties) with
      | some g => .ok g
      | none => .error (.invalidPatch f.id) := by
  have hstorable : Json.storableEntries f.kindEntries = f.kindEntries :=
    Json.storableEntries_of_writable _ (Field.writableEntries_kindEntries f hs)
  unfold mergeKind
  cases hproperties : p.properties with
  | nil =>
    rw [hproperties] at hn
    have hself := Field.ofEntries?_self hs hd hn
    have hnone : Json.overwrite f.kindEntries [] = f.kindEntries := rfl
    rw [hnone, hself]
    rfl
  | cons e properties =>
    rw [← hproperties]
    have hfind : p.properties.find? (fun e => isProtected e.1) = none :=
      List.find?_eq_none.2 fun e he => by simp [hprotected e he]
    have hempty : p.properties.isEmpty = false := by rw [hproperties]; rfl
    have hitem : Field.ofEntries? (Field.ofJsonWithin? n) f.head
          (Json.overwrite f.kindEntries p.properties)
        = Field.ofEntries? (Field.ofJsonWithin?
            (depthEntries (Json.overwrite f.kindEntries p.properties))) f.head
          (Json.overwrite f.kindEntries p.properties) :=
      Field.ofEntries?_congr_item fun j hj =>
        Field.ofJsonWithin?_congr n _ j (Nat.le_trans hj hn) hj
    rw [hempty, hfind, hstorable, hitem]
    rfl

/-! ## The merge -/

/-- The entries of the document besides those of the head, with the properties of the patch put over
them or read together with all others. -/
theorem lookup_properties {key : String} (hkey : key ∉ Field.Head.names) :
    (Json.overwrite f.kindEntries (spelled (sortEntries o)).properties).lookup key
      = ((Json.overwrite f.document o).filter fun e => !Field.Head.names.contains e.1).lookup key := by
  have hascending : Ascending (spelled (sortEntries o)).properties :=
    List.Pairwise.sublist List.filter_sublist (sortEntries_spec o).1
  rw [Json.lookup_overwrite, sortEntries_of_ascending hascending, spelled,
    Field.lookup_besides_head, Field.lookup_besides_head, if_neg hkey, if_neg hkey,
    Json.lookup_overwrite, Field.document, List.lookup_append,
    Field.Head.lookup_entries_of_not_mem hkey, Option.none_or]

theorem isProtected_of_mem_properties (hid : "id" ∉ o.map (·.1)) (htype : "type" ∉ o.map (·.1)) :
    ∀ e ∈ (spelled (sortEntries o)).properties, isProtected e.1 = false := by
  intro e he
  have hmem : e.1 ∈ o.map (·.1) :=
    List.mem_map_of_mem ((sortEntries_spec o).2 e (List.mem_of_mem_filter he))
  have hneId : e.1 ≠ "id" := fun heq => hid (heq ▸ hmem)
  have hneType : e.1 ≠ "type" := fun heq => htype (heq ▸ hmem)
  simp [isProtected, hneId, hneType]

/-- A patch that is read from an object makes of a field what is read from the document of the field
with the entries of the object put over it. -/
theorem toOption_apply (hs : f.Storable) (hd : f.Distinct) (hid : "id" ∉ o.map (·.1))
    (htype : "type" ∉ o.map (·.1)) :
    ((ofEntries o).bind (·.apply f)).toOption
      = Field.ofJson? (.object (Json.overwrite f.document o)) := by
  let document := Json.overwrite f.document o
  let p := spelled (sortEntries o)
  let merged := Json.overwrite f.kindEntries p.properties
  -- both readers go as deep as either of them has to
  let n := max (depthEntries document) (depthEntries merged)
  have hdistinct : Json.DistinctKeys document := Json.DistinctKeys.overwrite f.distinctKeys_toJson o
  have hread : Field.ofJson? (.object document)
      = Field.ofJsonWithin? (n + 1) (.object document) :=
    Field.ofJsonWithin?_congr _ _ _ (Nat.le_refl _) (Nat.succ_le_succ (Nat.le_max_left ..))
  rw [hread, Field.ofJsonWithin?_object hdistinct, ofEntries_of_unprotected hid htype,
    ofEntries?_overwrite (Field.ofEntries?_document hs hd) hid]
  cases typedKeys.find? (misfits o) with
  | some key => rfl
  | none =>
    have hmerged : Json.DistinctKeys merged :=
      Json.DistinctKeys.overwrite f.distinctKeys_kindEntries p.properties
    have hbesides : Json.DistinctKeys (document.filter fun e => !Field.Head.names.contains e.1) :=
      hdistinct.sublist (List.filter_sublist.map _)
    have hkind : Field.ofEntries? (Field.ofJsonWithin? n) (p.patchHead f.head)
          (document.filter fun e => !Field.Head.names.contains e.1)
        = (Field.ofEntries? (Field.ofJsonWithin? n) f.head merged).map
          (·.withHead (p.patchHead f.head)) := by
      rw [Field.ofEntries?_congr hbesides hmerged fun key hkey => (lookup_properties hkey).symm]
      exact Field.ofEntries?_withHead
    have hmerge := mergeKind_eq (p := p) hs hd (isProtected_of_mem_properties hid htype)
      (Nat.le_max_right (depthEntries document) _)
    show (p.apply f).toOption = Field.ofEntries? _ (p.patchHead f.head) _
    rw [hkind, apply, hmerge]
    cases hg : Field.ofEntries? (Field.ofJsonWithin? n) f.head merged with
    | none => rfl
    | some g =>
      obtain ⟨type, -, hproperties⟩ := Field.properties_of_ofEntries? hg
      rw [← (Field.head_type_of_ofProperties? hproperties).1]
      rfl

/-! ## What a merge leaves alone -/

/-- Two fields of one id and one type that agree in everything which the entries do not name: in what
they write under a name, and in the fields that they hold under it. -/
structure KeepsUnnamed (o : List (String × Json)) (f g : Field) : Prop where
  id : g.id = f.id
  type : g.type = f.type
  document : ∀ key ∉ o.map (·.1), g.document.lookup key = f.document.lookup key
  slots : ∀ key ∉ o.map (·.1), g.slotsUnder key = f.slotsUnder key

theorem keepsUnnamed_of_ofJson? (hs : f.Storable) (hd : f.Distinct) (hid : "id" ∉ o.map (·.1))
    (htype : "type" ∉ o.map (·.1))
    (h : Field.ofJson? (.object (Json.overwrite f.document o)) = some g) : KeepsUnnamed o f g := by
  -- both documents are read with one bound on the depth, so that they can be compared
  let n := max (depthEntries (Json.overwrite f.document o)) (depthEntries f.document)
  have hself : Field.ofJsonWithin? (n + 1) (.object f.document) = some f :=
    Field.ofJsonWithin?_document hs hd (Nat.le_max_right ..)
  have hread : Field.ofJsonWithin? (n + 1) (.object (Json.overwrite f.document o)) = some g := by
    rw [← h]
    exact Field.ofJsonWithin?_congr _ _ _ (Nat.succ_le_succ (Nat.le_max_left ..)) (Nat.le_refl _)
  have hsame : ∀ key ∉ o.map (·.1),
      (Json.overwrite f.document o).lookup key = f.document.lookup key :=
    fun key hkey => Json.lookup_overwrite_of_not_mem hkey _
  obtain ⟨hids, htypes⟩ := Field.id_type_congr (hsame _ hid) (hsame _ htype) hread hself
  refine ⟨hids, htypes, fun key hkey => ?_, fun key hkey => ?_⟩
  · exact (Field.ofJsonWithin?_local hids htypes (hsame key hkey) hread hself).1
  · exact (Field.ofJsonWithin?_local hids htypes (hsame key hkey) hread hself).2

/-! ## Patches in place -/

/-- What becomes of a field that is patched where it stands. When the properties of its type cannot be
read again, nothing has been changed yet. -/
def applyInPlace (p : Patch) (f : Field) : Field × Except Tree.Error Unit :=
  match p.mergeKind f with
  | .error e => (f, .error e)
  | .ok g => (g.withHead (p.patchHead g.head), .ok ())

end Patch

namespace Tree

variable {t : Tree} {id : String} {o : List (String × Json)} {f : Field}

/-- The tree after a field was patched where it stands, and what is told. -/
def updateInPlace (t : Tree) (id : String) (p : Patch) : Tree × Except Tree.Error Bool :=
  match t.modify? id p.applyInPlace with
  | none => (t, .ok false)
  | some (t', result) => (t', result.map fun _ => true)

/-- A patch in place does what a patch does, and when it fails the tree is the one before. -/
theorem updateInPlace_eq (t : Tree) (id : String) (p : Patch) :
    t.updateInPlace id p = match t.update id p with
      | .ok (t', found) => (t', .ok found)
      | .error e => (t, .error e) := by
  have hresolve := (operations_resolve t id).1
  unfold updateInPlace
  split at hresolve
  · rw [hresolve.modify, hresolve.update]
  · obtain ⟨p', pre, post, hresolves⟩ := hresolve
    rename_i f _
    rw [hresolves.modify, hresolves.update, Patch.apply, Patch.applyInPlace]
    cases p.mergeKind f with
    | error e =>
      show (_, _) = _
      rw [← hresolves.tree]
      rfl
    | ok g => rfl

/-- Reads an object as a patch and patches a field with it where it stands. -/
def merge (t : Tree) (id : String) (o : List (String × Json)) : Tree × Except Tree.Error Bool :=
  match Patch.ofEntries o with
  | .error e => (t, .error e)
  | .ok p => t.updateInPlace id p

theorem merge_eq (t : Tree) (id : String) (o : List (String × Json)) :
    t.merge id o = match (Patch.ofEntries o).bind (t.update id) with
      | .ok (t', found) => (t', .ok found)
      | .error e => (t, .error e) := by
  unfold merge
  cases Patch.ofEntries o with
  | error e => rfl
  | ok p => exact updateInPlace_eq t id p

/-- A patch that is read and applied changes the field where it stands, and nothing around it. -/
theorem ResolvesTo.bind_update {p : Path} {pre post : List Field}
    (h : t.ResolvesTo id f p pre post) (o : List (String × Json)) :
    (Patch.ofEntries o).bind (t.update id)
      = ((Patch.ofEntries o).bind (·.apply f)).map fun g => (⟨p.fill (pre ++ g :: post)⟩, true) := by
  cases Patch.ofEntries o with
  | error e => rfl
  | ok patch => exact h.update patch

/-- To patch a field with an object is to overwrite its document. An object with an id is refused for
it, and one with a type for the first typed value before it that cannot be read, or else for the type.
Any other object makes of the field what is read from its document with the entries of the object put
over it: everything around the field, and everything in it that the object does not name, stays. Where
nothing can be read the object is refused, and a refusal leaves the tree as it was. -/
theorem update_reads_overwritten (t : Tree) (id : String) (o : List (String × Json)) (f : Field)
    (hfind : t.find? id = some f) (hs : f.Storable) (hd : f.Distinct) :
    ("id" ∈ o.map (·.1) → Patch.ofEntries o = .error (.protectedKey "id")) ∧
    ("id" ∉ o.map (·.1) → "type" ∈ o.map (·.1) →
      Patch.ofEntries o = .error (((Patch.keysBeforeType.find? (Patch.misfits o)).map
        Error.invalidPatchValue).getD (.protectedKey "type"))) ∧
    ("id" ∉ o.map (·.1) → "type" ∉ o.map (·.1) →
      ∃ p pre post, t.ResolvesTo id f p pre post ∧
        match Field.ofJson? (.object (Json.overwrite f.document o)) with
        | some g => (Patch.ofEntries o).bind (t.update id) = .ok (⟨p.fill (pre ++ g :: post)⟩, true) ∧
            Patch.KeepsUnnamed o f g
        | none => ∃ e, (Patch.ofEntries o).bind (t.update id) = .error e) ∧
    t.merge id o = match (Patch.ofEntries o).bind (t.update id) with
      | .ok (t', found) => (t', .ok found)
      | .error e => (t, .error e) := by
  refine ⟨Patch.ofEntries_of_id, Patch.ofEntries_of_type, fun hid htype => ?_, merge_eq t id o⟩
  have hresolve := (operations_resolve t id).1
  rw [← find?_eq_find?_flatten, hfind] at hresolve
  obtain ⟨p, pre, post, hresolves⟩ := hresolve
  refine ⟨p, pre, post, hresolves, ?_⟩
  have hread := Patch.toOption_apply hs hd hid htype
  rw [hresolves.bind_update, ← hread]
  cases happly : (Patch.ofEntries o).bind (·.apply f) with
  | error e => exact ⟨e, rfl⟩
  | ok g =>
    rw [happly] at hread
    exact ⟨rfl, Patch.keepsUnnamed_of_ofJson? hs hd hid htype hread.symm⟩

/-- A group with one field in it. -/
def groupOfOne (label : String) (columns : UInt32) : Field :=
  .group ⟨"group", label, none, [], [], none, false⟩ columns
    [.leaf ⟨"child", "", none, [], [], none, false⟩ (.text {})]

/-- New columns, a new label, and a property that groups do not have. -/
def widening : List (String × Json) :=
  [("columns", .integer 2), ("label", .string "Wide"), ("rows", .null)]

theorem update_reads_overwritten_widening :
    let t : Tree := ⟨[.leaf ⟨"break", "", none, [], [], none, false⟩ .pageBreak, groupOfOne "" 1]⟩
    t.find? "group" = some (groupOfOne "" 1) ∧ (groupOfOne "" 1).Storable ∧ (groupOfOne "" 1).Distinct ∧
      ∃ p pre post, t.ResolvesTo "group" (groupOfOne "" 1) p pre post ∧
        (Patch.ofEntries widening).bind (t.update "group")
          = .ok (⟨p.fill (pre ++ groupOfOne "Wide" 2 :: post)⟩, true) ∧
        Patch.KeepsUnnamed widening (groupOfOne "" 1) (groupOfOne "Wide" 2) := by
  intro t
  have hs : (groupOfOne "" 1).Storable := by
    simp [groupOfOne, Field.Storable, Field.StorableList, Field.Head.Storable, Leaf.Storable,
      Ascending, Value.StorableEntries]
  have hd : (groupOfOne "" 1).Distinct := by
    simp [groupOfOne, Field.Distinct, Field.DistinctList, Field.Head.Distinct]
  obtain ⟨-, -, hmerge, -⟩ := update_reads_overwritten t "group" widening (groupOfOne "" 1) rfl hs hd
  obtain ⟨p, pre, post, hresolves, hread⟩ := hmerge (by decide) (by decide)
  have hwide : Field.ofJson? (.object (Json.overwrite (groupOfOne "" 1).document widening))
      = some (groupOfOne "Wide" 2) := rfl
  rw [hwide] at hread
  exact ⟨rfl, hs, hd, p, pre, post, hresolves, hread⟩

/-- An object with a type and a label that is none is refused for the label. -/
theorem ofEntries_label_before_type :
    let o : List (String × Json) := [("label", .integer 5), ("type", .string "TextField")]
    ¬ ("id" ∈ o.map (·.1) ∨ "type" ∈ o.map (·.1) →
      ∃ key, Patch.ofEntries o = .error (.protectedKey key)) := by
  intro o h
  obtain ⟨key, hkey⟩ := h (by decide)
  have hlabel : Patch.ofEntries o = .error (.invalidPatchValue "label") := rfl
  rw [hlabel] at hkey
  cases hkey

end Tree

end FormBuilder
