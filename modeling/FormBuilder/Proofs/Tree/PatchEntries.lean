/-
How a patch is read from the entries of an object. The keys are visited in ascending order and the
first faulty one is told; where none is faulty, every part of the patch is the value of its key.
-/
import FormBuilder.Proofs.Field.Reading
import FormBuilder.Proofs.Json.Overwrite
import FormBuilder.Tree.Patch

namespace FormBuilder

/-! ## Ascending entries -/

theorem Ascending.lookup_of_lt {α : Type} {key : String} {es : List (String × α)}
    (h : ∀ e ∈ es, key < e.1) : es.lookup key = none := by
  rw [List.lookup_eq_none_iff]
  intro e he
  have hne : key ≠ e.1 := String.ne_of_lt (h e he)
  simpa using hne

/-- The first of the ascending entries that gives a result has the first key that does, when no key
but these can. -/
theorem Ascending.findSome?_eq {α β : Type} {f : String × α → Option β} (keys : List String)
    (hkeys : keys.Pairwise (· < ·)) {es : List (String × α)} (hes : Ascending es)
    (h : ∀ e ∈ es, f e ≠ none → e.1 ∈ keys) :
    es.findSome? f = keys.findSome? fun key => (es.lookup key).bind fun a => f (key, a) := by
  induction es with
  | nil =>
    refine (List.findSome?_eq_none_iff.2 fun key _ => ?_).symm
    rfl
  | cons e es ih =>
    obtain ⟨k, a⟩ := e
    obtain ⟨hhead, htail⟩ := List.pairwise_cons.1 hes
    obtain ⟨hk, hrest⟩ := List.forall_mem_cons.1 h
    have hnone : es.lookup k = none := Ascending.lookup_of_lt hhead
    rw [List.findSome?_cons]
    cases hf : f (k, a) with
    | none =>
      refine (ih htail hrest).trans (congrArg (keys.findSome? ·) (funext fun key => ?_))
      rw [Table.lookup_cons_ite]
      split
      · rename_i heq
        rw [heq, hnone, Option.bind_none, Option.bind_some, hf]
      · rfl
    | some b =>
      -- no key before `k` has an entry
      obtain ⟨before, after, rfl⟩ := List.append_of_mem (hk (by simp [hf]))
      have hbefore : before.findSome? (fun key =>
          (((k, a) :: es).lookup key).bind fun a => f (key, a)) = none := by
        rw [List.findSome?_eq_none_iff]
        intro key hkey
        have hlt : key < k := (List.pairwise_append.1 hkeys).2.2 key hkey k (List.mem_cons_self ..)
        rw [Ascending.lookup_of_lt]
        · rfl
        · rintro d hd
          rcases List.mem_cons.1 hd with rfl | hd
          · exact hlt
          · exact String.lt_trans hlt (hhead d hd)
      rw [List.findSome?_append, hbefore, Option.none_or, List.findSome?_cons,
        List.lookup_cons_self, Option.bind_some, hf]

namespace Patch

/-! ## Faults -/

/-- Whether a value can stand under a key. Under a key that names a property of a type anything can,
until the patch is applied. -/
def fits (key : String) (j : Json) : Bool :=
  match key with
  | "label" => j.string?.isSome
  | "styles" => (Value.mapOfJson? j).isSome
  | "logic" => (Json.list? Rule.ofJson? j).isSome
  | "validation" => (Field.Head.optional? Validation.ofJson? j).isSome
  | "readOnly" => j.bool?.isSome
  | _ => true

/-- What is wrong with an entry. -/
def fault? (e : String × Json) : Option Tree.Error :=
  if isProtected e.1 then some (.protectedKey e.1)
  else if fits e.1 e.2 then none
  else some (.invalidPatchValue e.1)

/-- The keys at which there can be a fault, in the order in which they are visited. -/
def checkedKeys : List String :=
  ["id", "label", "logic", "readOnly", "styles", "type", "validation"]

theorem mem_checkedKeys_of_fault {e : String × Json} (h : fault? e ≠ none) : e.1 ∈ checkedKeys := by
  revert h
  unfold fault? isProtected fits
  split
  · rename_i hprotected
    intro _
    rcases Bool.or_eq_true_iff.1 hprotected with hkey | hkey <;>
      rw [beq_iff_eq.1 hkey] <;> decide
  · split <;> simp_all [checkedKeys]

/-- The patch that entries without a fault spell. -/
def spelled (es : List (String × Json)) : Patch where
  label := (es.lookup "label").bind Json.string?
  defaultValue := (es.lookup "defaultValue").map fun j => some (Value.ofJson j)
  styles := (es.lookup "styles").bind Value.mapOfJson?
  rules := (es.lookup "logic").bind (Json.list? Rule.ofJson?)
  validation := (es.lookup "validation").bind (Field.Head.optional? Validation.ofJson?)
  readOnly := (es.lookup "readOnly").bind Json.bool?
  properties := es.filter fun e => !Field.Head.names.contains e.1

/-! ## Reading -/

theorem lookup_concat {es : List (String × Json)} {key : String} (hlast : ∀ e ∈ es, e.1 < key)
    (j : Json) (k : String) :
    (es ++ [(key, j)]).lookup k = if k = key then some j else es.lookup k := by
  rw [List.lookup_append, Table.lookup_cons_ite, List.lookup_nil]
  split
  · rename_i hk
    have hnone : es.lookup k = none := by
      rw [List.lookup_eq_none_iff]
      intro e he
      have hne : k ≠ e.1 := hk ▸ (String.ne_of_lt (hlast e he)).symm
      simpa using hne
    rw [hnone, Option.none_or]
  · rw [Option.or_none]

/-- An entry that is none of a head is one more property. -/
theorem spelled_concat_property {es : List (String × Json)} {key : String}
    (hlast : ∀ e ∈ es, e.1 < key) (hkey : key ∉ Field.Head.names) (j : Json) :
    spelled (es ++ [(key, j)])
      = { spelled es with properties := putSorted key j (spelled es).properties } := by
  have hother : ∀ k ∈ Field.Head.names, (es ++ [(key, j)]).lookup k = es.lookup k := by
    intro k hk
    have hne : k ≠ key := fun heq => hkey (heq ▸ hk)
    rw [lookup_concat hlast, if_neg hne]
  have hfilter : [(key, j)].filter (fun e => !Field.Head.names.contains e.1) = [(key, j)] := by
    simpa using hkey
  have hproperties : putSorted key j (spelled es).properties = (spelled es).properties ++ [(key, j)] :=
    putSorted_of_last j _ fun e he => hlast e (List.mem_of_mem_filter he)
  rw [hproperties]
  simp (disch := decide) only [spelled, hother, List.filter_append, hfilter]

/-- One more entry behind those that were read. -/
theorem addEntry_spelled {es : List (String × Json)} {key : String} (hlast : ∀ e ∈ es, e.1 < key)
    (j : Json) : (spelled es).addEntry key j
      = match fault? (key, j) with
        | some e => .error e
        | none => .ok (spelled (es ++ [(key, j)])) := by
  have hlookup := lookup_concat hlast j
  unfold addEntry
  dsimp only
  split
  · rfl
  · rfl
  · cases hj : j.string? <;>
      simp [fault?, isProtected, fits, hj, spelled, hlookup, Field.Head.names]
  · simp [fault?, isProtected, fits, spelled, hlookup, Field.Head.names]
  · cases hj : Value.mapOfJson? j <;>
      simp [fault?, isProtected, fits, hj, spelled, hlookup, Field.Head.names]
  · cases hj : Json.list? Rule.ofJson? j <;>
      simp [fault?, isProtected, fits, hj, spelled, hlookup, Field.Head.names]
  · cases hj : Field.Head.optional? Validation.ofJson? j <;>
      simp [fault?, isProtected, fits, hj, spelled, hlookup, Field.Head.names]
  · cases hj : j.bool? <;>
      simp [fault?, isProtected, fits, hj, spelled, hlookup, Field.Head.names]
  · -- any other key is a property, whatever its value
    rename_i hid htype hlabel hdefault hstyles hlogic hvalidation hreadOnly
    have hchecked : key ∉ checkedKeys := by
      simp only [checkedKeys, List.mem_cons, List.not_mem_nil, or_false, not_or]
      exact ⟨hid, hlabel, hlogic, hreadOnly, hstyles, htype, hvalidation⟩
    have hnames : key ∉ Field.Head.names := by
      simp only [Field.Head.names, List.mem_cons, List.not_mem_nil, or_false, not_or]
      exact ⟨hid, hlabel, hdefault, hstyles, hlogic, hvalidation, hreadOnly⟩
    have hfault : fault? (key, j) = none := by
      by_contra hfault
      exact hchecked (mem_checkedKeys_of_fault hfault)
    rw [hfault, spelled_concat_property hlast hnames]

/-- Entries in ascending order are a patch unless one of them is faulty. -/
theorem foldlM_addEntry {es : List (String × Json)} (h : Ascending es) :
    es.foldlM (fun (p : Patch) e => p.addEntry e.1 e.2) {}
      = match es.findSome? fault? with
        | some e => .error e
        | none => .ok (spelled es) := by
  -- from the end: the entry added last has the greatest key, so it is put behind the others
  induction es using List.reverseRecOn with
  | nil => rfl
  | append_singleton es e ih =>
    obtain ⟨hes, -, hlast⟩ := List.pairwise_append.1 h
    have hlast : ∀ d ∈ es, d.1 < e.1 := fun d hd => hlast d hd e (List.mem_singleton.2 rfl)
    rw [List.foldlM_append, ih hes, List.findSome?_append]
    cases es.findSome? fault? with
    | some error => rfl
    | none =>
      have hentry := addEntry_spelled hlast e.2
      rw [Option.none_or, List.findSome?_singleton]
      refine (bind_pure _).trans (hentry.trans ?_)
      rfl

/-- What is wrong with the value of a key in an object, where the last of its entries counts. -/
def faultAt? (o : List (String × Json)) (key : String) : Option Tree.Error :=
  ((sortEntries o).lookup key).bind fun j => fault? (key, j)

/-- An object is read as a patch, or the fault at the first of the checked keys is told. -/
theorem ofEntries_eq (o : List (String × Json)) :
    ofEntries o = match checkedKeys.findSome? (faultAt? o) with
      | some e => .error e
      | none => .ok (spelled (sortEntries o)) := by
  have hascending := (sortEntries_spec o).1
  have hfirst := Ascending.findSome?_eq checkedKeys (by decide) hascending
    fun _ _ => mem_checkedKeys_of_fault
  unfold ofEntries
  rw [foldlM_addEntry hascending, hfirst]
  rfl

/-! ## What is told of an object -/

/-- The object gives the key a value that cannot stand under it. -/
def misfits (o : List (String × Json)) (key : String) : Bool :=
  ((sortEntries o).lookup key).any fun j => !fits key j

theorem faultAt?_of_not_mem {o : List (String × Json)} {key : String} (h : key ∉ o.map (·.1)) :
    faultAt? o key = none := by
  rw [faultAt?, Table.lookup_sortEntries_eq_none_iff.2 h]
  rfl

theorem faultAt?_protected {o : List (String × Json)} {key : String} (hkey : isProtected key = true)
    (h : key ∈ o.map (·.1)) : faultAt? o key = some (.protectedKey key) := by
  cases hlookup : (sortEntries o).lookup key with
  | none => exact absurd h (Table.lookup_sortEntries_eq_none_iff.1 hlookup)
  | some j => rw [faultAt?, hlookup, Option.bind_some, fault?, if_pos hkey]

theorem findSome?_faultAt? {o : List (String × Json)} {keys : List String}
    (h : ∀ key ∈ keys, isProtected key = false) :
    keys.findSome? (faultAt? o) = (keys.find? (misfits o)).map .invalidPatchValue := by
  induction keys with
  | nil => rfl
  | cons key keys ih =>
    obtain ⟨hkey, hkeys⟩ := List.forall_mem_cons.1 h
    have hfault : faultAt? o key
        = if misfits o key then some (.invalidPatchValue key) else none := by
      unfold faultAt? misfits
      cases (sortEntries o).lookup key with
      | none => rfl
      | some j =>
        rw [Option.bind_some, Option.any_some, fault?, hkey]
        cases fits key j <;> rfl
    rw [List.findSome?_cons, List.find?_cons, hfault]
    cases misfits o key with
    | true => rfl
    | false => exact ih hkeys

variable {o : List (String × Json)}

theorem ofEntries_of_id (hid : "id" ∈ o.map (·.1)) :
    ofEntries o = .error (.protectedKey "id") := by
  rw [ofEntries_eq, checkedKeys, List.findSome?_cons, faultAt?_protected rfl hid]

/-- The keys whose values are read before the type is refused. -/
def keysBeforeType : List String := ["label", "logic", "readOnly", "styles"]

theorem ofEntries_of_type (hid : "id" ∉ o.map (·.1)) (htype : "type" ∈ o.map (·.1)) :
    ofEntries o = .error (((keysBeforeType.find? (misfits o)).map
      Tree.Error.invalidPatchValue).getD (.protectedKey "type")) := by
  have hkeys : checkedKeys = "id" :: (keysBeforeType ++ ["type", "validation"]) := rfl
  rw [ofEntries_eq, hkeys, List.findSome?_cons, faultAt?_of_not_mem hid, List.findSome?_append,
    findSome?_faultAt? (by decide), List.findSome?_cons, faultAt?_protected rfl htype]
  cases keysBeforeType.find? (misfits o) <;> rfl

/-- The keys whose values are read at all. -/
def typedKeys : List String := keysBeforeType ++ ["validation"]

theorem ofEntries_of_unprotected (hid : "id" ∉ o.map (·.1)) (htype : "type" ∉ o.map (·.1)) :
    ofEntries o = match typedKeys.find? (misfits o) with
      | some key => .error (.invalidPatchValue key)
      | none => .ok (spelled (sortEntries o)) := by
  have hkeys : checkedKeys = "id" :: (keysBeforeType ++ "type" :: ["validation"]) := rfl
  have hfind : checkedKeys.findSome? (faultAt? o)
      = (typedKeys.find? (misfits o)).map .invalidPatchValue := by
    rw [← findSome?_faultAt? (by decide), hkeys, List.findSome?_cons, faultAt?_of_not_mem hid,
      typedKeys, List.findSome?_append, List.findSome?_append, List.findSome?_cons,
      faultAt?_of_not_mem htype]
  rw [ofEntries_eq, hfind]
  cases typedKeys.find? (misfits o) <;> rfl

end Patch

end FormBuilder
