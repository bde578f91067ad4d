/-
Values written as JSON read back as they were: the entries of a map keep their order because they
are written in ascending order of their keys, and an absent value stays absent while an explicit
null stays a null.
-/
import FormBuilder.Value.Json
import FormBuilder.Proofs.Json.Writable

namespace FormBuilder

/-! ## Ascending entries -/

/-- The keys ascend, so that each occurs once. -/
def Ascending {α : Type} (es : List (String × α)) : Prop := es.Pairwise fun a b => a.1 < b.1

theorem putSorted_of_last {α : Type} {key : String} (value : α) :
    ∀ es : List (String × α), (∀ e ∈ es, e.1 < key) → putSorted key value es = es ++ [(key, value)]
  | [], _ => rfl
  | (k, v) :: es, h => by
    have hk : k < key := h (k, v) (List.mem_cons_self ..)
    have hne : k ≠ key := fun e => String.lt_irrefl key (e ▸ hk)
    rw [putSorted, if_neg (String.lt_asymm hk), if_neg (by simpa using hne),
      putSorted_of_last value es fun e he => h e (List.mem_cons_of_mem _ he)]
    rfl

/-- Entries that ascend are in order already. -/
theorem sortEntries_of_ascending {α : Type} {es : List (String × α)} (h : Ascending es) :
    sortEntries es = es := by
  have hfold : ∀ (rest done : List (String × α)), Ascending (done ++ rest) →
      rest.foldl (fun sorted e => putSorted e.1 e.2 sorted) done = done ++ rest := by
    intro rest
    induction rest with
    | nil => intro done _; simp
    | cons e rest ih =>
      intro done hasc
      have hlast : ∀ d ∈ done, d.1 < e.1 := fun d hd =>
        (List.pairwise_append.1 hasc).2.2 d hd e (List.mem_cons_self ..)
      rw [List.foldl_cons, putSorted_of_last e.2 done hlast, ih (done ++ [e]) (by simpa using hasc)]
      simp
  exact hfold es [] (by simpa using h)

namespace Value

/-! ## Values that a document can hold -/

mutual

/-- Numbers are finite and the keys of maps ascend, at every depth. -/
def Storable : Value → Prop
  | .null | .bool _ | .text _ => True
  | .number x => Decimal.isFinite x = true
  | .list items => StorableItems items
  | .map entries => Ascending entries ∧ StorableEntries entries

def StorableItems : List Value → Prop
  | [] => True
  | v :: vs => v.Storable ∧ StorableItems vs

def StorableEntries : List (String × Value) → Prop
  | [] => True
  | (_, v) :: es => v.Storable ∧ StorableEntries es

end

/-! ## The round trip -/

mutual

theorem ofJson_toJson : ∀ v : Value, v.Storable → ofJson v.toJson = v
  | .null, _ | .bool _, _ | .number _, _ | .text _, _ => rfl
  | .list items, h => by
    rw [toJson, ofJson, itemsOfJson_toJson items h]
  | .map entries, h => by
    rw [toJson, ofJson, entriesOfJson_toJson entries h.2, sortEntries_of_ascending h.1]

theorem itemsOfJson_toJson : ∀ vs : List Value, StorableItems vs → itemsOfJson (itemsToJson vs) = vs
  | [], _ => rfl
  | v :: vs, h => by
    rw [itemsToJson, itemsOfJson, ofJson_toJson v h.1, itemsOfJson_toJson vs h.2]

theorem entriesOfJson_toJson : ∀ es : List (String × Value), StorableEntries es →
    entriesOfJson (entriesToJson es) = es
  | [], _ => rfl
  | (k, v) :: es, h => by
    rw [entriesToJson, entriesOfJson, ofJson_toJson v h.1, entriesOfJson_toJson es h.2]

end

theorem mapOfJson?_entriesToJson {es : List (String × Value)} (hasc : Ascending es)
    (h : StorableEntries es) : mapOfJson? (.object (entriesToJson es)) = some es := by
  rw [mapOfJson?, entriesOfJson_toJson es h, sortEntries_of_ascending hasc]

/-- An optional value that is written as an entry, or left out, reads back as it was: an absent
value is absent and a null is a null. -/
theorem entry?_append_entry {es : List (String × Json)} {key : String} {v : Option Value}
    (hnew : es.lookup key = none) (h : ∀ w ∈ v, w.Storable) :
    entry? (es ++ entry key v) key = v := by
  unfold entry?
  rw [List.lookup_append, hnew, Option.none_or]
  cases v with
  | none => rfl
  | some w => simp [entry, ofJson_toJson w (h w rfl)]

/-! ## Numbers -/

mutual

theorem writable_toJson : ∀ v : Value, v.Storable → v.toJson.Writable
  | .null, _ | .bool _, _ | .text _, _ => trivial
  | .number _, h => h
  | .list items, h => writableItems_toJson items h
  | .map entries, h => writableEntries_toJson entries h.2

theorem writableItems_toJson : ∀ vs : List Value, StorableItems vs →
    Json.WritableItems (itemsToJson vs)
  | [], _ => trivial
  | v :: vs, h => ⟨writable_toJson v h.1, writableItems_toJson vs h.2⟩

theorem writableEntries_toJson : ∀ es : List (String × Value), StorableEntries es →
    Json.WritableEntries (entriesToJson es)
  | [], _ => trivial
  | (_, v) :: es, h => ⟨writable_toJson v h.1, writableEntries_toJson es h.2⟩

end

theorem writableEntries_entry {key : String} {v : Option Value} (h : ∀ w ∈ v, w.Storable) :
    Json.WritableEntries (entry key v) := by
  cases v with
  | none => trivial
  | some w => exact ⟨writable_toJson w (h w rfl), trivial⟩

end Value

end FormBuilder
