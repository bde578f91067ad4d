/-
The reader keeps a field that was written as JSON: every part of it has the shape that is asked for
at its place.
-/
import FormBuilder.Proofs.Field.RoundTrip
import FormBuilder.Proofs.Json.Shape

namespace FormBuilder

open Json (DistinctKeys)
open Json.Shape (keeps_any keeps_table keeps_string keeps_flag keeps_list_map keeps_optional
  keeps_record)

/-! ## Rules -/

theorem Value.keeps_entry {members : List (String × Json.Shape)} {key : String}
    (h : members.lookup key = some .any) (v : Option Value) :
    ∀ e ∈ entry key v, ((members.lookup e.1).getD .skipped).Keeps e.2 := by
  intro e he
  cases v with
  | none => exact nomatch he
  | some v =>
    rw [entry, List.mem_singleton] at he
    subst he
    rw [h]
    exact keeps_any _

theorem Condition.keeps (c : Condition) (h : c.Storable) : shape.Keeps c.toJson := by
  refine keeps_record (Value.distinctKeys_append_entry (by simp [DistinctKeys]) (by simp) c.value)
    (fun e he => ?_) (Option.isSome_of_eq_some (c.ofJson?_toJson h))
  rcases List.mem_append.1 he with he | he
  · simp only [List.mem_cons, List.not_mem_nil, or_false] at he
    rcases he with rfl | rfl | rfl <;> exact keeps_string _
  · exact Value.keeps_entry rfl c.value e he

theorem ConditionGroup.keeps (g : ConditionGroup) (h : g.Storable) : shape.Keeps g.toJson := by
  refine keeps_record (by simp [DistinctKeys]) (fun e he => ?_)
    (Option.isSome_of_eq_some (g.ofJson?_toJson h))
  simp only [List.mem_cons, List.not_mem_nil, or_false] at he
  rcases he with rfl | rfl
  · exact keeps_string _
  · exact keeps_list_map fun c hc => c.keeps (h c hc)

theorem Action.keeps (a : Action) (h : a.Storable) : shape.Keeps a.toJson := by
  refine keeps_record (Value.distinctKeys_append_entry (by simp [DistinctKeys]) (by simp) a.value)
    (fun e he => ?_) (Option.isSome_of_eq_some (a.ofJson?_toJson h))
  rcases List.mem_append.1 he with he | he
  · simp only [List.mem_cons, List.not_mem_nil, or_false] at he
    rcases he with rfl | rfl | rfl <;> exact keeps_string _
  · exact Value.keeps_entry rfl a.value e he

theorem Rule.keeps (r : Rule) (h : r.Storable) : shape.Keeps r.toJson := by
  refine keeps_record (by simp [DistinctKeys]) (fun e he => ?_)
    (Option.isSome_of_eq_some (r.ofJson?_toJson h))
  simp only [List.mem_cons, List.not_mem_nil, or_false] at he
  rcases he with rfl | rfl | rfl | rfl
  · exact keeps_string _
  · exact keeps_string _
  · exact r.conditions.keeps h.1
  · exact keeps_list_map fun a ha => a.keeps (h.2 a ha)

theorem Validation.keeps (v : Validation) : shape.Keeps v.toJson := by
  refine keeps_record (by simp [DistinctKeys]) (fun e he => ?_)
    (Option.isSome_of_eq_some v.ofJson?_toJson)
  simp only [List.mem_cons, List.not_mem_nil, or_false] at he
  rcases he with rfl | rfl <;> exact keeps_string _

/-! ## Fields -/

namespace Field

/-- What a field asks of the members that every field has. -/
def headShapes : List (String × Json.Shape) :=
  [("id", .string), ("label", .string), ("defaultValue", .any), ("styles", .table),
    ("logic", .list Rule.shape), ("validation", .optional Validation.shape), ("readOnly", .flag)]

theorem Head.keeps_entries (h : Head) (hs : h.Storable) :
    ∀ e ∈ h.entries, ((headShapes.lookup e.1).getD .any).Keeps e.2 := by
  intro e he
  unfold entries at he
  simp only [List.mem_append] at he
  rcases he with ((((he | he) | he) | he) | he) | he
  · simp only [List.mem_cons, List.not_mem_nil, or_false] at he
    rcases he with rfl | rfl <;> exact keeps_string _
  · cases hvalue : h.defaultValue with
    | none =>
      rw [hvalue] at he
      exact absurd he List.not_mem_nil
    | some v =>
      rw [hvalue, Value.entry, List.mem_singleton] at he
      subst he
      exact keeps_any _
  · split at he
    · exact absurd he List.not_mem_nil
    · rw [List.mem_singleton] at he
      subst he
      exact keeps_table _
  · rw [List.mem_singleton] at he
    subst he
    exact keeps_list_map fun r hr => r.keeps (hs.2.2.2 r hr)
  · split at he
    · exact absurd he List.not_mem_nil
    · rename_i v _
      rw [List.mem_singleton] at he
      subst he
      exact keeps_optional v.keeps
  · rw [List.mem_singleton] at he
    subst he
    exact keeps_flag _

theorem keeps_kindEntries (f : Field) :
    ∀ e ∈ f.kindEntries, ((headShapes.lookup e.1).getD .any).Keeps e.2 := by
  intro e he
  have hnone : headShapes.lookup e.1 = none := by
    rw [List.lookup_eq_none_iff]
    intro p hp
    have hne : e.1 ≠ p.1 := fun heq =>
      f.not_mem_headNames e he (heq ▸ List.mem_map.2 ⟨p, hp, rfl⟩)
    simpa using hne
  rw [hnone]
  exact keeps_any _

theorem distinctKeys_toJson (f : Field) : DistinctKeys (f.head.entries ++ f.kindEntries) := by
  unfold DistinctKeys
  rw [List.map_append, List.nodup_append]
  refine ⟨f.head.distinctKeys_entries, f.distinctKeys_kindEntries, fun a ha b hb hab => ?_⟩
  obtain ⟨d, hd, rfl⟩ := List.mem_map.1 ha
  obtain ⟨e, he, rfl⟩ := List.mem_map.1 hb
  exact f.not_mem_headNames e he (hab ▸ Head.mem_names_of_mem_entries hd)

/-- A field of finite numbers is kept as it was written, whatever it holds. -/
theorem keeps (f : Field) (h : f.Storable) : shape.Keeps f.toJson := by
  refine keeps_record f.distinctKeys_toJson (fun e he => ?_)
    (Option.isSome_of_eq_some (f.ofJson?_toJson h))
  rcases List.mem_append.1 he with he | he
  · exact f.head.keeps_entries h.head e he
  · exact f.keeps_kindEntries e he

theorem mem_listToJson : ∀ {fs : List Field} {j : Json}, j ∈ listToJson fs → ∃ f ∈ fs, j = f.toJson
  | [], _, h => nomatch h
  | f :: fs, j, h => by
    rw [listToJson, List.mem_cons] at h
    rcases h with rfl | h
    · exact ⟨f, List.mem_cons_self .., rfl⟩
    · obtain ⟨g, hg, rfl⟩ := mem_listToJson h
      exact ⟨g, List.mem_cons_of_mem _ hg, rfl⟩

theorem storableList_iff (fs : List Field) : StorableList fs ↔ ∀ f ∈ fs, f.Storable := by
  induction fs with
  | nil => simp [StorableList]
  | cons f fs ih => simp [StorableList, ih]

theorem keeps_listToJson {fs : List Field} (h : StorableList fs) :
    ∀ j ∈ listToJson fs, shape.Keeps j := by
  intro j hj
  obtain ⟨f, hf, rfl⟩ := mem_listToJson hj
  exact f.keeps ((storableList_iff fs).1 h f hf)

end Field

end FormBuilder
