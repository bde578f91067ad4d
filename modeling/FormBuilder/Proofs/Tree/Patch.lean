/-
What a patch that succeeds makes of a field: the properties of its type are overwritten and read
again, then what every field has is replaced. Neither touches the id or the type.
-/
import FormBuilder.Proofs.Field.Json
import FormBuilder.Proofs.Field.Properties
import FormBuilder.Proofs.Json.Overwrite
import FormBuilder.Tree.Patch

namespace FormBuilder.Patch

variable {p : Patch} {f g : Field}

theorem cases_of_mergeKind (h : p.mergeKind f = .ok g) : g = f ∨
    "type" ∉ p.properties.map (·.1) ∧ ∃ fuel, Field.ofEntries? (Field.ofJsonWithin? fuel)
      f.head (Json.overwrite (Json.storableEntries f.kindEntries) p.properties) = some g := by
  unfold mergeKind at h
  split at h
  · cases h
    exact .inl rfl
  split at h
  · cases h
  · rename_i hprotected
    have htype : "type" ∉ p.properties.map (·.1) := by
      intro hmem
      obtain ⟨e, he, heq⟩ := List.mem_map.1 hmem
      have hfree := List.find?_eq_none.1 hprotected e he
      rw [heq] at hfree
      exact hfree rfl
    refine .inr ⟨htype,
      Json.depthEntries (Json.overwrite (Json.storableEntries f.kindEntries) p.properties), ?_⟩
    dsimp only at h
    split at h
    · rename_i g' hread
      cases h
      exact hread
    · cases h

theorem apply_eq_ok (h : p.apply f = .ok g) :
    ∃ g', p.mergeKind f = .ok g' ∧ g = g'.withHead (p.patchHead g'.head) := by
  unfold apply at h
  cases hmerge : p.mergeKind f with
  | error e =>
    rw [hmerge] at h
    cases h
  | ok g' =>
    rw [hmerge] at h
    cases h
    exact ⟨g', rfl, rfl⟩

theorem head_type_of_mergeKind (h : p.mergeKind f = .ok g) : g.head = f.head ∧ g.type = f.type := by
  rcases cases_of_mergeKind h with rfl | ⟨hnot, fuel, hread⟩
  · exact ⟨rfl, rfl⟩
  · obtain ⟨type, htype, hread⟩ := Field.properties_of_ofEntries? hread
    rw [Json.lookup_overwrite_of_not_mem hnot, Json.lookup_storableEntries, f.lookup_type] at htype
    obtain rfl : f.type = type :=
      Option.some.inj ((FieldType.ofName?_name f.type).symm.trans htype)
    exact Field.head_type_of_ofProperties? hread

/-- No patch changes the id or the type of a field. -/
theorem id_type_of_apply (h : p.apply f = .ok g) : g.id = f.id ∧ g.type = f.type := by
  obtain ⟨g', hmerge, rfl⟩ := apply_eq_ok h
  obtain ⟨hhead, htype⟩ := head_type_of_mergeKind hmerge
  have hid : g'.id = f.id := congrArg Field.Head.id hhead
  rw [← hid, ← htype]
  cases g' <;> exact ⟨rfl, rfl⟩

end FormBuilder.Patch
