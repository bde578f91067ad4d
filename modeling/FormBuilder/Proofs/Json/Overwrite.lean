/-
Overwriting entries of an object: an entry takes the place of the one of its key, or stands at the
end. What is found under a key afterwards, and which keys there are, follows from the two lists of
entries alone.
-/
import FormBuilder.Proofs.Json.Record
import FormBuilder.Proofs.Table

namespace FormBuilder.Json

/-! ## Look-ups -/

theorem lookup_filter {α : Type} (keeps : String → Bool) (key : String) :
    ∀ es : List (String × α), (es.filter fun e => keeps e.1).lookup key
      = if keeps key then es.lookup key else none
  | [] => by simp
  | (k, v) :: es => by
    have ih := lookup_filter keeps key es
    rw [List.filter_cons, Table.lookup_cons_ite]
    by_cases hk : key = k
    · subst hk
      cases hkeeps : keeps key with
      | true => simp
      | false => simpa [hkeeps] using ih
    · rw [if_neg hk]
      split
      · rw [Table.lookup_cons_ite, if_neg hk, ih]
      · exact ih

theorem lookup_storableEntries (key : String) : ∀ es : List (String × Json),
    (storableEntries es).lookup key = (es.lookup key).map storable
  | [] => rfl
  | (k, j) :: es => by
    rw [storableEntries, List.lookup_cons, List.lookup_cons, lookup_storableEntries key es]
    cases key == k <;> rfl

/-! ## One entry -/

theorem putEntry_eq_putRow (key : String) (j : Json) : ∀ es : List (String × Json),
    putEntry key j es = Table.putRow key j es
  | [] => rfl
  | (k, v) :: es => by rw [putEntry, Table.putRow, putEntry_eq_putRow key j es]

theorem lookup_putEntry (key : String) (j : Json) (k : String) (es : List (String × Json)) :
    (putEntry key j es).lookup k = if k = key then some j else es.lookup k := by
  rw [putEntry_eq_putRow, Table.lookup_putRow]

theorem mem_keys_putEntry {key : String} {j : Json} {k : String} : ∀ {es : List (String × Json)},
    k ∈ (putEntry key j es).map (·.1) → k = key ∨ k ∈ es.map (·.1)
  | [], h => .inl (List.mem_singleton.1 h)
  | (l, v) :: es, h => by
    rw [putEntry] at h
    split at h
    · exact .inr h
    · rcases List.mem_cons.1 h with rfl | h
      · exact .inr (List.mem_cons_self ..)
      · exact (mem_keys_putEntry h).imp_right (List.mem_cons_of_mem _)

theorem DistinctKeys.putEntry {key : String} {j : Json} : ∀ {es : List (String × Json)},
    DistinctKeys es → DistinctKeys (putEntry key j es)
  | [], _ => List.nodup_singleton key
  | (k, v) :: es, h => by
    obtain ⟨hnot, hrest⟩ := List.nodup_cons.1 h
    rw [Json.putEntry]
    split
    · exact h
    · rename_i hne
      have hput : DistinctKeys (Json.putEntry key j es) := DistinctKeys.putEntry hrest
      refine List.nodup_cons.2 ⟨fun hmem => ?_, hput⟩
      rcases mem_keys_putEntry hmem with heq | hmem
      · exact hne (by simpa using heq)
      · exact hnot hmem

/-! ## All entries -/

/-- The entries with those of `new` put in, one after the other. -/
def overwrite (es new : List (String × Json)) : List (String × Json) :=
  new.foldl (fun es e => putEntry e.1 e.2 es) es

/-- A key has the new value if there is one; of several, the last. -/
theorem lookup_overwrite (k : String) (es new : List (String × Json)) :
    (overwrite es new).lookup k = ((sortEntries new).lookup k).or (es.lookup k) := by
  -- the entries that are put in so far hide those below them
  have hfold : ∀ (rest written sorted : List (String × Json)),
      written.lookup k = (sorted.lookup k).or (es.lookup k) →
      (overwrite written rest).lookup k
        = ((rest.foldl (fun sorted e => putSorted e.1 e.2 sorted) sorted).lookup k).or
          (es.lookup k) := by
    intro rest
    induction rest with
    | nil => exact fun written sorted h => h
    | cons e rest ih =>
      intro written sorted h
      refine ih (putEntry e.1 e.2 written) (putSorted e.1 e.2 sorted) ?_
      rw [lookup_putEntry, Table.lookup_putSorted]
      split
      · rw [Option.some_or]
      · exact h
  exact hfold new es [] rfl

/-- A key that has no new value keeps the old one. -/
theorem lookup_overwrite_of_not_mem {new : List (String × Json)} {k : String}
    (h : k ∉ new.map (·.1)) (es : List (String × Json)) :
    (overwrite es new).lookup k = es.lookup k := by
  rw [lookup_overwrite, Table.lookup_sortEntries_eq_none_iff.2 h, Option.none_or]

theorem DistinctKeys.overwrite {es : List (String × Json)} (h : DistinctKeys es)
    (new : List (String × Json)) : DistinctKeys (overwrite es new) := by
  induction new generalizing es with
  | nil => exact h
  | cons e new ih => exact ih h.putEntry

end FormBuilder.Json
