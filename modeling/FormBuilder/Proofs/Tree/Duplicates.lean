/-
The ids that more than one field of a form has. They are listed where their second fields stand, which
is the order of their first fields only where no two of them are interleaved.
-/
import FormBuilder.Tree.Basic
import FormBuilder.Proofs.Occurrence

namespace FormBuilder.Tree

theorem secondOccurrences_eq (seen ids : List String) :
    secondOccurrences seen ids = nthOccurrences 1 seen ids := by
  induction ids generalizing seen with
  | nil => rfl
  | cons i is ih => rw [secondOccurrences, nthOccurrences, ih]

/-- The duplicates are the ids of more than one field, each once and by its second field. They come in
the order of their first fields if and only if, of each two of them, the one with the first field first
has its second field first. -/
theorem duplicateIds_by_second_field (t : Tree) :
    let ids := t.flatten.map (·.id)
    ListsOccurrences 1 ids t.duplicateIds ∧
    (t.duplicateIds.Pairwise (fun i j => ids.idxOf i < ids.idxOf j) ↔
      ∀ i j, 1 < ids.count i → 1 < ids.count j → ids.idxOf i < ids.idxOf j →
        ids.idxOfNth i 1 < ids.idxOfNth j 1) := by
  intro ids
  have hlists : ListsOccurrences 1 ids t.duplicateIds := by
    rw [duplicateIds, secondOccurrences_eq]
    exact listsOccurrences_nthOccurrences 1 ids
  exact ⟨hlists, hlists.pairwise_idxOf_iff⟩

/-- Where the fields of one id stand between those of another, the inner id is listed first. -/
example :
    let leaf id : Field := .leaf ⟨id, "", none, [], [], none, false⟩ (.text {})
    duplicateIds ⟨[leaf "a", leaf "b", leaf "b", leaf "a"]⟩ = ["b", "a"] := by
  decide

end FormBuilder.Tree
