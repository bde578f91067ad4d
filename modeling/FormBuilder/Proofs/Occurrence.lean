/-
Occurrences in a list. The ids that occur more than a number of times are listed in one pass, each where
it passes that number: so they are ordered by one occurrence of each, the first or a later one.
-/
import Mathlib.Data.List.Basic
import Mathlib.Data.List.Pairwise

namespace FormBuilder

/-- The ids that occur more than `n` times, each of them once, ordered by the occurrences that have `n`
others of the same id before them. -/
structure ListsOccurrences (n : Nat) (ids out : List String) : Prop where
  nodup : out.Nodup
  mem_iff : ∀ id, id ∈ out ↔ n < ids.count id
  ordered : out.Pairwise fun i j => ids.idxOfNth i n < ids.idxOfNth j n

/-- The ids that occur for the time that `n` times come before, when `seen` stands before the list. -/
def nthOccurrences (n : Nat) (seen : List String) : List String → List String
  | [] => []
  | i :: is =>
    if seen.count i = n then i :: nthOccurrences n (i :: seen) is else nthOccurrences n (i :: seen) is

section

variable {n : Nat} {i id : String} {is js seen ids : List String}

/-- An occurrence has as many others before it as the list before it has. -/
theorem idxOfNth_append_cons (i : String) (is js : List String) :
    (is ++ i :: js).idxOfNth i (is.count i) = is.length := by
  induction is with
  | nil => simp
  | cons k is ih =>
    rw [List.cons_append, List.length_cons]
    by_cases hk : k = i
    · subst hk
      rw [List.count_cons_self, List.idxOfNth_cons_succ_of_beq (by simp), ih]
    · rw [List.count_cons_of_ne hk, List.idxOfNth_cons_of_not_beq (by simpa using hk), ih]

/-- An occurrence with more others before it than a part of the list has stands behind that part. -/
theorem length_le_idxOfNth_append (h : is.count i ≤ n) (js : List String) :
    is.length ≤ (is ++ js).idxOfNth i n := by
  induction is generalizing n with
  | nil => exact Nat.zero_le _
  | cons k is ih =>
    rw [List.cons_append, List.length_cons]
    by_cases hk : k = i
    · subst hk
      rw [List.count_cons_self] at h
      obtain ⟨n, rfl⟩ := Nat.exists_eq_add_of_le' h
      rw [← Nat.add_assoc, List.idxOfNth_cons_succ_of_beq (by simp)]
      exact Nat.succ_le_succ (ih (Nat.le_add_left ..))
    · rw [List.count_cons_of_ne hk] at h
      rw [List.idxOfNth_cons_of_not_beq (by simpa using hk)]
      exact Nat.succ_le_succ (ih h)

theorem mem_nthOccurrences :
    id ∈ nthOccurrences n seen ids ↔ seen.count id ≤ n ∧ n < seen.count id + ids.count id := by
  induction ids generalizing seen with
  | nil =>
    simp only [nthOccurrences, List.not_mem_nil, List.count_nil, Nat.add_zero, false_iff]
    omega
  | cons i is ih =>
    have hstep : id ∈ nthOccurrences n seen (i :: is)
        ↔ (seen.count i = n ∧ id = i) ∨ id ∈ nthOccurrences n (i :: seen) is := by
      rw [nthOccurrences]
      split <;> simp_all
    rw [hstep, ih]
    by_cases hid : i = id
    · subst hid
      simp only [List.count_cons_self, and_true]
      omega
    · rw [List.count_cons_of_ne hid, List.count_cons_of_ne hid]
      exact or_iff_right fun h => hid h.2.symm

/-- The occurrences come in the order of their places. -/
theorem pairwise_nthOccurrences (n : Nat) (seen ids : List String) :
    (nthOccurrences n seen ids).Pairwise
      fun i j => (seen.reverse ++ ids).idxOfNth i n < (seen.reverse ++ ids).idxOfNth j n := by
  -- places are counted in the whole list, so the ids seen stay in front of it
  induction ids generalizing seen with
  | nil => exact .nil
  | cons i is ih =>
    have hwhole : (i :: seen).reverse ++ is = seen.reverse ++ i :: is := by simp
    have hrest := ih (i :: seen)
    rw [hwhole] at hrest
    rw [nthOccurrences]
    split
    · rename_i hcount
      refine .cons (fun j hj => ?_) hrest
      have hplace := idxOfNth_append_cons i seen.reverse is
      have hcountj : (i :: seen).reverse.count j ≤ n := by
        rw [List.count_reverse]
        exact (mem_nthOccurrences.1 hj).1
      have hbehind := length_le_idxOfNth_append hcountj is
      rw [List.count_reverse, hcount] at hplace
      rw [hwhole, List.length_reverse, List.length_cons] at hbehind
      rw [hplace, List.length_reverse]
      exact hbehind
    · exact hrest

theorem listsOccurrences_nthOccurrences (n : Nat) (ids : List String) :
    ListsOccurrences n ids (nthOccurrences n [] ids) := by
  have hordered := pairwise_nthOccurrences n [] ids
  refine ⟨hordered.imp fun h heq => ?_, fun id => ?_, hordered⟩
  · rw [heq] at h
    exact Nat.lt_irrefl _ h
  · rw [mem_nthOccurrences, List.count_nil, Nat.zero_add]
    exact and_iff_right (Nat.zero_le n)

end

/-! ## Order -/

theorem ListsOccurrences.mem {n : Nat} {ids out : List String} {id : String}
    (h : ListsOccurrences n ids out) (hid : id ∈ out) : id ∈ ids :=
  List.count_pos_iff.1 (Nat.zero_lt_of_lt ((h.mem_iff id).1 hid))

theorem rel_or_rel_of_pairwise {R : String → String → Prop} {out : List String} {i j : String}
    (h : out.Pairwise R) (hi : i ∈ out) (hj : j ∈ out) (hne : i ≠ j) : R i j ∨ R j i := by
  have hsymm : Std.Symm fun i j => R i j ∨ R j i := ⟨fun _ _ => Or.symm⟩
  have heither : out.Pairwise fun i j => R i j ∨ R j i := h.imp .inl
  exact heither.forall hi hj hne

/-- The list is ordered by the first occurrences as well where of each two of its ids the one that
occurs first is the first to be listed. -/
theorem ListsOccurrences.pairwise_idxOf_iff {n : Nat} {ids out : List String}
    (h : ListsOccurrences n ids out) :
    out.Pairwise (fun i j => ids.idxOf i < ids.idxOf j) ↔
      ∀ i j, n < ids.count i → n < ids.count j → ids.idxOf i < ids.idxOf j →
        ids.idxOfNth i n < ids.idxOfNth j n := by
  constructor
  · intro hfirst i j hi hj hlt
    rw [← h.mem_iff] at hi hj
    have hne : i ≠ j := by
      rintro rfl
      exact Nat.lt_irrefl _ hlt
    rcases rel_or_rel_of_pairwise (hfirst.and h.ordered) hi hj hne with ⟨-, hlt'⟩ | ⟨hback, -⟩
    · exact hlt'
    · exact absurd hlt (Nat.lt_asymm hback)
  · intro hall
    refine (h.ordered.and h.nodup).imp_of_mem fun {i j} hi hj hij => ?_
    obtain ⟨hlt, hne⟩ := hij
    have hplaces : ids.idxOf i ≠ ids.idxOf j := fun heq => hne ((List.idxOf_inj (h.mem hi)).1 heq)
    have hback := hall j i ((h.mem_iff j).1 hj) ((h.mem_iff i).1 hi)
    omega

end FormBuilder
