/-
Reading the members of a record that was written as an object: when no key occurs twice, the
record gives its entries, each under its name, and a list of items gives what each item gives.
-/
import FormBuilder.Json.Record

namespace FormBuilder.Json

/-! ## Keys -/

/-- No two entries have the same key. -/
def DistinctKeys {α : Type} (es : List (String × α)) : Prop := (es.map (·.1)).Nodup

theorem occurrences_le_one {es : List (String × Json)} (h : DistinctKeys es) (key : String) :
    occurrences key es ≤ 1 := by
  induction es with
  | nil => simp [occurrences]
  | cons e es ih =>
    unfold DistinctKeys at h
    rw [List.map_cons, List.nodup_cons] at h
    obtain ⟨hnot, hrest⟩ := h
    have hle := ih hrest
    unfold occurrences at hle ⊢
    rw [List.countP_cons]
    split
    · rename_i hkey
      -- the key stands at the head, so it stands nowhere behind it
      have hzero : es.countP (fun e => e.1 == key) = 0 := by
        rw [List.countP_eq_zero]
        intro b hb hkb
        rw [beq_iff_eq] at hkey hkb
        exact hnot (List.mem_map.2 ⟨b, hb, hkb.trans hkey.symm⟩)
      omega
    · omega

theorem members?_object {es : List (String × Json)} (h : DistinctKeys es) (names : List String) :
    members? names (.object es) = some es := by
  have hall : (names.all fun n => decide (occurrences n es ≤ 1)) = true := by
    rw [List.all_eq_true]
    intro n _
    exact decide_eq_true (occurrences_le_one h n)
  simp only [members?, hall, if_true]

/-- A check that passes is followed by the rest of the reader. -/
theorem guard_bind {α : Type} {p : Prop} [Decidable p] (h : p) (f : Unit → Option α) :
    (guard p >>= f) = f () := by
  have hpass : (guard p : Option Unit) = some () := if_pos h
  rw [hpass]
  rfl

/-! ## Items -/

/-- The items of an array, where every item was written from an element of a list. -/
theorem list?_array_map {α β : Type} {encode : α → Json} {decode : Json → Option β}
    {result : α → β} (xs : List α) (h : ∀ x ∈ xs, decode (encode x) = some (result x)) :
    list? decode (.array (xs.map encode)) = some (xs.map result) := by
  show (xs.map encode).mapM decode = some (xs.map result)
  induction xs with
  | nil => rfl
  | cons x xs ih =>
    rw [List.map_cons, List.mapM_cons, h x (List.mem_cons_self ..),
      ih fun y hy => h y (List.mem_cons_of_mem _ hy)]
    rfl

/-! ## Depth -/

theorem depthEntries_append : ∀ es fs : List (String × Json),
    depthEntries (es ++ fs) = max (depthEntries es) (depthEntries fs)
  | [], fs => by simp [depthEntries]
  | (_, j) :: es, fs => by simp [depthEntries, depthEntries_append es fs, Nat.max_assoc]

end FormBuilder.Json
