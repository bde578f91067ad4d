/-
What the keys of a table hold, also after a pass over a list in which keys repeat; and tables with one
row for each element of a list, in its order: they arise by adding a row for each element, and updates
by key turn them into tables of the same list.
-/
import FormBuilder.Table
import Mathlib.Data.List.Induction
import Mathlib.Data.List.Nodup

namespace FormBuilder.Table

variable {α β γ : Type}

theorem lookup_cons_ite (k l : String) (v : α) (rows : List (String × α)) :
    ((l, v) :: rows).lookup k = if k = l then some v else rows.lookup k := by
  by_cases h : k = l
  · rw [if_pos h, h, List.lookup_cons_self]
  · have hbeq : (k == l) = false := by simpa using h
    rw [if_neg h, List.lookup_cons, hbeq]

theorem lookup_putRow (k : String) (v : α) (id : String) : ∀ rows : List (String × α),
    (putRow k v rows).lookup id = if id = k then some v else rows.lookup id
  | [] => lookup_cons_ite id k v []
  | (key, w) :: rows => by
    rw [putRow, lookup_cons_ite]
    split
    · rename_i hkey
      obtain rfl : key = k := by simpa using hkey
      rw [lookup_cons_ite]
      split <;> rfl
    · rename_i hkey
      have hne : key ≠ k := by simpa using hkey
      rw [lookup_cons_ite, lookup_putRow k v id rows]
      by_cases h : id = key
      · simp [h, hne]
      · simp [h]

theorem lookup_putSorted (key : String) (v : α) (k : String) : ∀ rows : List (String × α),
    (putSorted key v rows).lookup k = if k = key then some v else rows.lookup k
  | [] => lookup_cons_ite k key v []
  | (l, w) :: rows => by
    rw [putSorted]
    split
    · rw [lookup_cons_ite]
    split
    · rename_i hkey
      obtain rfl : l = key := by simpa using hkey
      rw [lookup_cons_ite, lookup_cons_ite]
      split <;> rfl
    · rename_i hkey
      have hne : l ≠ key := by simpa using hkey
      rw [lookup_cons_ite, lookup_cons_ite, lookup_putSorted key v k rows]
      by_cases h : k = l
      · simp [h, hne]
      · simp [h]

theorem lookup_sortEntries_eq_none_iff {entries : List (String × α)} {key : String} :
    (sortEntries entries).lookup key = none ↔ key ∉ entries.map (·.1) := by
  have hfold : ∀ (rest sorted : List (String × α)),
      (rest.foldl (fun sorted e => putSorted e.1 e.2 sorted) sorted).lookup key = none
        ↔ sorted.lookup key = none ∧ key ∉ rest.map (·.1) := by
    intro rest
    induction rest with
    | nil => simp
    | cons e rest ih =>
      intro sorted
      rw [List.foldl_cons, ih, lookup_putSorted, List.map_cons, List.mem_cons]
      by_cases hkey : key = e.1 <;> simp [hkey]
  refine (hfold entries []).trans ?_
  simp

/-- A key holds what was put last. -/
theorem get?_put (t : Table α) (k : String) (v : α) (id : String) :
    (t.put k v).get? id = if id = k then some v else t.get? id :=
  lookup_putRow k v id t.rows

theorem get?_add (t : Table α) (k : String) (v : α) (id : String) :
    (t.add k v).get? id = (t.get? id).or (if id = k then some v else none) := by
  rw [add]
  split
  · rename_i hsome
    by_cases h : id = k
    · obtain ⟨w, hw⟩ := Option.isSome_iff_exists.1 hsome
      rw [h, hw]
      rfl
    · rw [if_neg h, Option.or_none]
  · rw [get?, List.lookup_append, lookup_cons_ite]
    rfl

theorem get?_update (t : Table α) (k : String) (f : α → α) (id : String) :
    (t.update k f).get? id = if id = k then (t.get? id).map f else t.get? id := by
  obtain ⟨rows⟩ := t
  show (rows.map _).lookup id = if id = k then (rows.lookup id).map f else rows.lookup id
  induction rows with
  | nil => simp
  | cons row rows ih =>
    obtain ⟨l, v⟩ := row
    have hrow : (if l == k then (l, f v) else (l, v)) = (l, if l = k then f v else v) := by
      by_cases h : l = k <;> simp [h]
    show ((if l == k then (l, f v) else (l, v)) :: _).lookup id = _
    rw [hrow, lookup_cons_ite, lookup_cons_ite, ih]
    by_cases hid : id = l
    · subst hid
      by_cases h : id = k <;> simp [h]
    · simp [hid]

/-! ## Keys -/

theorem mem_keys_iff {t : Table α} {k : String} : k ∈ t.keys ↔ ∃ v, t.get? k = some v := by
  rw [← Option.isSome_iff_exists, get?, List.lookup_isSome_iff, keys, List.mem_map]
  constructor
  · rintro ⟨row, hrow, rfl⟩
    exact ⟨row, hrow, beq_self_eq_true row.1⟩
  · rintro ⟨row, hrow, hkey⟩
    exact ⟨row, hrow, (beq_iff_eq.1 hkey).symm⟩

/-- A key that has a row keeps it. -/
theorem keys_put (t : Table α) (k : String) (v : α) :
    (t.put k v).keys = if k ∈ t.keys then t.keys else t.keys ++ [k] := by
  obtain ⟨rows⟩ := t
  show (putRow k v rows).map (·.1) = _
  induction rows with
  | nil => rfl
  | cons row rows ih =>
    obtain ⟨l, w⟩ := row
    rw [putRow]
    by_cases hkey : l = k
    · simp [hkey, keys]
    · simp only [keys, beq_iff_eq, hkey, if_false, List.map_cons] at ih ⊢
      rw [ih]
      by_cases hmem : k ∈ rows.map (·.1) <;> simp [hmem, Ne.symm hkey]

theorem nodup_keys_put {t : Table α} (h : t.keys.Nodup) (k : String) (v : α) :
    (t.put k v).keys.Nodup := by
  rw [keys_put]
  split
  · exact h
  · rename_i hnew
    exact h.append (List.nodup_singleton k) (List.disjoint_singleton.2 hnew)

/-! ## Passes over a list with repeats of a key -/

section Passes

variable (key : β → String)

/-- Only the first element of a key adds a row. -/
theorem get?_foldl_add (value : β → α) (xs : List β) (t : Table α) (id : String) :
    (xs.foldl (fun t x => t.add (key x) (value x)) t).get? id
      = (t.get? id).or ((xs.find? (key · == id)).map value) := by
  induction xs generalizing t with
  | nil => exact Option.or_none.symm
  | cons x xs ih =>
    rw [List.foldl_cons, ih, get?_add, Option.or_assoc]
    by_cases h : id = key x
    · rw [if_pos h, List.find?_cons_of_pos (by simp [h])]
      rfl
    · rw [if_neg h, List.find?_cons_of_neg (by simpa using Ne.symm h)]
      rfl

/-- A step of a pass that puts the value of an element, if it has one, under the key of the element. -/
structure Puts (value? : β → Option α) (step : Table α → β → Table α) : Prop where
  put : ∀ t x v, value? x = some v → step t x = t.put (key x) v
  skip : ∀ t x, value? x = none → step t x = t

variable {key} {value? : β → Option α} {step : Table α → β → Table α}

/-- Of the elements of a key the last one with a value counts. -/
theorem Puts.get?_foldl (h : Puts key value? step) (xs : List β) (t : Table α) (id : String) :
    (xs.foldl step t).get? id
      = ((xs.filter (key · == id)).filterMap value?).getLast?.or (t.get? id) := by
  induction xs using List.reverseRecOn with
  | nil => rfl
  | append_singleton xs x ih =>
    rw [List.foldl_append, List.foldl_cons, List.foldl_nil, List.filter_append, List.filterMap_append]
    cases hvalue : value? x with
    | none =>
      rw [h.skip _ x hvalue, ih]
      by_cases hid : key x = id <;> simp [hid, hvalue]
    | some v =>
      rw [h.put _ x v hvalue, get?_put, ih]
      by_cases hid : key x = id
      · simp [hid, hvalue]
      · simp [hid, Ne.symm hid]

theorem Puts.nodup_keys (h : Puts key value? step) (xs : List β) {t : Table α} (ht : t.keys.Nodup) :
    (xs.foldl step t).keys.Nodup := by
  induction xs generalizing t with
  | nil => exact ht
  | cons x xs ih =>
    rw [List.foldl_cons]
    cases hvalue : value? x with
    | none =>
      rw [h.skip t x hvalue]
      exact ih ht
    | some v =>
      rw [h.put t x v hvalue]
      exact ih (nodup_keys_put ht (key x) v)

variable (key)

/-- All the changes of a key are made, one after the other. -/
theorem get?_foldl_update (change : β → α → α) (xs : List β) (t : Table α) (id : String) :
    (xs.foldl (fun t x => t.update (key x) (change x)) t).get? id
      = (t.get? id).map fun v => (xs.filter (key · == id)).foldl (fun v x => change x v) v := by
  induction xs generalizing t with
  | nil => simp
  | cons x xs ih =>
    rw [List.foldl_cons, ih, get?_update]
    by_cases h : id = key x
    · simp [h, Function.comp_def]
    · simp [h, Ne.symm h]

end Passes

/-! ## Tables of a list -/

/-- The table with a row for each element. -/
def tabulate (key : β → String) (value : β → α) (xs : List β) : Table α :=
  ⟨xs.map fun x => (key x, value x)⟩

variable {key : β → String} {value : β → α}

/-- A look-up finds the value of the first element that has the key. -/
theorem get?_tabulate (xs : List β) (k : String) :
    (tabulate key value xs).get? k = (xs.find? (key · == k)).map value := by
  unfold get? tabulate
  induction xs with
  | nil => rfl
  | cons x xs ih =>
    rw [List.map_cons, lookup_cons_ite]
    by_cases h : key x = k
    · rw [if_pos h.symm, List.find?_cons_of_pos (by simpa using h)]
      rfl
    · rw [if_neg (Ne.symm h), ih, List.find?_cons_of_neg (by simpa using h)]

theorem get?_tabulate_of_not_mem {xs : List β} {k : String} (h : k ∉ xs.map key) :
    (tabulate key value xs).get? k = none := by
  have hnone : xs.find? (key · == k) = none := by
    rw [List.find?_eq_none]
    intro x hx hkey
    exact h (List.mem_map.2 ⟨x, hx, by simpa using hkey⟩)
  rw [get?_tabulate, hnone, Option.map_none]

/-- An element without a namesake is the only one of its key. -/
theorem filter_key_eq {xs : List β} (hnodup : (xs.map key).Nodup) {x : β} (hx : x ∈ xs) :
    xs.filter (key · == key x) = [x] := by
  induction xs with
  | nil => cases hx
  | cons y ys ih =>
    obtain ⟨hnot, hnodup⟩ := List.nodup_cons.1 hnodup
    rcases List.mem_cons.1 hx with rfl | hx
    · have hrest : ys.filter (key · == key x) = [] := by
        rw [List.filter_eq_nil_iff]
        intro z hz heq
        exact hnot (List.mem_map.2 ⟨z, hz, by simpa using heq⟩)
      rw [List.filter_cons_of_pos (by simp), hrest]
    · have hne : ¬ key y = key x := fun heq => hnot (heq ▸ List.mem_map_of_mem hx)
      rw [List.filter_cons_of_neg (by simpa using hne), ih hnodup hx]

theorem get?_tabulate_of_mem {xs : List β} (hnodup : (xs.map key).Nodup) {x : β} (hx : x ∈ xs) :
    (tabulate key value xs).get? (key x) = some (value x) := by
  rw [get?_tabulate, ← List.head?_filter, filter_key_eq hnodup hx]
  rfl

/-- Adding a row for each element of a list without repeats of a key gives its table. -/
theorem foldl_add : ∀ xs done : List β, ((done ++ xs).map key).Nodup →
    xs.foldl (fun t x => t.add (key x) (value x)) (tabulate key value done)
      = tabulate key value (done ++ xs)
  | [], done, _ => by rw [List.append_nil, List.foldl_nil]
  | x :: xs, done, hnodup => by
    have hnew : key x ∉ done.map key := by
      rw [List.map_append, List.map_cons, List.nodup_append] at hnodup
      exact fun hmem => hnodup.2.2 _ hmem _ (List.mem_cons_self ..) rfl
    have hadd : (tabulate key value done).add (key x) (value x)
        = tabulate key value (done ++ [x]) := by
      rw [add, get?_tabulate_of_not_mem hnew]
      simp [tabulate]
    rw [List.foldl_cons, hadd, foldl_add xs (done ++ [x]) (by simpa using hnodup), List.append_assoc,
      List.singleton_append]

theorem tabulate_congr {xs : List β} {value' : β → α} (h : ∀ x ∈ xs, value x = value' x) :
    tabulate key value xs = tabulate key value' xs :=
  congrArg mk (List.map_congr_left fun x hx => by rw [h x hx])

/-- An update changes the values of the elements that have the key. -/
theorem update_tabulate (xs : List β) (k : String) (f : α → α) :
    (tabulate key value xs).update k f
      = tabulate key (fun x => if key x = k then f (value x) else value x) xs := by
  refine congrArg mk ?_
  simp only [tabulate, List.map_map]
  refine List.map_congr_left fun x _ => ?_
  by_cases h : key x = k <;> simp [h]

/-- After updates one after the other, each element has been changed by those of its key alone, in
their order. -/
theorem foldl_update (key : β → String) (target : γ → String) (change : γ → α → α) (xs : List β) :
    ∀ (us : List γ) (value : β → α),
      us.foldl (fun t u => t.update (target u) (change u)) (tabulate key value xs)
        = tabulate key
            (fun x => (us.filter (target · == key x)).foldl (fun v u => change u v) (value x)) xs
  | [], _ => rfl
  | u :: us, value => by
    rw [List.foldl_cons, update_tabulate, foldl_update key target change xs us]
    refine tabulate_congr fun x _ => ?_
    by_cases h : key x = target u
    · simp [h]
    · simp [h, Ne.symm h]

end FormBuilder.Table
