/-
Documents that the reader keeps, by the kind of the shape: a record whose members have their shapes,
a list of items of one shape, and anything where nothing is asked for.
-/
import FormBuilder.Proofs.Json.Reader
import FormBuilder.Proofs.Json.Record

namespace FormBuilder.Json.Shape

/-! ## Anything -/

mutual

/-- Where anything may stand, every document is kept. -/
theorem keeps_any : ∀ j : Json, any.Keeps j
  | .null | .bool _ | .integer _ | .float _ | .string _ => ⟨rfl, rfl⟩
  | .array items => ⟨rfl, rfl, keepsItems_any 0 items, rfl⟩
  | .object entries => ⟨rfl, rfl, keepsEntries_any entries, rfl⟩

theorem keepsItems_any : ∀ (index : Nat) (js : List Json), any.KeepsItems index js
  | _, [] => trivial
  | index, j :: js => ⟨⟨any, rfl, keeps_any j⟩, keepsItems_any (index + 1) js⟩

theorem keepsEntries_any : ∀ es : List (String × Json), any.KeepsEntries es
  | [] => trivial
  | (_, j) :: es => ⟨keeps_any j, nofun, keepsEntries_any es⟩

end

theorem keepsEntries_table : ∀ es : List (String × Json), table.KeepsEntries es
  | [] => trivial
  | (_, j) :: es => ⟨keeps_any j, nofun, keepsEntries_table es⟩

theorem keeps_table (es : List (String × Json)) : table.Keeps (.object es) :=
  ⟨rfl, rfl, keepsEntries_table es, rfl⟩

/-! ## Scalars -/

theorem keeps_text {ok : String → Bool} {s : String} (h : ok s = true) :
    (text ok).Keeps (.string s) := ⟨rfl, h⟩

theorem keeps_string (s : String) : string.Keeps (.string s) := keeps_text rfl

theorem keeps_flag (b : Bool) : flag.Keeps (.bool b) := ⟨rfl, rfl⟩

/-! ## Lists -/

theorem keepsItems_list {item : Shape} : ∀ (index : Nat) (js : List Json),
    (∀ j ∈ js, item.Keeps j) → (list item).KeepsItems index js
  | _, [], _ => trivial
  | index, j :: js, h =>
    ⟨⟨item, rfl, h j (List.mem_cons_self ..)⟩,
      keepsItems_list (index + 1) js fun i hi => h i (List.mem_cons_of_mem _ hi)⟩

theorem keeps_list {item : Shape} {js : List Json} (h : ∀ j ∈ js, item.Keeps j) :
    (list item).Keeps (.array js) := ⟨rfl, rfl, keepsItems_list 0 js h, rfl⟩

theorem keeps_list_map {α : Type} {item : Shape} {encode : α → Json} {xs : List α}
    (h : ∀ x ∈ xs, item.Keeps (encode x)) : (list item).Keeps (.array (xs.map encode)) := by
  refine keeps_list fun j hj => ?_
  obtain ⟨x, hx, rfl⟩ := List.mem_map.1 hj
  exact h x hx

/-! ## Values that may be null -/

theorem keepsItems_optional {inner : Shape} : ∀ (index : Nat) (js : List Json),
    inner.KeepsItems index js → (optional inner).KeepsItems index js
  | _, [], _ => trivial
  | index, _ :: js, h => ⟨h.1, keepsItems_optional (index + 1) js h.2⟩

theorem keepsEntries_optional {inner : Shape} : ∀ es : List (String × Json),
    inner.KeepsEntries es → (optional inner).KeepsEntries es
  | [], _ => trivial
  | _ :: es, h => ⟨h.1, h.2.1, keepsEntries_optional es h.2.2⟩

theorem keeps_optional {inner : Shape} {j : Json} (h : inner.Keeps j) :
    (optional inner).Keeps j := by
  have hfits : (optional inner).fits j = true := by
    unfold fits
    rw [h.fits, Bool.or_true]
  cases j with
  | null | bool _ | integer _ | float _ | string _ => exact ⟨rfl, hfits⟩
  | array items => exact ⟨rfl, h.2.1, keepsItems_optional 0 items h.2.2.1, hfits⟩
  | object entries => exact ⟨rfl, h.2.1, keepsEntries_optional entries h.2.2.1, hfits⟩

/-! ## Records -/

variable {members : List (String × Shape)} {others : Shape} {positional : Bool} {whole : Json → Bool}

theorem keepsEntries_record : ∀ es : List (String × Json), DistinctKeys es →
    (∀ e ∈ es, ((members.lookup e.1).getD others).Keeps e.2) →
    (record members others positional whole).KeepsEntries es
  | [], _, _ => trivial
  | (k, j) :: es, hkeys, h => by
    unfold DistinctKeys at hkeys
    rw [List.map_cons, List.nodup_cons] at hkeys
    refine ⟨h (k, j) (List.mem_cons_self ..), fun _ e he hk => ?_,
      keepsEntries_record es hkeys.2 fun e he => h e (List.mem_cons_of_mem _ he)⟩
    exact hkeys.1 (List.mem_map.2 ⟨e, he, hk⟩)

/-- A record without a repeated key is kept when its members have their shapes and the whole is
accepted. -/
theorem keeps_record {es : List (String × Json)} (hkeys : DistinctKeys es)
    (h : ∀ e ∈ es, ((members.lookup e.1).getD others).Keeps e.2)
    (hwhole : whole (.object es) = true) :
    (record members others positional whole).Keeps (.object es) :=
  ⟨rfl, Bool.or_true _, keepsEntries_record es hkeys h, hwhole⟩

end FormBuilder.Json.Shape
