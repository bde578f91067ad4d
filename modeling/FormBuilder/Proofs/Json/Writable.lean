/-
Documents that a text can hold as they are: every floating-point number is finite and every whole
number fits into 64 bits.
-/
import FormBuilder.Json.Basic

namespace FormBuilder.Json

mutual

/-- The numbers of the document, at every depth, are ones that a text can hold. -/
def Writable : Json → Prop
  | .null | .bool _ | .string _ => True
  | .integer n => -(Nat.pow 2 63 : Int) ≤ n ∧ n < (Nat.pow 2 64 : Int)
  | .float x => Decimal.isFinite x = true
  | .array items => WritableItems items
  | .object entries => WritableEntries entries

def WritableItems : List Json → Prop
  | [] => True
  | j :: js => j.Writable ∧ WritableItems js

def WritableEntries : List (String × Json) → Prop
  | [] => True
  | (_, j) :: es => j.Writable ∧ WritableEntries es

end

theorem writableItems_map {α : Type} {encode : α → Json} :
    ∀ xs : List α, (∀ x ∈ xs, (encode x).Writable) → WritableItems (xs.map encode)
  | [], _ => trivial
  | x :: xs, h =>
    ⟨h x (List.mem_cons_self ..), writableItems_map xs fun y hy => h y (List.mem_cons_of_mem _ hy)⟩

theorem writableEntries_append : ∀ es fs : List (String × Json),
    WritableEntries (es ++ fs) ↔ WritableEntries es ∧ WritableEntries fs
  | [], _ => by simp [WritableEntries]
  | (_, j) :: es, fs => by simp [WritableEntries, writableEntries_append es fs, and_assoc]

mutual

/-- A writable document holds no number that a text would have to replace by null. -/
theorem storable_of_writable : ∀ j : Json, j.Writable → j.storable = j
  | .null, _ | .bool _, _ | .string _, _ | .integer _, _ => rfl
  | .float x, h => by
    rw [storable, if_pos (show Decimal.isFinite x = true from h)]
  | .array items, h => by
    rw [storable, storableItems_of_writable items h]
  | .object entries, h => by
    rw [storable, storableEntries_of_writable entries h]

theorem storableItems_of_writable : ∀ js : List Json, WritableItems js → storableItems js = js
  | [], _ => rfl
  | j :: js, h => by
    rw [storableItems, storable_of_writable j h.1, storableItems_of_writable js h.2]

theorem storableEntries_of_writable : ∀ es : List (String × Json), WritableEntries es →
    storableEntries es = es
  | [], _ => rfl
  | (k, j) :: es, h => by
    rw [storableEntries, storable_of_writable j h.1, storableEntries_of_writable es h.2]

end

end FormBuilder.Json
