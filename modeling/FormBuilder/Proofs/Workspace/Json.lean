/-
Workspaces written as JSON read back as they were, and the reader keeps what was written: the text of
the file of a workspace is read to its end, unless arrays and objects in it are nested too deep.
-/
import FormBuilder.Workspace.Store
import FormBuilder.Proofs.Form.Json
import FormBuilder.Proofs.Json.Text

namespace FormBuilder

open Json (required orElse string? list? DistinctKeys)
open Json.Shape (keeps_any keeps_string keeps_list_map keeps_record)

/-! ## Users, organizations and roles -/

namespace Permission

theorem ofName?_name (p : Permission) : ofName? p.name = some p := by
  cases p <;> decide

theorem ofJson?_toJson (p : Permission) : ofJson? p.toJson = some p := by
  unfold ofJson? toJson Json.choice?
  exact p.ofName?_name

end Permission

namespace Role

theorem ofJson?_toJson (r : Role) : ofJson? r.toJson = some r := by
  have hitems := Json.list?_array_map r.permissions fun p _ => p.ofJson?_toJson
  unfold ofJson? toJson
  rw [Json.members?_object (by simp [DistinctKeys])]
  simp [required, List.lookup_cons, string?, hitems]

theorem writable_toJson (r : Role) : r.toJson.Writable :=
  ⟨trivial, trivial, trivial, Json.writableItems_map r.permissions fun _ _ => trivial, trivial⟩

theorem keeps (r : Role) : shape.Keeps r.toJson := by
  refine keeps_record (by simp [DistinctKeys]) (fun e he => ?_)
    (Option.isSome_of_eq_some r.ofJson?_toJson)
  simp only [List.mem_cons, List.not_mem_nil, or_false] at he
  rcases he with rfl | rfl | rfl | rfl
  · exact keeps_string _
  · exact keeps_string _
  · exact keeps_string _
  · exact keeps_list_map fun p _ => keeps_any p.toJson

end Role

namespace User

theorem ofJson?_toJson (u : User) : ofJson? u.toJson = some u := by
  unfold ofJson? toJson
  rw [Json.members?_object (by simp [DistinctKeys])]
  simp [required, List.lookup_cons, string?]

theorem writable_toJson (u : User) : u.toJson.Writable :=
  ⟨trivial, trivial, trivial, trivial, trivial⟩

theorem keeps (u : User) : shape.Keeps u.toJson := by
  refine keeps_record (by simp [DistinctKeys]) (fun e he => ?_)
    (Option.isSome_of_eq_some u.ofJson?_toJson)
  simp only [List.mem_cons, List.not_mem_nil, or_false] at he
  rcases he with rfl | rfl | rfl | rfl <;> exact keeps_string _

end User

namespace Organization

theorem ofJson?_toJson (o : Organization) : ofJson? o.toJson = some o := by
  unfold ofJson? toJson
  rw [Json.members?_object (by simp [DistinctKeys])]
  simp [required, List.lookup_cons, string?]

theorem writable_toJson (o : Organization) : o.toJson.Writable := ⟨trivial, trivial, trivial⟩

theorem keeps (o : Organization) : shape.Keeps o.toJson := by
  refine keeps_record (by simp [DistinctKeys]) (fun e he => ?_)
    (Option.isSome_of_eq_some o.ofJson?_toJson)
  simp only [List.mem_cons, List.not_mem_nil, or_false] at he
  rcases he with rfl | rfl <;> exact keeps_string _

end Organization

/-! ## Workspaces -/

namespace Workspace

/-- The numbers of every form are finite, and a text can hold when each form was saved. -/
def Storable (w : Workspace) : Prop := ∀ f ∈ w.forms, f.Storable

/-- No unknown word of a rule is spelled like a known one. -/
def Distinct (w : Workspace) : Prop := ∀ f ∈ w.forms, f.Distinct

/-- What the workspace reads back as. -/
def reread (w : Workspace) : Workspace := { w with forms := w.forms.map SavedForm.reread }

theorem ofJson?_toJson (w : Workspace) (h : w.Storable) : ofJson? w.toJson = some w.reread := by
  have husers := Json.list?_array_map w.users fun u _ => u.ofJson?_toJson
  have horganizations := Json.list?_array_map w.organizations fun o _ => o.ofJson?_toJson
  have hroles := Json.list?_array_map w.roles fun r _ => r.ofJson?_toJson
  have hforms := Json.list?_array_map w.forms fun f hf => f.ofJson?_toJson (h f hf)
  unfold ofJson? toJson
  rw [Json.members?_object (by simp [DistinctKeys])]
  simp [orElse, List.lookup_cons, husers, horganizations, hroles, hforms, reread]

theorem writable_toJson (w : Workspace) (h : w.Storable) : w.toJson.Writable :=
  ⟨Json.writableItems_map w.users fun u _ => u.writable_toJson,
    Json.writableItems_map w.organizations fun o _ => o.writable_toJson,
    Json.writableItems_map w.roles fun r _ => r.writable_toJson,
    Json.writableItems_map w.forms fun f hf => f.writable_toJson (h f hf), trivial⟩

/-- A workspace of finite numbers is kept as it was written, whatever its forms hold. -/
theorem keeps (w : Workspace) (h : w.Storable) : shape.Keeps w.toJson := by
  refine keeps_record (by simp [DistinctKeys]) (fun e he => ?_)
    (Option.isSome_of_eq_some (w.ofJson?_toJson h))
  simp only [List.mem_cons, List.not_mem_nil, or_false] at he
  rcases he with rfl | rfl | rfl | rfl
  · exact keeps_list_map fun u _ => u.keeps
  · exact keeps_list_map fun o _ => o.keeps
  · exact keeps_list_map fun r _ => r.keeps
  · exact keeps_list_map fun f hf => f.keeps (h f hf)

theorem reread_eq_self_iff (w : Workspace) : w.reread = w ↔ w.Distinct := by
  cases w with
  | mk users organizations roles forms =>
    simp only [reread, Distinct, mk.injEq, true_and, map_eq_self_iff, SavedForm.reread_eq_self_iff]

/-! ## The file -/

/-- How deep arrays and objects are nested in the file of the workspace. -/
def fileDepth (w : Workspace) : Nat := w.toJson.depth

/-- The reader takes the text of a workspace for that workspace, or refuses it for its depth. -/
theorem read_fileText (w : Workspace) (h : w.Storable) :
    Json.read shape w.fileText
      = if w.fileDepth ≤ Json.nestingLimit then .ok w.toJson else .error .malformed :=
  Json.readWithin_of_tokens (Json.tokens_pretty w.toJson (w.writable_toJson h)) (w.keeps h)

/-- Loading the file of a workspace. -/
theorem workspace?_fileText (w : Workspace) (h : w.Storable) (path : String) :
    (FileContent.text w.fileText).workspace? path
      = if w.fileDepth ≤ Json.nestingLimit then .ok (some w.reread) else .error (.unreadable path) := by
  unfold FileContent.workspace?
  simp only [w.read_fileText h]
  by_cases hdeep : w.fileDepth ≤ Json.nestingLimit
  · simp only [if_pos hdeep, Except.toOption, Option.bind_some, w.ofJson?_toJson h]
  · simp only [if_neg hdeep, Except.toOption, Option.bind_none]

end Workspace

end FormBuilder
