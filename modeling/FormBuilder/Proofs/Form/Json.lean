/-
Saved forms written as JSON read back as they were, and the reader keeps what was written.
-/
import FormBuilder.Form.Json
import FormBuilder.Proofs.Field.Shape
import FormBuilder.Proofs.Form.Timestamp

namespace FormBuilder

open Json (required orElse string? list? DistinctKeys)
open Json.Shape (keeps_string keeps_text keeps_list keeps_list_map keeps_record)

/-! ## Fields of a form -/

namespace Field

theorem list?_ofJson? (fs : List Field) (h : StorableList fs) :
    list? ofJson? (.array (listToJson fs)) = some (rereadList fs) := by
  induction fs with
  | nil => rfl
  | cons f fs ih =>
    have hf := f.ofJson?_toJson h.1
    have hfs := ih h.2
    unfold list? at hfs ⊢
    unfold toJson at hf
    simp only [listToJson, List.mapM_cons, hf, hfs]
    rfl

end Field

namespace Tree

def Storable (t : Tree) : Prop := Field.StorableList t.fields

def reread (t : Tree) : Tree := ⟨Field.rereadList t.fields⟩

theorem reread_eq_self_iff (t : Tree) : t.reread = t ↔ Field.DistinctList t.fields := by
  cases t with
  | mk fields => simp only [reread, mk.injEq, Field.rereadList_eq_self_iff]

end Tree

/-! ## Settings -/

namespace UrlMapping

theorem ofJson?_toJson (m : UrlMapping) : ofJson? m.toJson = some m := by
  unfold ofJson? toJson
  rw [Json.members?_object (by simp [DistinctKeys])]
  simp [required, List.lookup_cons, string?]

theorem writable_toJson (m : UrlMapping) : m.toJson.Writable := ⟨trivial, trivial, trivial, trivial⟩

theorem keeps (m : UrlMapping) : shape.Keeps m.toJson := by
  refine keeps_record (by simp [DistinctKeys]) (fun e he => ?_)
    (Option.isSome_of_eq_some m.ofJson?_toJson)
  simp only [List.mem_cons, List.not_mem_nil, or_false] at he
  rcases he with rfl | rfl | rfl <;> exact keeps_string _

end UrlMapping

namespace FormSettings

theorem ofJson?_toJson (s : FormSettings) : ofJson? s.toJson = some s := by
  have hitems := Json.list?_array_map s.urlMappings fun m _ => m.ofJson?_toJson
  unfold ofJson? toJson
  rw [Json.members?_object (by simp [DistinctKeys])]
  simp [required, orElse, List.lookup_cons, string?, hitems]

theorem writable_toJson (s : FormSettings) : s.toJson.Writable :=
  ⟨trivial, Json.writableItems_map s.urlMappings fun m _ => m.writable_toJson, trivial⟩

theorem keeps (s : FormSettings) : shape.Keeps s.toJson := by
  refine keeps_record (by simp [DistinctKeys]) (fun e he => ?_)
    (Option.isSome_of_eq_some s.ofJson?_toJson)
  simp only [List.mem_cons, List.not_mem_nil, or_false] at he
  rcases he with rfl | rfl
  · exact keeps_string _
  · exact keeps_list_map fun m _ => m.keeps

end FormSettings

/-! ## Forms -/

namespace SavedForm

/-- The numbers of the form are finite, and a text can hold when it was saved. -/
def Storable (f : SavedForm) : Prop := f.tree.Storable ∧ f.savedAt.Valid

/-- No unknown word of a rule is spelled like a known one. -/
def Distinct (f : SavedForm) : Prop := Field.DistinctList f.tree.fields

/-- What the form reads back as. -/
def reread (f : SavedForm) : SavedForm := { f with tree := f.tree.reread }

theorem ofJson?_toJson (f : SavedForm) (h : f.Storable) : ofJson? f.toJson = some f.reread := by
  have hfields := Field.list?_ofJson? f.tree.fields h.1
  have hsaved : Timestamp.ofJson? (.string f.savedAt.text) = some f.savedAt := by
    unfold Timestamp.ofJson? string?
    rw [Option.bind_some, f.savedAt.ofText?_text h.2]
  unfold ofJson? toJson Tree.toJson
  rw [Json.members?_object (by simp [DistinctKeys])]
  simp [required, List.lookup_cons, string?, hfields, hsaved, f.settings.ofJson?_toJson, reread,
    Tree.reread]

theorem writable_toJson (f : SavedForm) (h : f.Storable) : f.toJson.Writable :=
  ⟨trivial, trivial, Field.writableItems_listToJson f.tree.fields h.1, f.settings.writable_toJson,
    trivial, trivial⟩

theorem keeps (f : SavedForm) (h : f.Storable) : shape.Keeps f.toJson := by
  refine keeps_record (by simp [DistinctKeys]) (fun e he => ?_)
    (Option.isSome_of_eq_some (f.ofJson?_toJson h))
  simp only [List.mem_cons, List.not_mem_nil, or_false] at he
  rcases he with rfl | rfl | rfl | rfl | rfl
  · exact keeps_string _
  · exact keeps_string _
  · exact keeps_list (Field.keeps_listToJson h.1)
  · exact f.settings.keeps
  · exact keeps_text (Option.isSome_of_eq_some (f.savedAt.ofText?_text h.2))

theorem reread_eq_self_iff (f : SavedForm) : f.reread = f ↔ f.Distinct := by
  cases f with
  | mk id organizationId tree settings savedAt =>
    simp only [reread, Distinct, mk.injEq, true_and, and_true, tree.reread_eq_self_iff]

end SavedForm

end FormBuilder
