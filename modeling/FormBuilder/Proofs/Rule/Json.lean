/-
Rules written as JSON read back as they were, but for their words: a word is written as its
spelling, so an unknown word that is spelled like a known one reads back as the known one.
-/
import FormBuilder.Rule.Json
import FormBuilder.Proofs.Json.Record
import FormBuilder.Proofs.Value.Json

namespace FormBuilder

open Json (required orElse string? list? DistinctKeys)

/-! ## Words -/

namespace Operator

def known : List Operator := [.eq, .neq, .gt, .lt, .contains, .notContains, .isEmpty, .isNotEmpty]

/-- The operator is not an unknown one that is spelled like a known one. -/
def Distinct (o : Operator) : Prop := ∀ s, o = .other s → ∀ k ∈ known, k.text ≠ s

/-- What the operator reads back as. -/
def reread (o : Operator) : Operator := ofText o.text

theorem reread_eq_self_iff (o : Operator) : o.reread = o ↔ o.Distinct := by
  cases o with
  | other s =>
    simp only [reread, Distinct, known, text, List.forall_mem_cons, other.injEq, forall_eq']
    unfold ofText
    split <;> simp_all [eq_comm]
  | _ => simp [reread, Distinct, text, ofText]

end Operator

namespace Effect

def known : List Effect := [.show, .hide, .enable, .disable, .setValue]

/-- The effect is not an unknown one that is spelled like a known one. -/
def Distinct (e : Effect) : Prop := ∀ s, e = .other s → ∀ k ∈ known, k.text ≠ s

/-- What the effect reads back as. -/
def reread (e : Effect) : Effect := ofText e.text

theorem reread_eq_self_iff (e : Effect) : e.reread = e ↔ e.Distinct := by
  cases e with
  | other s =>
    simp only [reread, Distinct, known, text, List.forall_mem_cons, other.injEq, forall_eq']
    unfold ofText
    split <;> simp_all [eq_comm]
  | _ => simp [reread, Distinct, text, ofText]

end Effect

namespace Conjunction

def known : List Conjunction := [.and, .or]

/-- The conjunction is not an unknown one that is spelled like a known one. -/
def Distinct (c : Conjunction) : Prop := ∀ s, c = .other s → ∀ k ∈ known, k.text ≠ s

/-- What the conjunction reads back as. -/
def reread (c : Conjunction) : Conjunction := ofText c.text

theorem reread_eq_self_iff (c : Conjunction) : c.reread = c ↔ c.Distinct := by
  cases c with
  | other s =>
    simp only [reread, Distinct, known, text, List.forall_mem_cons, other.injEq, forall_eq']
    unfold ofText
    split <;> simp_all [eq_comm]
  | _ => simp [reread, Distinct, text, ofText]

end Conjunction

/-! ## Conditions and actions -/

/-- An optional entry with a new key keeps the keys distinct. -/
theorem Value.distinctKeys_append_entry {es : List (String × Json)} {key : String}
    (h : DistinctKeys es) (hnew : ∀ e ∈ es, e.1 ≠ key) (v : Option Value) :
    DistinctKeys (es ++ entry key v) := by
  cases v with
  | none => simpa [entry] using h
  | some w =>
    unfold DistinctKeys at h ⊢
    rw [List.map_append, List.nodup_append]
    refine ⟨h, by simp [entry], fun a ha b hb => ?_⟩
    obtain ⟨e, he, rfl⟩ := List.mem_map.1 ha
    simp only [entry, List.map_cons, List.map_nil, List.mem_singleton] at hb
    exact hb ▸ hnew e he

namespace Condition

def Storable (c : Condition) : Prop := ∀ v ∈ c.value, v.Storable

def Distinct (c : Condition) : Prop := c.operator.Distinct

def reread (c : Condition) : Condition := { c with operator := c.operator.reread }

theorem ofJson?_toJson (c : Condition) (h : c.Storable) : ofJson? c.toJson = some c.reread := by
  have hkeys : DistinctKeys ([("id", .string c.id), ("sourceField", .string c.source),
      ("operator", .string c.operator.text)] ++ Value.entry "value" c.value) :=
    Value.distinctKeys_append_entry (by simp [DistinctKeys]) (by simp) c.value
  unfold ofJson? toJson
  rw [Json.members?_object hkeys, Option.bind_eq_bind, Option.bind_some,
    Value.entry?_append_entry (by simp [List.lookup_cons]) h]
  simp [required, List.lookup_cons, string?, reread, Operator.reread]

theorem writable_toJson (c : Condition) (h : c.Storable) : c.toJson.Writable :=
  ⟨trivial, trivial, trivial, Value.writableEntries_entry h⟩

theorem reread_eq_self_iff (c : Condition) : c.reread = c ↔ c.Distinct := by
  unfold Distinct
  rw [← Operator.reread_eq_self_iff]
  exact ⟨fun h => congrArg Condition.operator h, fun h => by rw [reread, h]⟩

end Condition

namespace Action

def Storable (a : Action) : Prop := ∀ v ∈ a.value, v.Storable

def Distinct (a : Action) : Prop := a.effect.Distinct

def reread (a : Action) : Action := { a with effect := a.effect.reread }

theorem ofJson?_toJson (a : Action) (h : a.Storable) : ofJson? a.toJson = some a.reread := by
  have hkeys : DistinctKeys ([("id", .string a.id), ("actionType", .string a.effect.text),
      ("targetFieldId", .string a.target)] ++ Value.entry "value" a.value) :=
    Value.distinctKeys_append_entry (by simp [DistinctKeys]) (by simp) a.value
  unfold ofJson? toJson
  rw [Json.members?_object hkeys, Option.bind_eq_bind, Option.bind_some,
    Value.entry?_append_entry (by simp [List.lookup_cons]) h]
  simp [required, List.lookup_cons, string?, reread, Effect.reread]

theorem writable_toJson (a : Action) (h : a.Storable) : a.toJson.Writable :=
  ⟨trivial, trivial, trivial, Value.writableEntries_entry h⟩

theorem reread_eq_self_iff (a : Action) : a.reread = a ↔ a.Distinct := by
  unfold Distinct
  rw [← Effect.reread_eq_self_iff]
  exact ⟨fun h => congrArg Action.effect h, fun h => by rw [reread, h]⟩

end Action

/-! ## Rules -/

theorem map_eq_self_iff {α : Type} {f : α → α} :
    ∀ xs : List α, xs.map f = xs ↔ ∀ x ∈ xs, f x = x
  | [] => by simp
  | x :: xs => by simp [map_eq_self_iff xs]

namespace ConditionGroup

def Storable (g : ConditionGroup) : Prop := ∀ c ∈ g.conditions, c.Storable

def Distinct (g : ConditionGroup) : Prop := g.conjunction.Distinct ∧ ∀ c ∈ g.conditions, c.Distinct

def reread (g : ConditionGroup) : ConditionGroup :=
  ⟨g.conjunction.reread, g.conditions.map Condition.reread⟩

theorem ofJson?_toJson (g : ConditionGroup) (h : g.Storable) : ofJson? g.toJson = some g.reread := by
  have hitems := Json.list?_array_map g.conditions fun c hc => c.ofJson?_toJson (h c hc)
  unfold ofJson? toJson
  rw [Json.members?_object (by simp [DistinctKeys])]
  simp [required, orElse, List.lookup_cons, string?, hitems, reread, Conjunction.reread]

theorem writable_toJson (g : ConditionGroup) (h : g.Storable) : g.toJson.Writable :=
  ⟨trivial, Json.writableItems_map g.conditions fun c hc => c.writable_toJson (h c hc), trivial⟩

theorem reread_eq_self_iff (g : ConditionGroup) : g.reread = g ↔ g.Distinct := by
  cases g with
  | mk conjunction conditions =>
    simp only [reread, Distinct, mk.injEq, map_eq_self_iff, Conjunction.reread_eq_self_iff,
      Condition.reread_eq_self_iff]

end ConditionGroup

namespace Rule

def Storable (r : Rule) : Prop := r.conditions.Storable ∧ ∀ a ∈ r.actions, a.Storable

/-- No unknown word of the rule is spelled like a known one. -/
def Distinct (r : Rule) : Prop := r.conditions.Distinct ∧ ∀ a ∈ r.actions, a.Distinct

/-- What the rule reads back as. -/
def reread (r : Rule) : Rule :=
  { r with conditions := r.conditions.reread, actions := r.actions.map Action.reread }

theorem ofJson?_toJson (r : Rule) (h : r.Storable) : ofJson? r.toJson = some r.reread := by
  have hitems := Json.list?_array_map r.actions fun a ha => a.ofJson?_toJson (h.2 a ha)
  unfold ofJson? toJson
  rw [Json.members?_object (by simp [DistinctKeys])]
  simp [required, orElse, List.lookup_cons, string?, r.conditions.ofJson?_toJson h.1, hitems, reread]

theorem writable_toJson (r : Rule) (h : r.Storable) : r.toJson.Writable :=
  ⟨trivial, trivial, r.conditions.writable_toJson h.1,
    Json.writableItems_map r.actions fun a ha => a.writable_toJson (h.2 a ha), trivial⟩

theorem reread_eq_self_iff (r : Rule) : r.reread = r ↔ r.Distinct := by
  cases r with
  | mk id name conditions actions =>
    simp only [reread, Distinct, mk.injEq, true_and, map_eq_self_iff,
      ConditionGroup.reread_eq_self_iff, Action.reread_eq_self_iff]

end Rule

end FormBuilder
