/-
The inputs that a form is opened with. A mapping that applies to an id gives it a value of the address,
the last such mapping before all others; without one the id has the default of its field. The passes over
the fields and over the mappings write one table: of what is written under a key the last thing stays.
-/
import FormBuilder.Form.Seed
import FormBuilder.Proofs.Table

namespace FormBuilder

/-- The last thing of a kind that one of the fields has. -/
def Field.last? {α : Type} (get : Field → Option α) (fs : List Field) : Option α :=
  (fs.filterMap get).getLast?

theorem Field.last?_cons {α : Type} (get : Field → Option α) (f : Field) (fs : List Field) :
    last? get (f :: fs) = (last? get fs).or (get f) := by
  rw [last?, last?, List.filterMap_cons]
  cases h : get f with
  | none => exact Option.or_none.symm
  | some a => rw [List.getLast?_cons]; cases (fs.filterMap get).getLast? <;> rfl

/-! ## The table of a form that is opened -/

/-- The value that an address gives an id, by the last mapping to it that applies. -/
def FormSettings.mapped? (settings : FormSettings) (params : QueryParams) (id : String) : Option Value :=
  ((settings.urlMappings.filter (·.target == id)).filterMap fun m =>
    (m.value? params).map Value.text).getLast?

namespace Tree

/-- Of every field the default is put under its id. -/
theorem puts_default : Table.Puts Field.id (·.head.defaultValue) fun (inputs : Inputs) (f : Field) =>
    match f.head.defaultValue with
    | some v => inputs.put f.id v
    | none => inputs where
  put inputs f v hv := by simp only [hv]
  skip inputs f hv := by simp only [hv]

/-- Of every mapping the value of its parameter is put under its target. -/
theorem puts_mapping (params : QueryParams) :
    Table.Puts UrlMapping.target (fun m => (m.value? params).map Value.text)
      fun (inputs : Inputs) (m : UrlMapping) =>
        match m.value? params with
        | some s => inputs.put m.target (.text s)
        | none => inputs where
  put inputs m v hv := by
    obtain ⟨s, hs, rfl⟩ := Option.map_eq_some_iff.1 hv
    simp only [hs]
  skip inputs m hv := by simp only [Option.map_eq_none_iff.1 hv]

theorem get?_defaults (t : Tree) (id : String) :
    t.defaults.get? id = Field.last? (·.head.defaultValue) (t.flatten.filter (·.id == id)) :=
  (puts_default.get?_foldl t.flatten .empty id).trans Option.or_none

theorem get?_seed (t : Tree) (settings : FormSettings) (params : QueryParams) (id : String) :
    (seed t settings params).get? id = (settings.mapped? params id).or (t.defaults.get? id) :=
  (puts_mapping params).get?_foldl settings.urlMappings t.defaults id

theorem nodup_keys_seed (t : Tree) (settings : FormSettings) (params : QueryParams) :
    (seed t settings params).keys.Nodup :=
  (puts_mapping params).nodup_keys settings.urlMappings
    (puts_default.nodup_keys t.flatten List.nodup_nil)

end Tree

/-! ## Mappings that apply -/

/-- The mapping gives the id a value: it names a parameter and a target, the target is the id, and the
parameter is in the address. -/
structure UrlMapping.AppliesTo (params : QueryParams) (id : String) (m : UrlMapping) : Prop where
  parameter : m.parameter ≠ ""
  target : m.target ≠ ""
  aims : m.target = id
  present : ∃ text, (m.parameter, text) ∈ params

namespace UrlMapping

variable {params : QueryParams} {id : String} {m : UrlMapping}

theorem value?_of_complete (hparameter : m.parameter ≠ "") (htarget : m.target ≠ "") :
    m.value? params = params.first? m.parameter := by
  simp [value?, hparameter, htarget]

/-- The first value of the parameter is taken. -/
theorem AppliesTo.value? {before after : QueryParams} {text : String} (h : m.AppliesTo params id)
    (hparams : params = before ++ (m.parameter, text) :: after)
    (hfirst : ∀ p ∈ before, p.1 ≠ m.parameter) : m.value? params = some text := by
  rw [value?_of_complete h.parameter h.target]
  exact List.lookup_eq_some_iff.2 ⟨before, after, hparams, fun p hp => by
    simpa using Ne.symm (hfirst p hp)⟩

theorem AppliesTo.exists_first (h : m.AppliesTo params id) : ∃ before text after,
    params = before ++ (m.parameter, text) :: after ∧ ∀ p ∈ before, p.1 ≠ m.parameter := by
  obtain ⟨text, hmem⟩ := h.present
  have hsome : (params.lookup m.parameter).isSome :=
    List.lookup_isSome_iff.2 ⟨_, hmem, beq_self_eq_true m.parameter⟩
  obtain ⟨first, hfirst⟩ := Option.isSome_iff_exists.1 hsome
  obtain ⟨before, after, hparams, hbefore⟩ := List.lookup_eq_some_iff.1 hfirst
  exact ⟨before, first, after, hparams, fun p hp => by simpa using Ne.symm (bne_iff_ne.1 (hbefore p hp))⟩

theorem appliesTo_iff : m.AppliesTo params id ↔ m.target = id ∧ ∃ text, m.value? params = some text := by
  constructor
  · intro h
    obtain ⟨before, text, after, hparams, hfirst⟩ := h.exists_first
    exact ⟨h.aims, text, h.value? hparams hfirst⟩
  · rintro ⟨haims, text, hvalue⟩
    have hcomplete : m.parameter ≠ "" ∧ m.target ≠ "" := by
      unfold UrlMapping.value? at hvalue
      split at hvalue
      · cases hvalue
      · rename_i hcomplete
        simpa using hcomplete
    rw [value?_of_complete hcomplete.1 hcomplete.2] at hvalue
    obtain ⟨before, after, hparams, -⟩ := List.lookup_eq_some_iff.1 hvalue
    exact ⟨hcomplete.1, hcomplete.2, haims, text, by simp [hparams]⟩

end UrlMapping

namespace FormSettings

variable {settings : FormSettings} {params : QueryParams} {id : String}

theorem mapped?_eq_none_iff :
    settings.mapped? params id = none ↔ ∀ m ∈ settings.urlMappings, ¬ m.AppliesTo params id := by
  rw [mapped?, List.getLast?_eq_none_iff, List.filterMap_eq_nil_iff]
  constructor
  · intro h m hm happlies
    obtain ⟨haims, text, hvalue⟩ := UrlMapping.appliesTo_iff.1 happlies
    have hnone := h m (List.mem_filter.2 ⟨hm, by simpa using haims⟩)
    rw [hvalue] at hnone
    cases hnone
  · intro h m hm
    obtain ⟨hmem, haims⟩ := List.mem_filter.1 hm
    rw [Option.map_eq_none_iff, Option.eq_none_iff_forall_ne_some]
    intro text hvalue
    exact h m hmem (UrlMapping.appliesTo_iff.2 ⟨by simpa using haims, text, hvalue⟩)

/-- The last mapping that applies counts. -/
theorem mapped?_of_last {earlier later : List UrlMapping} {m : UrlMapping} {text : String}
    (hmappings : settings.urlMappings = earlier ++ m :: later) (haims : m.target = id)
    (hvalue : m.value? params = some text) (hlast : ∀ m' ∈ later, ¬ m'.AppliesTo params id) :
    settings.mapped? params id = some (.text text) := by
  have hlater : (⟨settings.name, later⟩ : FormSettings).mapped? params id = none :=
    mapped?_eq_none_iff.2 hlast
  rw [mapped?] at hlater
  have hm : (m.target == id) = true := by simpa using haims
  rw [mapped?, hmappings, List.filter_append, List.filterMap_append, List.filter_cons, if_pos hm,
    List.filterMap_cons, hvalue, Option.map_some, List.getLast?_append, List.getLast?_cons, hlater]
  rfl

/-- If a mapping applies, one is the last to apply. -/
theorem exists_last (ms : List UrlMapping) (h : ∃ m ∈ ms, m.AppliesTo params id) :
    ∃ earlier m later, ms = earlier ++ m :: later ∧ m.AppliesTo params id ∧
      ∀ m' ∈ later, ¬ m'.AppliesTo params id := by
  induction ms with
  | nil =>
    obtain ⟨m, hm, -⟩ := h
    cases hm
  | cons m ms ih =>
    by_cases hrest : ∃ m' ∈ ms, m'.AppliesTo params id
    · obtain ⟨earlier, last, later, rfl, hlast⟩ := ih hrest
      exact ⟨m :: earlier, last, later, rfl, hlast⟩
    · obtain ⟨m', hm', happlies⟩ := h
      rcases List.mem_cons.1 hm' with rfl | hm'
      · exact ⟨[], m', ms, rfl, happlies, fun m' hm' h => hrest ⟨m', hm', h⟩⟩
      · exact absurd ⟨m', hm', happlies⟩ hrest

end FormSettings

/-! ## Precedence -/

/-- What an id of a form has when it is opened: by the last mapping that applies to it the first value of
the parameter, whether or not a field has the id; without such a mapping the default of its field, which
may be absent or null; and else nothing. -/
inductive Tree.Seeded (t : Tree) (settings : FormSettings) (params : QueryParams) (id : String) :
    Option Value → Prop
  | mapped {earlier later : List UrlMapping} {m : UrlMapping} {before after : QueryParams} {text : String}
      (mappings : settings.urlMappings = earlier ++ m :: later) (applies : m.AppliesTo params id)
      (last : ∀ m' ∈ later, ¬ m'.AppliesTo params id)
      (address : params = before ++ (m.parameter, text) :: after)
      (first : ∀ p ∈ before, p.1 ≠ m.parameter) : Seeded t settings params id (some (.text text))
  | default {f : Field} (unmapped : ∀ m ∈ settings.urlMappings, ¬ m.AppliesTo params id)
      (field : f ∈ t.flatten) (named : f.id = id) : Seeded t settings params id f.head.defaultValue
  | unset (unmapped : ∀ m ∈ settings.urlMappings, ¬ m.AppliesTo params id)
      (absent : ∀ f ∈ t.flatten, f.id ≠ id) : Seeded t settings params id none

namespace Tree

variable {t : Tree} {settings : FormSettings} {params : QueryParams} {id : String} {value : Option Value}

theorem exists_seeded (t : Tree) (settings : FormSettings) (params : QueryParams) (id : String) :
    ∃ value, t.Seeded settings params id value := by
  by_cases hmapped : ∃ m ∈ settings.urlMappings, m.AppliesTo params id
  · obtain ⟨earlier, m, later, hmappings, happlies, hlast⟩ := FormSettings.exists_last _ hmapped
    obtain ⟨before, text, after, haddress, hfirst⟩ := happlies.exists_first
    exact ⟨_, .mapped hmappings happlies hlast haddress hfirst⟩
  · have hunmapped : ∀ m ∈ settings.urlMappings, ¬ m.AppliesTo params id :=
      fun m hm h => hmapped ⟨m, hm, h⟩
    by_cases hfield : ∃ f ∈ t.flatten, f.id = id
    · obtain ⟨f, hf, hid⟩ := hfield
      exact ⟨_, .default hunmapped hf hid⟩
    · exact ⟨none, .unset hunmapped fun f hf hid => hfield ⟨f, hf, hid⟩⟩

/-- Without namesakes the default of an id is that of its field. -/
theorem Seeded.get? (ht : (t.flatten.map (·.id)).Nodup) (h : t.Seeded settings params id value) :
    (seed t settings params).get? id = value := by
  rw [get?_seed]
  cases h with
  | mapped hmappings happlies hlast haddress hfirst =>
    rw [FormSettings.mapped?_of_last hmappings happlies.aims (happlies.value? haddress hfirst) hlast]
    rfl
  | default hunmapped hfield hid =>
    subst hid
    rw [FormSettings.mapped?_eq_none_iff.2 hunmapped, get?_defaults, Table.filter_key_eq ht hfield,
      Option.none_or, Field.last?_cons]
    rfl
  | unset hunmapped habsent =>
    have hnone : t.flatten.filter (·.id == id) = [] :=
      List.filter_eq_nil_iff.2 fun f hf => by simpa using habsent f hf
    rw [FormSettings.mapped?_eq_none_iff.2 hunmapped, get?_defaults, hnone]
    rfl

/-- The inputs that a form without namesakes is opened with have exactly what each id is seeded with, and
no row besides. -/
theorem seed_precedence (ht : (t.flatten.map (·.id)).Nodup) (settings : FormSettings)
    (params : QueryParams) :
    (∀ id value, (seed t settings params).get? id = value ↔ t.Seeded settings params id value) ∧
      (seed t settings params).keys.Nodup ∧
      ∀ id, id ∈ (seed t settings params).keys ↔ ∃ v, t.Seeded settings params id (some v) := by
  have hget : ∀ id value, (seed t settings params).get? id = value
      ↔ t.Seeded settings params id value := by
    intro id value
    constructor
    · rintro rfl
      obtain ⟨value, hseeded⟩ := t.exists_seeded settings params id
      rwa [hseeded.get? ht]
    · intro hseeded
      exact hseeded.get? ht
  refine ⟨hget, nodup_keys_seed t settings params, fun id => ?_⟩
  rw [Table.mem_keys_iff]
  exact exists_congr fun v => hget id (some v)

/-- The last mapping to a name lacks its parameter, so the one before it counts, with the first value of
its parameter. A null is a default, and an id without a field can be aimed at too. -/
theorem seed_precedence_threeMappings :
    let head id value : Field.Head := ⟨id, "", value, [], [], none, false⟩
    let t : Tree := ⟨[.leaf (head "name" (some (.text "Ada"))) (.text {}),
      .group (head "box" none) 1 [.leaf (head "note" (some .null)) (.text {})]]⟩
    let settings : FormSettings := ⟨"Guests", [⟨"m1", "a", "name"⟩, ⟨"m2", "b", "name"⟩,
      ⟨"m3", "c", "name"⟩, ⟨"m4", "a", "nobody"⟩, ⟨"m5", "a", ""⟩]⟩
    let params : QueryParams := [("b", "Bob"), ("a", "Eve"), ("b", "Bea")]
    (t.flatten.map (·.id)).Nodup ∧
      t.Seeded settings params "name" (some (.text "Bob")) ∧
      t.Seeded settings params "nobody" (some (.text "Eve")) ∧
      t.Seeded settings params "note" (some .null) ∧
      t.Seeded settings params "box" none ∧ t.Seeded settings params "" none ∧
      (seed t settings params).keys = ["name", "note", "nobody"] := by
  intro head t settings params
  have ht : (t.flatten.map (·.id)).Nodup := by decide
  obtain ⟨hget, -⟩ := seed_precedence ht settings params
  exact ⟨ht, (hget _ _).1 rfl, (hget _ _).1 rfl, (hget _ _).1 rfl, (hget _ _).1 rfl, (hget _ _).1 rfl, rfl⟩

end Tree

end FormBuilder
