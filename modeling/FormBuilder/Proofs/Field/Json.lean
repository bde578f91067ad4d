/-
The two groups of entries that a field is written as: those that every field has and those of its
type. No name stands in both, so reading can part them again; each group reads back as it was, but
for the words of rules, which read back as their spelling says.
-/
import FormBuilder.Field.Json
import FormBuilder.Proofs.Rule.Json

namespace FormBuilder

open Json (required orElse string? bool? float? uint32? list? textOr flagOr nameOr DistinctKeys)

/-! ## Names -/

theorem TextSubtype.ofName?_name (t : TextSubtype) : ofName? t.name = some t := by
  cases t <;> decide

theorem CellInput.ofName?_name (t : CellInput) : ofName? t.name = some t := by
  cases t <;> decide

theorem Formatting.ofName?_name (t : Formatting) : ofName? t.name = some t := by
  cases t <;> decide

theorem Gateway.ofName?_name (t : Gateway) : ofName? t.name = some t := by
  cases t <;> decide

theorem FieldType.ofName?_name (t : FieldType) : ofName? t.name = some t := by
  cases t <;> decide

/-- The properties of a type, its tag included, are named apart from each other and from what every
field has. -/
theorem FieldType.names_distinct (t : FieldType) :
    ("type" :: t.names).Nodup ∧ ∀ n ∈ "type" :: t.names, n ∉ Field.Head.names := by
  cases t <;> decide

/-! ## Parts -/

theorem Choice.ofJson?_toJson (c : Choice) : ofJson? c.toJson = some c := by
  unfold ofJson? toJson
  rw [Json.members?_object (by simp [DistinctKeys])]
  simp [required, List.lookup_cons, string?]

theorem Axis.ofJson?_toJson (a : Axis) : ofJson? a.toJson = some a := by
  unfold ofJson? toJson
  rw [Json.members?_object (by simp [DistinctKeys])]
  simp [required, List.lookup_cons, string?]

theorem Choice.list?_toJson (cs : List Choice) :
    list? Choice.ofJson? (.array (cs.map Choice.toJson)) = some cs := by
  rw [Json.list?_array_map cs fun c _ => c.ofJson?_toJson, List.map_id']

theorem Axis.list?_toJson (axes : List Axis) :
    list? Axis.ofJson? (.array (axes.map Axis.toJson)) = some axes := by
  rw [Json.list?_array_map axes fun a _ => a.ofJson?_toJson, List.map_id']

theorem Validation.ofJson?_toJson (v : Validation) : ofJson? v.toJson = some v := by
  unfold ofJson? toJson
  rw [Json.members?_object (by simp [DistinctKeys])]
  simp [orElse, List.lookup_cons, string?]

theorem Json.uint32?_toNat (n : UInt32) : uint32? (.integer n.toNat) = some n := by
  have hlt : n.toNat < Nat.pow 2 32 := n.toNat_lt
  simp [uint32?, hlt]

/-! ## What every field has -/

namespace Field.Head

def Storable (h : Head) : Prop :=
  (∀ v ∈ h.defaultValue, v.Storable) ∧ Ascending h.styles ∧ Value.StorableEntries h.styles
    ∧ ∀ r ∈ h.rules, r.Storable

/-- No unknown word of the rules is spelled like a known one. -/
def Distinct (h : Head) : Prop := ∀ r ∈ h.rules, r.Distinct

def reread (h : Head) : Head := { h with rules := h.rules.map Rule.reread }

/-- The entries stand in the order of their names, some of them left out. -/
theorem keys_sublist (h : Head) : (h.entries.map (·.1)).Sublist names := by
  unfold entries names
  cases h.defaultValue <;> cases h.styles <;> cases h.validation <;>
    simp only [Value.entry, List.isEmpty_nil, List.isEmpty_cons, if_true, if_false, Bool.false_eq_true,
      List.map_cons, List.map_nil, List.cons_append, List.nil_append] <;>
    decide

theorem distinctKeys_entries (h : Head) : DistinctKeys h.entries :=
  h.keys_sublist.nodup (by decide)

theorem mem_names_of_mem_entries {h : Head} {e : String × Json} (he : e ∈ h.entries) :
    e.1 ∈ names :=
  h.keys_sublist.subset (List.mem_map.2 ⟨e, he, rfl⟩)

theorem lookup_entries_of_not_mem {h : Head} {key : String} (hkey : key ∉ names) :
    h.entries.lookup key = none := by
  rw [List.lookup_eq_none_iff]
  intro e he
  have hne : key ≠ e.1 := fun heq => hkey (heq ▸ mem_names_of_mem_entries he)
  simpa using hne

theorem optional?_validation (v : Validation) :
    optional? Validation.ofJson? v.toJson = some (some v) := by
  unfold optional?
  rw [Validation.ofJson?_toJson]
  rfl

/-- Reading the entries of a head alone. -/
theorem ofEntries?_entries (h : Head) (hs : h.Storable) : ofEntries? h.entries = some h.reread := by
  obtain ⟨hvalue, hasc, hstyles, hrules⟩ := hs
  have hread := Json.list?_array_map h.rules fun r hr => r.ofJson?_toJson (hrules r hr)
  have hmap := Value.mapOfJson?_entriesToJson hasc hstyles
  obtain ⟨id, label, defaultValue, styles, rules, validation, readOnly⟩ := h
  have hdefault : ∀ v ∈ defaultValue, Value.ofJson v.toJson = v := fun v hv =>
    v.ofJson_toJson (hvalue v hv)
  unfold ofEntries? entries
  cases defaultValue <;> cases styles <;> cases validation <;>
    simp_all [required, orElse, List.lookup_cons, string?, bool?, Value.entry, Value.entry?,
      optional?_validation, reread]

/-- Entries of other names do not disturb the reading of a head. -/
theorem ofEntries?_append (h : Head) {es : List (String × Json)} (hes : ∀ e ∈ es, e.1 ∉ names) :
    ofEntries? (h.entries ++ es) = ofEntries? h.entries := by
  have hlookup : ∀ n ∈ names, (h.entries ++ es).lookup n = h.entries.lookup n := by
    intro n hn
    have hnone : es.lookup n = none := by
      rw [List.lookup_eq_none_iff]
      intro e he
      have hne : n ≠ e.1 := fun hne => hes e he (hne ▸ hn)
      simpa using hne
    rw [List.lookup_append, hnone, Option.or_none]
  simp only [names, List.forall_mem_cons] at hlookup
  obtain ⟨h1, h2, h3, h4, h5, h6, h7, -⟩ := hlookup
  simp only [ofEntries?, required, orElse, Value.entry?, h1, h2, h3, h4, h5, h6, h7]

/-- Leaving out the entries of a head. -/
theorem filter_append (h : Head) {es : List (String × Json)} (hes : ∀ e ∈ es, e.1 ∉ names) :
    ((h.entries ++ es).filter fun e => !names.contains e.1) = es := by
  rw [List.filter_append, List.filter_eq_nil_iff.2, List.nil_append, List.filter_eq_self]
  · intro e he
    simpa using hes e he
  · intro e he
    simpa using mem_names_of_mem_entries he

theorem occurrences_append_le (h : Head) {es : List (String × Json)}
    (hes : ∀ e ∈ es, e.1 ∉ names) {n : String} (hn : n ∈ names) :
    Json.occurrences n (h.entries ++ es) ≤ 1 := by
  have hzero : es.countP (fun e => e.1 == n) = 0 := by
    rw [List.countP_eq_zero]
    intro e he hkey
    rw [beq_iff_eq] at hkey
    exact hes e he (hkey ▸ hn)
  have hle := Json.occurrences_le_one h.distinctKeys_entries n
  unfold Json.occurrences at hle ⊢
  rw [List.countP_append, hzero]
  exact hle

theorem reread_eq_self_iff (h : Head) : h.reread = h ↔ h.Distinct := by
  cases h with
  | mk id label defaultValue styles rules validation readOnly =>
    simp only [reread, Distinct, mk.injEq, true_and, and_true, map_eq_self_iff,
      Rule.reread_eq_self_iff]

theorem writableEntries (h : Head) (hs : h.Storable) : Json.WritableEntries h.entries := by
  obtain ⟨hvalue, -, hstyles, hrules⟩ := hs
  have hlogic := Json.writableItems_map h.rules fun r hr => r.writable_toJson (hrules r hr)
  have hmap := Value.writableEntries_toJson h.styles hstyles
  unfold entries
  simp only [Json.writableEntries_append]
  refine ⟨⟨⟨⟨⟨⟨trivial, trivial, trivial⟩, Value.writableEntries_entry hvalue⟩, ?_⟩,
    hlogic, trivial⟩, ?_⟩, trivial, trivial⟩
  · split
    · trivial
    · exact ⟨hmap, trivial⟩
  · split
    · trivial
    · exact ⟨⟨trivial, trivial, trivial⟩, trivial⟩

end Field.Head

/-! ## The properties of each type -/

theorem Leaf.keys_entries (k : Leaf) : k.entries.map (·.1) = k.fieldType.names := by
  cases k with
  | input type _ => cases type <;> rfl
  | _ => rfl

/-- The numbers of the properties are finite. -/
def Leaf.Storable : Leaf → Prop
  | .fileUpload c => Decimal.isFinite c.maxSizeInMb = true
  | .slider c =>
    Decimal.isFinite c.min = true ∧ Decimal.isFinite c.max = true ∧ Decimal.isFinite c.step = true
  | _ => True

theorem Json.writable_uint32 (n : UInt32) : (Json.integer n.toNat).Writable := by
  have hlt : n.toNat < Nat.pow 2 32 := n.toNat_lt
  have h32 : Nat.pow 2 32 ≤ Nat.pow 2 64 := by decide
  exact ⟨by omega, by omega⟩

theorem Leaf.writableEntries (k : Leaf) (h : k.Storable) : Json.WritableEntries k.entries := by
  cases k with
  | textarea c => exact ⟨trivial, trivial, trivial, Json.writable_uint32 c.rows, trivial, trivial⟩
  | select c =>
    exact ⟨trivial, trivial, trivial,
      Json.writableItems_map c.options fun _ _ => ⟨trivial, trivial, trivial, trivial⟩, trivial, trivial⟩
  | radioGroup c =>
    exact ⟨trivial, trivial,
      Json.writableItems_map c.options fun _ _ => ⟨trivial, trivial, trivial, trivial⟩, trivial⟩
  | fileUpload c => exact ⟨trivial, trivial, trivial, h, trivial, trivial⟩
  | rating c => exact ⟨trivial, trivial, Json.writable_uint32 c.maxRating, trivial⟩
  | slider c => exact ⟨trivial, trivial, h.1, h.2.1, h.2.2, trivial⟩
  | matrix c =>
    exact ⟨trivial, Json.writableItems_map c.rows fun _ _ => ⟨trivial, trivial, trivial⟩,
      Json.writableItems_map c.columns fun _ _ => ⟨trivial, trivial, trivial⟩, trivial, trivial⟩
  | _ => simp [Leaf.entries, Json.WritableEntries, Json.Writable]

namespace Field

theorem keys_kindEntries (f : Field) : f.kindEntries.map (·.1) = "type" :: f.type.names := by
  cases f with
  | leaf h k => rw [kindEntries, List.map_cons, k.keys_entries]; rfl
  | _ => simp [kindEntries, type, FieldType.names]

theorem distinctKeys_kindEntries (f : Field) : DistinctKeys f.kindEntries := by
  unfold DistinctKeys
  rw [keys_kindEntries]
  exact f.type.names_distinct.1

/-- The properties of a type are apart from what every field has. -/
theorem not_mem_headNames (f : Field) : ∀ e ∈ f.kindEntries, e.1 ∉ Head.names := by
  intro e he
  refine f.type.names_distinct.2 e.1 ?_
  rw [← keys_kindEntries]
  exact List.mem_map.2 ⟨e, he, rfl⟩

theorem lookup_type (f : Field) : f.kindEntries.lookup "type" = some (.string f.type.name) := by
  cases f <;> rfl

variable (item : Json → Option Field) (head h : Head)

/-- The keys that a field writes pass the reader's checks, and its tag names its type. -/
theorem ofEntries?_kindEntries (f : Field) :
    ofEntries? item head f.kindEntries = ofProperties? item head f.kindEntries f.type := by
  have hocc := Json.occurrences_le_one f.distinctKeys_kindEntries
  have hnames : (f.type.names.all fun n => decide (Json.occurrences n f.kindEntries ≤ 1)) = true :=
    List.all_eq_true.2 fun n _ => decide_eq_true (hocc n)
  have htype : (f.kindEntries.lookup "type").bind FieldType.ofTag? = some f.type := by
    rw [lookup_type]
    exact FieldType.ofName?_name f.type
  unfold ofEntries?
  rw [Json.guard_bind (hocc "type"), htype]
  exact Json.guard_bind hnames _

theorem ofEntries?_leaf (k : Leaf) :
    ofEntries? item head (kindEntries (.leaf h k)) = some (.leaf head k) := by
  rw [ofEntries?_kindEntries, type]
  cases k with
  | input type c =>
    cases type <;>
      simp [ofProperties?, Leaf.fieldType, InputType.fieldType, kindEntries, Leaf.entries,
        InputConfig.ofEntries?, textOr, flagOr, orElse, List.lookup_cons, string?, bool?]
  | _ =>
    simp [ofProperties?, Leaf.fieldType, kindEntries, Leaf.entries, textOr, flagOr, nameOr, orElse,
      List.lookup_cons, string?, bool?, float?, Json.uint32?_toNat, Json.keptChoice?, Json.choice?,
      TextSubtype.ofName?_name, CellInput.ofName?_name, Formatting.ofName?_name,
      Gateway.ofName?_name, Choice.list?_toJson, Axis.list?_toJson]

theorem ofEntries?_group {cs cs' : List Field} (n : UInt32)
    (hread : list? item (.array (listToJson cs)) = some cs') :
    ofEntries? item head (kindEntries (.group h n cs)) = some (.group head n cs') := by
  rw [ofEntries?_kindEntries, type]
  simp [ofProperties?, kindEntries, orElse, List.lookup_cons, Json.uint32?_toNat, hread]

theorem ofEntries?_repeater {cs cs' : List Field} (label : String)
    (hread : list? item (.array (listToJson cs)) = some cs') :
    ofEntries? item head (kindEntries (.repeater h label cs)) = some (.repeater head label cs') := by
  rw [ofEntries?_kindEntries, type]
  simp [ofProperties?, kindEntries, textOr, orElse, List.lookup_cons, string?, hread]

theorem ofEntries?_tabs {ts ts' : List (Tab Field)}
    (hread : list? (Tab.ofJson? item) (.array (tabsToJson ts)) = some ts') :
    ofEntries? item head (kindEntries (.tabs h ts)) = some (.tabs head ts') := by
  rw [ofEntries?_kindEntries, type]
  simp [ofProperties?, kindEntries, orElse, List.lookup_cons, hread]

theorem ofEntries?_abTest {a a' b b' : List Field}
    (hreadA : list? item (.array (listToJson a)) = some a')
    (hreadB : list? item (.array (listToJson b)) = some b') :
    ofEntries? item head (kindEntries (.abTest h a b)) = some (.abTest head a' b') := by
  rw [ofEntries?_kindEntries, type]
  simp [ofProperties?, kindEntries, orElse, List.lookup_cons, hreadA, hreadB]

end Field

end FormBuilder
