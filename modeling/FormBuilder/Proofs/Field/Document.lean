/-
What a field that is read from a document depends on: on the values under the names that it knows
and on nothing else, neither the order of the entries nor how much deeper than the document the
reader may go. The value under one name decides what the field writes under this name.
-/
import FormBuilder.Proofs.Field.Properties
import FormBuilder.Proofs.Field.RoundTrip
import FormBuilder.Proofs.Json.Overwrite

namespace FormBuilder

open Json (orElse required list? string? bool? textOr flagOr nameOr DistinctKeys depthEntries depthItems)

/-! ## Depth -/

namespace Json

theorem depth_le_of_mem : ∀ {items : List Json} {j : Json}, j ∈ items → j.depth ≤ depthItems items
  | k :: items, j, h => by
    rw [depthItems]
    rcases List.mem_cons.1 h with rfl | h
    · exact Nat.le_max_left ..
    · exact Nat.le_trans (depth_le_of_mem h) (Nat.le_max_right ..)

theorem depth_le_of_mem_entries : ∀ {es : List (String × Json)} {e : String × Json}, e ∈ es →
    e.2.depth ≤ depthEntries es
  | (k, j) :: es, e, h => by
    rw [depthEntries]
    rcases List.mem_cons.1 h with rfl | h
    · exact Nat.le_max_left ..
    · exact Nat.le_trans (depth_le_of_mem_entries h) (Nat.le_max_right ..)

theorem mem_of_lookup {es : List (String × Json)} {key : String} {j : Json}
    (h : es.lookup key = some j) : (key, j) ∈ es := by
  obtain ⟨before, after, rfl, -⟩ := List.lookup_eq_some_iff.1 h
  exact List.mem_append_right _ (List.mem_cons_self ..)

theorem depthEntries_le_of_subset {es fs : List (String × Json)} (h : ∀ e ∈ es, e ∈ fs) :
    depthEntries es ≤ depthEntries fs := by
  induction es with
  | nil => exact Nat.zero_le _
  | cons e es ih =>
    obtain ⟨he, hes⟩ := List.forall_mem_cons.1 h
    exact Nat.max_le.2 ⟨depth_le_of_mem_entries he, ih hes⟩

/-- The members of a record lie less deep than the record. -/
theorem depth_le_of_members? {names : List String} {j : Json} {es : List (String × Json)}
    (h : j.members? names = some es) {e : String × Json} (he : e ∈ es) : e.2.depth ≤ j.depth := by
  unfold members? at h
  split at h
  · split at h
    · obtain rfl := Option.some.inj h
      exact Nat.le_succ_of_le (depth_le_of_mem_entries he)
    · cases h
  · split at h
    · obtain rfl := Option.some.inj h
      exact Nat.le_succ_of_le (depth_le_of_mem (List.of_mem_zip he).2)
    · cases h
  · cases h

end Json

/-! ## How deep the reader goes -/

namespace Field

variable {α : Type} {item item' : Json → Option α} {es : List (String × Json)}

/-- Items are read alike by readers that agree on all that is no deeper than the list. -/
theorem list?_congr {j : Json} (h : ∀ k : Json, k.depth ≤ j.depth → item k = item' k) :
    list? item j = list? item' j := by
  cases j with
  | array items =>
    have hitems : ∀ k ∈ items, item k = item' k := fun k hk =>
      h k (Nat.le_succ_of_le (Json.depth_le_of_mem hk))
    show items.mapM item = items.mapM item'
    clear h
    induction items with
    | nil => rfl
    | cons k items ih =>
      obtain ⟨hk, hitems⟩ := List.forall_mem_cons.1 hitems
      rw [List.mapM_cons, List.mapM_cons, hk, ih hitems]
  | null | bool _ | integer _ | float _ | string _ | object _ => rfl

theorem orElse_congr {name : String} {default : α}
    (h : ∀ e ∈ es, item e.2 = item' e.2) : orElse es name default item = orElse es name default item' := by
  unfold orElse
  split
  · rfl
  · rename_i j hlookup
    exact h (name, j) (Json.mem_of_lookup hlookup)

theorem tab_congr {j : Json} (h : ∀ k : Json, k.depth ≤ j.depth → item k = item' k) :
    Tab.ofJson? item j = Tab.ofJson? item' j := by
  unfold Tab.ofJson?
  cases hmembers : j.members? ["id", "label", "children"] with
  | none => rfl
  | some es =>
    have hchildren : orElse es "children" [] (list? item) = orElse es "children" [] (list? item') := by
      refine orElse_congr fun e he => list?_congr fun k hk => ?_
      exact h k (Nat.le_trans hk (Json.depth_le_of_members? hmembers he))
    simp only [Option.bind_eq_bind, Option.bind_some, hchildren]

end Field

namespace Field

variable {item item' : Json → Option Field} {head head' : Head} {es es' : List (String × Json)}
  {f g : Field}

theorem ofEntries?_congr_item (h : ∀ j : Json, j.depth ≤ depthEntries es → item j = item' j) :
    ofEntries? item head es = ofEntries? item' head es := by
  have hlist : ∀ name : String, orElse es name [] (list? item) = orElse es name [] (list? item') := by
    refine fun name => orElse_congr fun e he => list?_congr fun k hk => ?_
    exact h k (Nat.le_trans hk (Json.depth_le_of_mem_entries he))
  have htabs : orElse es "tabs" [] (list? (Tab.ofJson? item))
      = orElse es "tabs" [] (list? (Tab.ofJson? item')) := by
    refine orElse_congr fun e he => list?_congr fun k hk => tab_congr fun l hl => ?_
    exact h l (Nat.le_trans hl (Nat.le_trans hk (Json.depth_le_of_mem_entries he)))
  have hproperties : ∀ type, ofProperties? item head es type = ofProperties? item' head es type := by
    intro type
    cases type with
    | group | repeater | abTest => simp only [ofProperties?, hlist]
    | tabs => simp only [ofProperties?, htabs]
    | _ => rfl
  simp only [ofEntries?, hproperties]

/-- A reader that goes deep enough reads what every such reader reads. -/
theorem ofJsonWithin?_congr : ∀ (m n : Nat) (j : Json), j.depth ≤ m → j.depth ≤ n →
    ofJsonWithin? m j = ofJsonWithin? n j
  | 0, n, .object es, hm, _ => absurd hm (Nat.not_succ_le_zero _)
  | m, 0, .object es, _, hn => absurd hn (Nat.not_succ_le_zero _)
  | m + 1, n + 1, .object es, hm, hn => by
    have hlist : ∀ head, ofEntries? (ofJsonWithin? m) head (es.filter fun e => !Head.names.contains e.1)
        = ofEntries? (ofJsonWithin? n) head (es.filter fun e => !Head.names.contains e.1) := by
      refine fun head => ofEntries?_congr_item fun j hj => ?_
      -- fields are nested below the entries besides the head, which are no deeper than all of them
      have hle : j.depth ≤ depthEntries es :=
        Nat.le_trans hj (Json.depthEntries_le_of_subset fun e he => List.mem_of_mem_filter he)
      have hdepth : (Json.object es).depth = depthEntries es + 1 := by rw [Json.depth]
      exact ofJsonWithin?_congr m n j (by omega) (by omega)
    simp only [ofJsonWithin?, hlist]
  | m, n, .null, _, _ | m, n, .bool _, _, _ | m, n, .integer _, _, _ | m, n, .float _, _, _
  | m, n, .string _, _, _ | m, n, .array _, _, _ => by
    cases m <;> cases n <;> rfl

/-! ## Which entries are read -/

/-- The tag leads the reader to the properties of its type, when no key occurs twice. -/
theorem ofEntries?_eq (h : DistinctKeys es) : ofEntries? item head es
    = ((es.lookup "type").bind FieldType.ofTag?).bind (ofProperties? item head es) := by
  have hocc := Json.occurrences_le_one h
  unfold ofEntries?
  rw [Json.guard_bind (hocc "type")]
  cases (es.lookup "type").bind FieldType.ofTag? with
  | none => rfl
  | some type =>
    have hnames : (type.names.all fun n => decide (Json.occurrences n es ≤ 1)) = true :=
      List.all_eq_true.2 fun n _ => decide_eq_true (hocc n)
    exact Json.guard_bind hnames _

/-- A field is read alike from entries with the same values, in whatever order they stand. -/
theorem ofEntries?_congr (hes : DistinctKeys es) (hes' : DistinctKeys es')
    (h : ∀ key ∉ Head.names, es.lookup key = es'.lookup key) :
    ofEntries? item head es = ofEntries? item head es' := by
  have hproperties : ∀ type, ofProperties? item head es type = ofProperties? item head es' type := by
    intro type
    cases type <;>
      simp (disch := decide) only [ofProperties?, InputConfig.ofEntries?, textOr, flagOr, nameOr,
        orElse, h]
  rw [ofEntries?_eq hes, ofEntries?_eq hes', h "type" (by decide)]
  exact congrArg _ (funext hproperties)

theorem ofJsonWithin?_object (h : DistinctKeys es) (n : Nat) : ofJsonWithin? (n + 1) (.object es)
    = (Head.ofEntries? es).bind fun head =>
        ofEntries? (ofJsonWithin? n) head (es.filter fun e => !Head.names.contains e.1) := by
  have hnames : (Head.names.all fun n => decide (Json.occurrences n es ≤ 1)) = true :=
    List.all_eq_true.2 fun n _ => decide_eq_true (Json.occurrences_le_one h n)
  rw [ofJsonWithin?, Json.guard_bind hnames]
  rfl

/-- The head stands apart from what is read for the type. -/
theorem ofEntries?_withHead : ofEntries? item head es
    = (ofEntries? item head' es).map (·.withHead head) := by
  have hproperties : ∀ type, ofProperties? item head es type
      = (ofProperties? item head' es type).map (·.withHead head) := by
    intro type
    cases type <;>
      simp [ofProperties?, Option.map_bind, Function.comp_def, withHead]
  unfold ofEntries?
  simp [hproperties, Option.map_bind]

end Field

/-! ## What stands under a name -/

/-- The entries of the document that a field is written as. -/
def Field.document (f : Field) : List (String × Json) := f.head.entries ++ f.kindEntries

/-- The property of a container that holds the fields of a slot. -/
def Slot.property? : Slot → Option String
  | .root => none
  | .children _ => some "children"
  | .tab _ _ => some "tabs"
  | .variant _ .a => some "variantA"
  | .variant _ .b => some "variantB"

namespace Field

variable {item : Json → Option Field} {head head' : Head} {es es' : List (String × Json)}
  {f g : Field} {type : FieldType} {key : String}

/-- The slots of a field that a property holds. -/
def slotsUnder (f : Field) (key : String) : List (Slot × List Field) :=
  f.slots.filter fun s => s.1.property? == some key

/-- What a head writes under a name. -/
def Head.value? (h : Head) : String → Option Json
  | "id" => some (.string h.id)
  | "label" => some (.string h.label)
  | "defaultValue" => h.defaultValue.map Value.toJson
  | "styles" => if h.styles.isEmpty then none else some (.object (Value.entriesToJson h.styles))
  | "logic" => some (.array (h.rules.map Rule.toJson))
  | "validation" => h.validation.map Validation.toJson
  | "readOnly" => some (.bool h.readOnly)
  | _ => none

theorem Head.lookup_entries (h : Head) (key : String) : h.entries.lookup key = h.value? key := by
  by_cases hkey : key ∈ names
  · revert key
    obtain ⟨id, label, defaultValue, styles, rules, validation, readOnly⟩ := h
    cases defaultValue <;> cases styles <;> cases validation <;>
      simp [names, entries, value?, Value.entry, List.lookup_cons]
  · rw [lookup_entries_of_not_mem hkey]
    unfold value?
    split <;> simp [names] at hkey ⊢

/-- Readers that find the same under a name make the same of it. -/
theorem eq_of_lookup_eq {α : Type} {default a a' : α} {decode : Json → Option α}
    (hkey : es.lookup key = es'.lookup key) (h : orElse es key default decode = some a)
    (h' : orElse es' key default decode = some a') : a = a' := by
  rw [orElse, hkey] at h
  rw [orElse, h] at h'
  exact Option.some.inj h'

theorem Head.lookup_entries_congr (hkey : es.lookup key = es'.lookup key)
    (h : Head.ofEntries? es = some head) (h' : Head.ofEntries? es' = some head') :
    head.entries.lookup key = head'.entries.lookup key := by
  have hfrom := Head.ofEntries?_eq_some_iff.1 h
  have hfrom' := Head.ofEntries?_eq_some_iff.1 h'
  rw [lookup_entries, lookup_entries]
  unfold value?
  split
  · have hid := hfrom.id
    rw [required, hkey] at hid
    rw [Option.some.inj (hid.symm.trans hfrom'.id)]
  · have hlabel := hfrom.label
    rw [required, hkey] at hlabel
    rw [Option.some.inj (hlabel.symm.trans hfrom'.label)]
  · have hdefault := hfrom.defaultValue
    rw [Value.entry?, hkey] at hdefault
    rw [← hdefault, ← hfrom'.defaultValue, Value.entry?]
  · rw [eq_of_lookup_eq hkey hfrom.styles hfrom'.styles]
  · rw [eq_of_lookup_eq hkey hfrom.rules hfrom'.rules]
  · rw [eq_of_lookup_eq hkey hfrom.validation hfrom'.validation]
  · rw [eq_of_lookup_eq hkey hfrom.readOnly hfrom'.readOnly]
  · rfl

theorem lookup_cons_congr {α : Type} {name : String} {a a' : α} {l l' : List (String × α)}
    (ha : name = key → a = a') (hl : l.lookup key = l'.lookup key) :
    ((name, a) :: l).lookup key = ((name, a') :: l').lookup key := by
  rw [Table.lookup_cons_ite, Table.lookup_cons_ite, hl]
  split
  · rename_i hkey
    rw [ha hkey.symm]
  · rfl

theorem lookup_kindEntries_congr (hkey : es.lookup key = es'.lookup key)
    (h : ofProperties? item head es type = some f) (h' : ofProperties? item head' es' type = some g) :
    f.kindEntries.lookup key = g.kindEntries.lookup key := by
  have hsame : ∀ {α : Type} {name : String} {default a a' : α} {decode : Json → Option α},
      name = key → orElse es name default decode = some a →
      orElse es' name default decode = some a' → a = a' := by
    rintro α name default a a' decode rfl ha ha'
    exact eq_of_lookup_eq hkey ha ha'
  -- every property is read from the value under its own name
  cases type with
  | checkbox | datePicker | time | dateTime | signature | geolocation =>
    simp only [ofProperties?, InputConfig.ofEntries?, Option.bind_eq_bind, Option.map_eq_some_iff,
      Option.bind_eq_some_iff, Option.pure_def, Option.some.injEq] at h h'
    obtain ⟨_, ⟨text, htext, flag, hflag, rfl⟩, rfl⟩ := h
    obtain ⟨_, ⟨text', htext', flag', hflag', rfl⟩, rfl⟩ := h'
    refine lookup_cons_congr (fun _ => rfl) (lookup_cons_congr (fun hname => ?_)
      (lookup_cons_congr (fun hname => ?_) rfl))
    · rw [hsame hname htext htext']
    · rw [hsame hname hflag hflag']
  | _ =>
    simp only [ofProperties?, Option.bind_eq_bind, Option.bind_eq_some_iff, Option.pure_def,
      Option.some.injEq, textOr, flagOr, nameOr] at h h'
    repeat obtain ⟨_, _, h⟩ := h
    repeat obtain ⟨_, _, h'⟩ := h'
    refine lookup_cons_congr (fun _ => rfl) ?_
    repeat' refine lookup_cons_congr (fun hname => ?_) ?_
    all_goals first
      | rfl
      | have heq := hsame hname ‹_› ‹_›
        rw [heq]

/-- Two fields with one slot each, of one address, hold the same under its property when the slots
do. -/
theorem slotsUnder_single {s : Slot} {cs cs' : List Field} (hf : f.slots = [(s, cs)])
    (hg : g.slots = [(s, cs')]) (h : s.property? = some key → cs = cs') :
    f.slotsUnder key = g.slotsUnder key := by
  unfold slotsUnder
  rw [hf, hg]
  by_cases hkey : s.property? = some key
  · rw [h hkey]
  · simp [hkey]

theorem slotsUnder_tabs (hkey : key ≠ "tabs") (h : Head) (ts : List (Tab Field)) :
    (Field.tabs h ts).slotsUnder key = [] := by
  rw [slotsUnder, List.filter_eq_nil_iff]
  intro s hs
  obtain ⟨t, -, rfl⟩ := List.mem_map.1 hs
  simpa [Slot.property?] using hkey.symm

theorem slotsUnder_congr (hid : head.id = head'.id) (hkey : es.lookup key = es'.lookup key)
    (h : ofProperties? item head es type = some f) (h' : ofProperties? item head' es' type = some g) :
    f.slotsUnder key = g.slotsUnder key := by
  have hsame : ∀ {α : Type} {name : String} {default a a' : α} {decode : Json → Option α},
      some name = some key → orElse es name default decode = some a →
      orElse es' name default decode = some a' → a = a' := by
    rintro α name default a a' decode ⟨⟩ ha ha'
    exact eq_of_lookup_eq hkey ha ha'
  cases type with
  | group =>
    obtain ⟨n, cs, -, hcs, rfl⟩ := group_of_ofProperties? h
    obtain ⟨n', cs', -, hcs', rfl⟩ := group_of_ofProperties? h'
    exact slotsUnder_single rfl (by rw [slots, hid]) fun hname => hsame hname hcs hcs'
  | repeater =>
    obtain ⟨label, cs, -, hcs, rfl⟩ := repeater_of_ofProperties? h
    obtain ⟨label', cs', -, hcs', rfl⟩ := repeater_of_ofProperties? h'
    exact slotsUnder_single rfl (by rw [slots, hid]) fun hname => hsame hname hcs hcs'
  | tabs =>
    obtain ⟨ts, hts, rfl⟩ := tabs_of_ofProperties? h
    obtain ⟨ts', hts', rfl⟩ := tabs_of_ofProperties? h'
    by_cases hname : key = "tabs"
    · rw [slotsUnder, slotsUnder, slots, slots, hid, hsame (congrArg some hname.symm) hts hts']
    · rw [slotsUnder_tabs hname, slotsUnder_tabs hname]
  | abTest =>
    obtain ⟨a, b, ha, hb, rfl⟩ := abTest_of_ofProperties? h
    obtain ⟨a', b', ha', hb', rfl⟩ := abTest_of_ofProperties? h'
    by_cases hname : key = "variantA"
    · simp [slotsUnder, slots, Slot.property?, hname, hid, hsame (congrArg some hname.symm) ha ha']
    by_cases hname' : key = "variantB"
    · simp [slotsUnder, slots, Slot.property?, hname', hid, hsame (congrArg some hname'.symm) hb hb']
    · simp [slotsUnder, slots, Slot.property?, Ne.symm hname, Ne.symm hname']
  | _ =>
    obtain ⟨k, -, rfl⟩ := leaf_of_ofProperties? rfl h
    obtain ⟨k', -, rfl⟩ := leaf_of_ofProperties? rfl h'
    rfl

/-- The entries besides those of the head. -/
theorem lookup_besides_head (es : List (String × Json)) (key : String) :
    (es.filter fun e => !Head.names.contains e.1).lookup key
      = if key ∈ Head.names then none else es.lookup key := by
  rw [Json.lookup_filter fun k => !Head.names.contains k]
  by_cases hkey : key ∈ Head.names <;> simp [hkey]

theorem id_type_congr {n : Nat} (hid : es.lookup "id" = es'.lookup "id")
    (htype : es.lookup "type" = es'.lookup "type") (h : ofJsonWithin? n (.object es) = some f)
    (h' : ofJsonWithin? n (.object es') = some g) : f.id = g.id ∧ f.type = g.type := by
  obtain ⟨m, head, rfl, hhead, h⟩ := entries_of_ofJsonWithin? h
  obtain ⟨m', head', heq, hhead', h'⟩ := entries_of_ofJsonWithin? h'
  obtain rfl : m = m' := Nat.succ.inj heq
  obtain ⟨type, htag, h⟩ := properties_of_ofEntries? h
  obtain ⟨type', htag', h'⟩ := properties_of_ofEntries? h'
  obtain ⟨rfl, rfl⟩ := head_type_of_ofProperties? h
  obtain ⟨rfl, rfl⟩ := head_type_of_ofProperties? h'
  constructor
  · have hread := (Head.ofEntries?_eq_some_iff.1 hhead).id
    rw [required, hid] at hread
    exact Option.some.inj (hread.symm.trans (Head.ofEntries?_eq_some_iff.1 hhead').id)
  · rw [lookup_besides_head, if_neg (by decide), htype] at htag
    rw [lookup_besides_head, if_neg (by decide)] at htag'
    exact Option.some.inj (htag.symm.trans htag')

/-- Two fields of one id and one type agree in what they write and hold under a name when the reader
found the same under it. -/
theorem ofJsonWithin?_local {n : Nat} (hid : f.id = g.id) (htype : f.type = g.type)
    (hkey : es.lookup key = es'.lookup key) (h : ofJsonWithin? n (.object es) = some f)
    (h' : ofJsonWithin? n (.object es') = some g) :
    f.document.lookup key = g.document.lookup key ∧ f.slotsUnder key = g.slotsUnder key := by
  obtain ⟨m, head, rfl, hhead, h⟩ := entries_of_ofJsonWithin? h
  obtain ⟨m', head', heq, hhead', h'⟩ := entries_of_ofJsonWithin? h'
  obtain rfl : m = m' := Nat.succ.inj heq
  obtain ⟨type, -, h⟩ := properties_of_ofEntries? h
  obtain ⟨type', -, h'⟩ := properties_of_ofEntries? h'
  obtain ⟨rfl, rfl⟩ := head_type_of_ofProperties? h
  obtain ⟨rfl, rfl⟩ := head_type_of_ofProperties? h'
  rw [htype] at h
  have hrest : (es.filter fun e => !Head.names.contains e.1).lookup key
      = (es'.filter fun e => !Head.names.contains e.1).lookup key := by
    rw [lookup_besides_head, lookup_besides_head, hkey]
  refine ⟨?_, slotsUnder_congr hid hrest h h'⟩
  rw [document, document, List.lookup_append, List.lookup_append,
    Head.lookup_entries_congr hkey hhead hhead', lookup_kindEntries_congr hrest h h']

end Field

end FormBuilder
