/-
What is read from a document that a text can hold can be written again: its numbers are finite and
the keys of its maps ascend.
-/
import FormBuilder.Proofs.Field.Properties
import FormBuilder.Proofs.Field.Shape
import FormBuilder.Proofs.Json.Kept

namespace FormBuilder

open Json (required orElse list? float? members?)

/-! ## Sorted entries -/

theorem lt_of_not_lt_of_ne {k key : String} (h : ¬ key < k) (hne : k ≠ key) : k < key :=
  Decidable.byContradiction fun hk => hne (String.le_antisymm (String.not_lt.1 h) (String.not_lt.1 hk))

theorem mem_putSorted {α : Type} {key : String} {value : α} {e : String × α} :
    ∀ {es : List (String × α)}, e ∈ putSorted key value es → e = (key, value) ∨ e ∈ es
  | [], h => .inl (List.mem_singleton.1 h)
  | (k, v) :: es, h => by
    rw [putSorted] at h
    split at h
    · exact List.mem_cons.1 h
    split at h
    · exact (List.mem_cons.1 h).imp_right (List.mem_cons_of_mem _)
    · rcases List.mem_cons.1 h with rfl | h
      · exact .inr (List.mem_cons_self ..)
      · exact (mem_putSorted h).imp_right (List.mem_cons_of_mem _)

theorem ascending_putSorted {α : Type} (key : String) (value : α) :
    ∀ {es : List (String × α)}, Ascending es → Ascending (putSorted key value es)
  | [], _ => List.pairwise_singleton ..
  | (k, v) :: es, h => by
    obtain ⟨hhead, htail⟩ := List.pairwise_cons.1 h
    rw [putSorted]
    split
    · rename_i hlt
      refine List.pairwise_cons.2 ⟨fun e he => ?_, h⟩
      rcases List.mem_cons.1 he with rfl | he
      · exact hlt
      · exact String.lt_trans hlt (hhead e he)
    · rename_i hle
      split
      · rename_i heq
        rw [beq_iff_eq] at heq
        subst heq
        exact List.pairwise_cons.2 ⟨hhead, htail⟩
      · rename_i hne
        refine List.pairwise_cons.2 ⟨fun e he => ?_, ascending_putSorted key value htail⟩
        rcases mem_putSorted he with rfl | he
        · exact lt_of_not_lt_of_ne hle (by simpa using hne)
        · exact hhead e he

/-- Sorted entries ascend, and they hold nothing new. -/
theorem sortEntries_spec {α : Type} (es : List (String × α)) :
    Ascending (sortEntries es) ∧ ∀ e ∈ sortEntries es, e ∈ es := by
  -- the entries are put into those that are sorted so far, which ascend all along
  have hfold : ∀ (rest sorted : List (String × α)), Ascending sorted →
      Ascending (rest.foldl (fun sorted e => putSorted e.1 e.2 sorted) sorted)
        ∧ ∀ e ∈ rest.foldl (fun sorted e => putSorted e.1 e.2 sorted) sorted, e ∈ sorted ∨ e ∈ rest := by
    intro rest
    induction rest with
    | nil => exact fun sorted h => ⟨h, fun e he => .inl he⟩
    | cons d rest ih =>
      intro sorted h
      obtain ⟨hasc, hmem⟩ := ih _ (ascending_putSorted d.1 d.2 h)
      refine ⟨hasc, fun e he => ?_⟩
      rcases hmem e he with he | he
      · rcases mem_putSorted he with rfl | he
        · exact .inr (List.mem_cons_self ..)
        · exact .inl he
      · exact .inr (List.mem_cons_of_mem _ he)
  obtain ⟨hasc, hmem⟩ := hfold es [] List.Pairwise.nil
  exact ⟨hasc, fun e he => (hmem e he).resolve_left nofun⟩

/-! ## Values -/

namespace Value

theorem storableEntries_iff : ∀ es : List (String × Value),
    StorableEntries es ↔ ∀ e ∈ es, e.2.Storable
  | [] => by simp [StorableEntries]
  | (k, v) :: es => by simp [StorableEntries, storableEntries_iff es]

theorem storableEntries_sortEntries {es : List (String × Value)} (h : StorableEntries es) :
    StorableEntries (sortEntries es) := by
  rw [storableEntries_iff] at h ⊢
  exact fun e he => h e ((sortEntries_spec es).2 e he)

mutual

theorem storable_ofJson : ∀ j : Json, j.Writable → (ofJson j).Storable
  | .null, _ | .bool _, _ | .string _, _ => trivial
  | .integer _, h => Decimal.isFinite_ofInt h.1 h.2
  | .float _, h => h
  | .array items, h => storableItems_itemsOfJson items h
  | .object entries, h =>
    ⟨(sortEntries_spec _).1,
      storableEntries_sortEntries (storableEntries_entriesOfJson entries h)⟩

theorem storableItems_itemsOfJson : ∀ js : List Json, Json.WritableItems js →
    StorableItems (itemsOfJson js)
  | [], _ => trivial
  | j :: js, h => ⟨storable_ofJson j h.1, storableItems_itemsOfJson js h.2⟩

theorem storableEntries_entriesOfJson : ∀ es : List (String × Json), Json.WritableEntries es →
    StorableEntries (entriesOfJson es)
  | [], _ => trivial
  | (_, j) :: es, h => ⟨storable_ofJson j h.1, storableEntries_entriesOfJson es h.2⟩

end

end Value

/-! ## Members of a record -/

namespace Json

variable {es : List (String × Json)}

/-- The members of a writable document are writable. -/
theorem writable_members {names : List String} {j : Json} (hj : j.Writable)
    (h : j.members? names = some es) : ∀ e ∈ es, e.2.Writable := by
  unfold members? at h
  split at h
  · split at h
    · obtain rfl := Option.some.inj h
      exact (writableEntries_iff _).1 hj
    · exact nomatch h
  · split at h
    · obtain rfl := Option.some.inj h
      exact fun e he => (writableItems_iff _).1 hj e.2 (List.of_mem_zip he).2
    · exact nomatch h
  · exact nomatch h

theorem writable_of_lookup (hes : ∀ e ∈ es, e.2.Writable) {name : String} {j : Json}
    (h : es.lookup name = some j) : j.Writable := by
  obtain ⟨before, after, rfl, -⟩ := List.lookup_eq_some_iff.1 h
  exact hes (name, j) (List.mem_append_right _ (List.mem_cons_self ..))

variable {α : Type} {P : α → Prop} {name : String} {decode : Json → Option α} {a : α}

theorem of_required (hes : ∀ e ∈ es, e.2.Writable) (h : required es name decode = some a)
    (hdecode : ∀ j a, j.Writable → decode j = some a → P a) : P a := by
  obtain ⟨j, hj, h⟩ := Option.bind_eq_some_iff.1 h
  exact hdecode j a (writable_of_lookup hes hj) h

theorem of_orElse {default : α} (hes : ∀ e ∈ es, e.2.Writable)
    (h : orElse es name default decode = some a) (hdefault : P default)
    (hdecode : ∀ j a, j.Writable → decode j = some a → P a) : P a := by
  unfold orElse at h
  split at h
  · obtain rfl := Option.some.inj h
    exact hdefault
  · rename_i j hj
    exact hdecode j a (writable_of_lookup hes hj) h

theorem of_mapM : ∀ {items : List Json} {xs : List α}, WritableItems items →
    items.mapM decode = some xs → (∀ j a, j.Writable → decode j = some a → P a) → ∀ x ∈ xs, P x
  | [], xs, _, h, _ => by
    obtain rfl := Option.some.inj h
    exact nofun
  | j :: items, xs, hj, h, hdecode => by
    rw [List.mapM_cons] at h
    obtain ⟨x, hx, h⟩ := Option.bind_eq_some_iff.1 h
    obtain ⟨rest, hrest, h⟩ := Option.bind_eq_some_iff.1 h
    obtain rfl := Option.some.inj h
    exact List.forall_mem_cons.2 ⟨hdecode j x hj.1 hx, of_mapM hj.2 hrest hdecode⟩

theorem of_list? {j : Json} {xs : List α} (hj : j.Writable) (h : list? decode j = some xs)
    (hdecode : ∀ j a, j.Writable → decode j = some a → P a) : ∀ x ∈ xs, P x := by
  unfold list? at h
  split at h
  · exact of_mapM hj h hdecode
  · exact nomatch h

theorem of_orElse_list? {xs : List α} (hes : ∀ e ∈ es, e.2.Writable)
    (h : orElse es name [] (list? decode) = some xs)
    (hdecode : ∀ j a, j.Writable → decode j = some a → P a) : ∀ x ∈ xs, P x :=
  of_orElse (P := fun xs => ∀ x ∈ xs, P x) hes h nofun
    fun _ _ hj hread => of_list? hj hread hdecode

theorem isFinite_of_float? {j : Json} {x : Float} (hj : j.Writable) (h : float? j = some x) :
    Decimal.isFinite x = true := by
  unfold float? at h
  split at h
  · obtain rfl := Option.some.inj h
    exact Decimal.isFinite_ofInt hj.1 hj.2
  · obtain rfl := Option.some.inj h
    exact hj
  · exact nomatch h

end Json

namespace Value

theorem storable_entry? {es : List (String × Json)} (hes : ∀ e ∈ es, e.2.Writable) (key : String) :
    ∀ v ∈ entry? es key, v.Storable := by
  intro v hv
  obtain ⟨j, hj, rfl⟩ := Option.map_eq_some_iff.1 hv
  exact storable_ofJson j (Json.writable_of_lookup hes hj)

theorem storable_mapOfJson? {j : Json} {entries : List (String × Value)} (hj : j.Writable)
    (h : mapOfJson? j = some entries) : Ascending entries ∧ StorableEntries entries := by
  unfold mapOfJson? at h
  split at h
  · obtain rfl := Option.some.inj h
    exact storable_ofJson _ hj
  · exact nomatch h

end Value

/-! ## Rules -/

theorem Condition.storable_of_ofJson? {j : Json} {c : Condition} (hj : j.Writable)
    (h : ofJson? j = some c) : c.Storable := by
  unfold ofJson? at h
  obtain ⟨es, hes, h⟩ := Option.bind_eq_some_iff.1 h
  obtain ⟨id, -, h⟩ := Option.bind_eq_some_iff.1 h
  obtain ⟨source, -, h⟩ := Option.bind_eq_some_iff.1 h
  obtain ⟨operator, -, h⟩ := Option.bind_eq_some_iff.1 h
  obtain rfl := Option.some.inj h
  exact Value.storable_entry? (Json.writable_members hj hes) "value"

theorem ConditionGroup.storable_of_ofJson? {j : Json} {g : ConditionGroup} (hj : j.Writable)
    (h : ofJson? j = some g) : g.Storable := by
  unfold ofJson? at h
  obtain ⟨es, hes, h⟩ := Option.bind_eq_some_iff.1 h
  obtain ⟨conjunction, -, h⟩ := Option.bind_eq_some_iff.1 h
  obtain ⟨conditions, hconditions, h⟩ := Option.bind_eq_some_iff.1 h
  obtain rfl := Option.some.inj h
  exact Json.of_orElse_list? (P := Condition.Storable) (Json.writable_members hj hes) hconditions
    fun _ _ => Condition.storable_of_ofJson?

theorem Action.storable_of_ofJson? {j : Json} {a : Action} (hj : j.Writable)
    (h : ofJson? j = some a) : a.Storable := by
  unfold ofJson? at h
  obtain ⟨es, hes, h⟩ := Option.bind_eq_some_iff.1 h
  obtain ⟨id, -, h⟩ := Option.bind_eq_some_iff.1 h
  obtain ⟨effect, -, h⟩ := Option.bind_eq_some_iff.1 h
  obtain ⟨target, -, h⟩ := Option.bind_eq_some_iff.1 h
  obtain rfl := Option.some.inj h
  exact Value.storable_entry? (Json.writable_members hj hes) "value"

theorem Rule.storable_of_ofJson? {j : Json} {r : Rule} (hj : j.Writable)
    (h : ofJson? j = some r) : r.Storable := by
  unfold ofJson? at h
  obtain ⟨es, hes, h⟩ := Option.bind_eq_some_iff.1 h
  obtain ⟨id, -, h⟩ := Option.bind_eq_some_iff.1 h
  obtain ⟨name, -, h⟩ := Option.bind_eq_some_iff.1 h
  obtain ⟨conditions, hconditions, h⟩ := Option.bind_eq_some_iff.1 h
  obtain ⟨actions, hactions, h⟩ := Option.bind_eq_some_iff.1 h
  obtain rfl := Option.some.inj h
  have hmembers := Json.writable_members hj hes
  refine ⟨?_, ?_⟩
  · exact Json.of_orElse (P := ConditionGroup.Storable) hmembers hconditions nofun
      fun _ _ => ConditionGroup.storable_of_ofJson?
  · exact Json.of_orElse_list? (P := Action.Storable) hmembers hactions
      fun _ _ => Action.storable_of_ofJson?

/-! ## Fields -/

namespace Field

theorem Head.storable_of_ofEntries? {es : List (String × Json)} {h : Head}
    (hes : ∀ e ∈ es, e.2.Writable) (hread : ofEntries? es = some h) : h.Storable := by
  have hfrom := ofEntries?_eq_some_iff.1 hread
  have hmap : Ascending h.styles ∧ Value.StorableEntries h.styles :=
    Json.of_orElse (P := fun es => Ascending es ∧ Value.StorableEntries es) hes hfrom.styles
      ⟨List.Pairwise.nil, trivial⟩ fun _ _ => Value.storable_mapOfJson?
  refine ⟨?_, hmap.1, hmap.2, ?_⟩
  · rw [← hfrom.defaultValue]
    exact Value.storable_entry? hes _
  · exact Json.of_orElse_list? (P := Rule.Storable) hes hfrom.rules
      fun _ _ => Rule.storable_of_ofJson?

theorem storableTabs_iff (ts : List (Tab Field)) :
    StorableTabs ts ↔ ∀ t ∈ ts, StorableList t.children := by
  induction ts with
  | nil => simp [StorableTabs]
  | cons t ts ih =>
    cases t with
    | mk id label cs => simp [StorableTabs, ih]

variable {item : Json → Option Field} {es : List (String × Json)}

theorem storableList_of_orElse (hitem : ∀ j f, j.Writable → item j = some f → f.Storable)
    (hes : ∀ e ∈ es, e.2.Writable) {name : String} {fs : List Field}
    (h : orElse es name [] (list? item) = some fs) : StorableList fs :=
  (storableList_iff fs).2 (Json.of_orElse_list? hes h hitem)

theorem storableTabs_of_orElse (hitem : ∀ j f, j.Writable → item j = some f → f.Storable)
    (hes : ∀ e ∈ es, e.2.Writable) {ts : List (Tab Field)}
    (h : orElse es "tabs" [] (list? (Tab.ofJson? item)) = some ts) : StorableTabs ts := by
  refine (storableTabs_iff ts).2 (Json.of_orElse_list? hes h fun i t hi htab => ?_)
  unfold Tab.ofJson? at htab
  obtain ⟨members, hmembers, htab⟩ := Option.bind_eq_some_iff.1 htab
  obtain ⟨id, -, htab⟩ := Option.bind_eq_some_iff.1 htab
  obtain ⟨label, -, htab⟩ := Option.bind_eq_some_iff.1 htab
  obtain ⟨children, hchildren, htab⟩ := Option.bind_eq_some_iff.1 htab
  obtain rfl := Option.some.inj htab
  exact storableList_of_orElse hitem (Json.writable_members hi hmembers) hchildren

theorem isFinite_of_orElse (hes : ∀ e ∈ es, e.2.Writable) {name : String} {x : Float}
    (h : orElse es name 0.0 float? = some x) : Decimal.isFinite x = true :=
  Json.of_orElse (P := fun x => Decimal.isFinite x = true) hes h (by decide)
    fun _ _ => Json.isFinite_of_float?

theorem storable_of_ofProperties? (hitem : ∀ j f, j.Writable → item j = some f → f.Storable)
    (hes : ∀ e ∈ es, e.2.Writable) {head : Head} (hhead : head.Storable) {type : FieldType}
    {f : Field} (h : ofProperties? item head es type = some f) : f.Storable := by
  -- the types that hold a number or other fields
  cases type with
  | fileUpload =>
    unfold ofProperties? at h
    obtain ⟨_, -, h⟩ := Option.bind_eq_some_iff.1 h
    obtain ⟨_, -, h⟩ := Option.bind_eq_some_iff.1 h
    obtain ⟨_, -, h⟩ := Option.bind_eq_some_iff.1 h
    obtain ⟨size, hsize, h⟩ := Option.bind_eq_some_iff.1 h
    obtain ⟨_, -, h⟩ := Option.bind_eq_some_iff.1 h
    obtain rfl := Option.some.inj h
    exact ⟨hhead, isFinite_of_orElse hes hsize⟩
  | slider =>
    unfold ofProperties? at h
    obtain ⟨_, -, h⟩ := Option.bind_eq_some_iff.1 h
    obtain ⟨_, -, h⟩ := Option.bind_eq_some_iff.1 h
    obtain ⟨min, hmin, h⟩ := Option.bind_eq_some_iff.1 h
    obtain ⟨max, hmax, h⟩ := Option.bind_eq_some_iff.1 h
    obtain ⟨step, hstep, h⟩ := Option.bind_eq_some_iff.1 h
    obtain rfl := Option.some.inj h
    exact ⟨hhead, isFinite_of_orElse hes hmin, isFinite_of_orElse hes hmax,
      isFinite_of_orElse hes hstep⟩
  | group =>
    obtain ⟨n, cs, -, hcs, rfl⟩ := group_of_ofProperties? h
    exact ⟨hhead, storableList_of_orElse hitem hes hcs⟩
  | repeater =>
    obtain ⟨label, cs, -, hcs, rfl⟩ := repeater_of_ofProperties? h
    exact ⟨hhead, storableList_of_orElse hitem hes hcs⟩
  | tabs =>
    obtain ⟨ts, hts, rfl⟩ := tabs_of_ofProperties? h
    exact ⟨hhead, storableTabs_of_orElse hitem hes hts⟩
  | abTest =>
    obtain ⟨a, b, ha, hb, rfl⟩ := abTest_of_ofProperties? h
    exact ⟨hhead, storableList_of_orElse hitem hes ha, storableList_of_orElse hitem hes hb⟩
  | _ =>
    obtain ⟨k, htype, rfl⟩ := leaf_of_ofProperties? rfl h
    refine ⟨hhead, ?_⟩
    cases k with
    | fileUpload | slider => cases htype
    | _ => trivial

theorem storable_of_ofEntries? (hitem : ∀ j f, j.Writable → item j = some f → f.Storable)
    (hes : ∀ e ∈ es, e.2.Writable) {head : Head} (hhead : head.Storable) {f : Field}
    (h : ofEntries? item head es = some f) : f.Storable := by
  obtain ⟨type, -, h⟩ := properties_of_ofEntries? h
  exact storable_of_ofProperties? hitem hes hhead h

theorem storable_of_ofJsonWithin? : ∀ (fuel : Nat) (j : Json) (f : Field), j.Writable →
    ofJsonWithin? fuel j = some f → f.Storable
  | 0, j, f, _, h => nomatch h
  | fuel + 1, .object es, f, hj, h => by
    have hes := (Json.writableEntries_iff es).1 hj
    obtain ⟨n, head, heq, hhead, h⟩ := entries_of_ofJsonWithin? h
    obtain rfl : fuel = n := Nat.succ.inj heq
    exact storable_of_ofEntries? (storable_of_ofJsonWithin? fuel)
      (fun e he => hes e (List.mem_of_mem_filter he)) (Head.storable_of_ofEntries? hes hhead) h
  | fuel + 1, .null, f, _, h | fuel + 1, .bool _, f, _, h | fuel + 1, .integer _, f, _, h
  | fuel + 1, .float _, f, _, h | fuel + 1, .string _, f, _, h | fuel + 1, .array _, f, _, h =>
    nomatch h

/-- Every field that is read from a writable document can be written. -/
theorem storable_of_ofJson? {j : Json} {f : Field} (hj : j.Writable) (h : ofJson? j = some f) :
    f.Storable := storable_of_ofJsonWithin? j.depth j f hj h

end Field

end FormBuilder
