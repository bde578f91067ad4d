/-
Fields written as JSON read back as they were, with everything inside them: reading succeeds on
whatever writing made, and gives the field again unless an unknown word of a rule is spelled like a
known one.
-/
import FormBuilder.Proofs.Field.Json
import Mathlib.Data.Option.Basic

namespace FormBuilder.Field

open Json (required orElse string? list? DistinctKeys)

/-! ## Conditions on a field and everything inside -/

mutual

/-- The numbers of the field and of all fields inside are finite, and the keys of maps ascend. -/
def Storable : Field → Prop
  | .leaf h k => h.Storable ∧ k.Storable
  | .group h _ cs | .repeater h _ cs => h.Storable ∧ StorableList cs
  | .tabs h ts => h.Storable ∧ StorableTabs ts
  | .abTest h a b => h.Storable ∧ StorableList a ∧ StorableList b

def StorableList : List Field → Prop
  | [] => True
  | f :: fs => f.Storable ∧ StorableList fs

def StorableTabs : List (Tab Field) → Prop
  | [] => True
  | ⟨_, _, cs⟩ :: ts => StorableList cs ∧ StorableTabs ts

end

theorem Storable.head {f : Field} (h : f.Storable) : f.head.Storable := by
  cases f with
  | leaf _ _ | group _ _ _ | repeater _ _ _ | tabs _ _ | abTest _ _ _ => exact h.1

mutual

/-- No unknown word of a rule of the field, or of a field inside, is spelled like a known one. -/
def Distinct : Field → Prop
  | .leaf h _ => h.Distinct
  | .group h _ cs | .repeater h _ cs => h.Distinct ∧ DistinctList cs
  | .tabs h ts => h.Distinct ∧ DistinctTabs ts
  | .abTest h a b => h.Distinct ∧ DistinctList a ∧ DistinctList b

def DistinctList : List Field → Prop
  | [] => True
  | f :: fs => f.Distinct ∧ DistinctList fs

def DistinctTabs : List (Tab Field) → Prop
  | [] => True
  | ⟨_, _, cs⟩ :: ts => DistinctList cs ∧ DistinctTabs ts

end

mutual

/-- What the field reads back as. -/
def reread : Field → Field
  | .leaf h k => .leaf h.reread k
  | .group h n cs => .group h.reread n (rereadList cs)
  | .repeater h label cs => .repeater h.reread label (rereadList cs)
  | .tabs h ts => .tabs h.reread (rereadTabs ts)
  | .abTest h a b => .abTest h.reread (rereadList a) (rereadList b)

def rereadList : List Field → List Field
  | [] => []
  | f :: fs => f.reread :: rereadList fs

def rereadTabs : List (Tab Field) → List (Tab Field)
  | [] => []
  | ⟨id, label, cs⟩ :: ts => ⟨id, label, rereadList cs⟩ :: rereadTabs ts

end

/-! ## Reading back -/

theorem ofJsonWithin?_succ (fuel : Nat) (f : Field) (h : f.head.Storable) :
    ofJsonWithin? (fuel + 1) f.toJson
      = ofEntries? (ofJsonWithin? fuel) f.head.reread f.kindEntries := by
  have hnames := f.not_mem_headNames
  have hocc : ∀ n ∈ Head.names, Json.occurrences n (f.head.entries ++ f.kindEntries) ≤ 1 :=
    fun n hn => f.head.occurrences_append_le hnames hn
  have hall : (Head.names.all fun n =>
      decide (Json.occurrences n (f.head.entries ++ f.kindEntries) ≤ 1)) = true := by
    rw [List.all_eq_true]
    intro n hn
    exact decide_eq_true (hocc n hn)
  rw [toJson, ofJsonWithin?, Json.guard_bind hall, f.head.ofEntries?_append hnames, f.head.ofEntries?_entries h,
    f.head.filter_append hnames]
  rfl

theorem depthEntries_kindEntries_lt {f : Field} {fuel : Nat} (h : f.toJson.depth ≤ fuel) :
    Json.depthEntries f.kindEntries < fuel := by
  unfold toJson at h
  rw [Json.depth, Json.depthEntries_append] at h
  omega

theorem ofJsonWithin?_of_kind {f g : Field} {fuel : Nat} (h : f.head.Storable)
    (hkind : ofEntries? (ofJsonWithin? fuel) f.head.reread f.kindEntries = some g) :
    ofJsonWithin? (fuel + 1) f.toJson = some g :=
  (ofJsonWithin?_succ fuel f h).trans hkind

mutual

/-- Reading a field with enough fuel for its depth. -/
theorem ofJsonWithin?_toJson : ∀ (f : Field) (fuel : Nat), f.Storable → f.toJson.depth ≤ fuel →
    ofJsonWithin? fuel f.toJson = some f.reread
  | f, 0, _, hd => absurd (depthEntries_kindEntries_lt hd) (Nat.not_lt_zero _)
  | .leaf h k, fuel + 1, hs, _ =>
    ofJsonWithin?_of_kind (f := .leaf h k) hs.1 (ofEntries?_leaf _ _ h k)
  | .group h n cs, fuel + 1, hs, hd => by
    have hlt := depthEntries_kindEntries_lt hd
    simp only [kindEntries, Json.depthEntries, Json.depth] at hlt
    have hcs := list?_listToJson cs fuel hs.2 (by omega)
    exact ofJsonWithin?_of_kind (f := .group h n cs) hs.1 (ofEntries?_group _ _ h n hcs)
  | .repeater h label cs, fuel + 1, hs, hd => by
    have hlt := depthEntries_kindEntries_lt hd
    simp only [kindEntries, Json.depthEntries, Json.depth] at hlt
    have hcs := list?_listToJson cs fuel hs.2 (by omega)
    exact ofJsonWithin?_of_kind (f := .repeater h label cs) hs.1 (ofEntries?_repeater _ _ h label hcs)
  | .tabs h ts, fuel + 1, hs, hd => by
    have hlt := depthEntries_kindEntries_lt hd
    simp only [kindEntries, Json.depthEntries, Json.depth] at hlt
    have hts := list?_tabsToJson ts fuel hs.2 (by omega)
    exact ofJsonWithin?_of_kind (f := .tabs h ts) hs.1 (ofEntries?_tabs _ _ h hts)
  | .abTest h a b, fuel + 1, hs, hd => by
    have hlt := depthEntries_kindEntries_lt hd
    simp only [kindEntries, Json.depthEntries, Json.depth] at hlt
    have ha := list?_listToJson a fuel hs.2.1 (by omega)
    have hb := list?_listToJson b fuel hs.2.2 (by omega)
    exact ofJsonWithin?_of_kind (f := .abTest h a b) hs.1 (ofEntries?_abTest _ _ h ha hb)

theorem list?_listToJson : ∀ (fs : List Field) (fuel : Nat), StorableList fs →
    Json.depthItems (listToJson fs) ≤ fuel →
    list? (ofJsonWithin? fuel) (.array (listToJson fs)) = some (rereadList fs)
  | [], _, _, _ => rfl
  | f :: fs, fuel, hs, hd => by
    rw [listToJson, Json.depthItems] at hd
    have hf := ofJsonWithin?_toJson f fuel hs.1 (by unfold toJson; omega)
    have hfs := list?_listToJson fs fuel hs.2 (by omega)
    unfold list? at hfs ⊢
    unfold toJson at hf
    simp only [listToJson, List.mapM_cons, hf, hfs]
    rfl

theorem list?_tabsToJson : ∀ (ts : List (Tab Field)) (fuel : Nat), StorableTabs ts →
    Json.depthItems (tabsToJson ts) ≤ fuel →
    list? (Tab.ofJson? (ofJsonWithin? fuel)) (.array (tabsToJson ts)) = some (rereadTabs ts)
  | [], _, _, _ => rfl
  | ⟨id, label, cs⟩ :: ts, fuel, hs, hd => by
    simp only [tabsToJson, Json.depthItems, Json.depth, Json.depthEntries] at hd
    have hcs := list?_listToJson cs fuel hs.1 (by omega)
    have hts := list?_tabsToJson ts fuel hs.2 (by omega)
    have htab : Tab.ofJson? (ofJsonWithin? fuel) (.object [("id", .string id),
        ("label", .string label), ("children", .array (listToJson cs))])
          = some ⟨id, label, rereadList cs⟩ := by
      unfold Tab.ofJson?
      rw [Json.members?_object (by simp [DistinctKeys])]
      simp [required, orElse, List.lookup_cons, string?, hcs]
    unfold list? at hts ⊢
    simp only [tabsToJson, List.mapM_cons, htab, hts]
    rfl

end

theorem ofJson?_toJson (f : Field) (h : f.Storable) : ofJson? f.toJson = some f.reread :=
  ofJsonWithin?_toJson f f.toJson.depth h (Nat.le_refl _)

/-! ## Words -/

mutual

theorem reread_eq_self_iff : ∀ f : Field, f.reread = f ↔ f.Distinct
  | .leaf h k => by
    simp [reread, Distinct, Head.reread_eq_self_iff]
  | .group h n cs => by
    simp [reread, Distinct, Head.reread_eq_self_iff, rereadList_eq_self_iff cs]
  | .repeater h label cs => by
    simp [reread, Distinct, Head.reread_eq_self_iff, rereadList_eq_self_iff cs]
  | .tabs h ts => by
    simp [reread, Distinct, Head.reread_eq_self_iff, rereadTabs_eq_self_iff ts]
  | .abTest h a b => by
    simp [reread, Distinct, Head.reread_eq_self_iff, rereadList_eq_self_iff a,
      rereadList_eq_self_iff b]

theorem rereadList_eq_self_iff : ∀ fs : List Field, rereadList fs = fs ↔ DistinctList fs
  | [] => by simp [rereadList, DistinctList]
  | f :: fs => by
    simp [rereadList, DistinctList, reread_eq_self_iff f, rereadList_eq_self_iff fs]

theorem rereadTabs_eq_self_iff : ∀ ts : List (Tab Field), rereadTabs ts = ts ↔ DistinctTabs ts
  | [] => by simp [rereadTabs, DistinctTabs]
  | ⟨_, _, cs⟩ :: ts => by
    simp [rereadTabs, DistinctTabs, rereadList_eq_self_iff cs, rereadTabs_eq_self_iff ts]

end

/-! ## Numbers -/

mutual

theorem writableEntries_kindEntries : ∀ f : Field, f.Storable →
    Json.WritableEntries f.kindEntries
  | .leaf _ k, h => ⟨trivial, k.writableEntries h.2⟩
  | .group _ n cs, h => ⟨trivial, Json.writable_uint32 n, writableItems_listToJson cs h.2, trivial⟩
  | .repeater _ _ cs, h => ⟨trivial, trivial, writableItems_listToJson cs h.2, trivial⟩
  | .tabs _ ts, h => ⟨trivial, writableItems_tabsToJson ts h.2, trivial⟩
  | .abTest _ a b, h =>
    ⟨trivial, writableItems_listToJson a h.2.1, writableItems_listToJson b h.2.2, trivial⟩

theorem writableItems_listToJson : ∀ fs : List Field, StorableList fs →
    Json.WritableItems (listToJson fs)
  | [], _ => trivial
  | f :: fs, h =>
    ⟨(Json.writableEntries_append _ _).2
      ⟨f.head.writableEntries h.1.head, writableEntries_kindEntries f h.1⟩,
      writableItems_listToJson fs h.2⟩

theorem writableItems_tabsToJson : ∀ ts : List (Tab Field), StorableTabs ts →
    Json.WritableItems (tabsToJson ts)
  | [], _ => trivial
  | ⟨_, _, cs⟩ :: ts, h =>
    ⟨⟨trivial, trivial, writableItems_listToJson cs h.1, trivial⟩, writableItems_tabsToJson ts h.2⟩

end

theorem writable_toJson (f : Field) (h : f.Storable) : f.toJson.Writable :=
  (Json.writableEntries_append _ _).2
    ⟨f.head.writableEntries h.head, writableEntries_kindEntries f h⟩

/-! ## The round trip -/

/-- Every field of finite numbers whose words can be told apart is read again from the document
that it is written as, with everything inside it; absent values stay absent and nulls stay nulls. -/
theorem ofJson?_storable_toJson (f : Field) (hs : f.Storable) (hd : f.Distinct) :
    ofJson? f.toJson.storable = some f := by
  rw [Json.storable_of_writable _ (f.writable_toJson hs), ofJson?_toJson f hs,
    (reread_eq_self_iff f).2 hd]

/-- Two pages, one of them with two variants of a slider that has rules and starts from a null. -/
def sliderPages : Field :=
  let rule : Rule := ⟨"r-1", "Warn", ⟨.and, [⟨"c-1", "f-1", .gt, some (.number 2.5)⟩,
      ⟨"c-2", "f-1", .other "near", none⟩]⟩,
    [⟨"a-1", .setValue, "f-2", some .null⟩, ⟨"a-2", .other "blink", "f-2", none⟩]⟩
  let slider : Field := .leaf ⟨"f-1", "Level", some .null,
    [("color", .text "red"), ("width", .number 1.5)], [rule], none, false⟩
    (.slider { min := 0.0, max := 10.0, step := 0.5 })
  .tabs ⟨"f-0", "Pages", none, [], [], none, false⟩ [⟨"t-1", "First",
    [.abTest ⟨"f-3", "Offer", none, [], [], some ⟨"[a-z]", ""⟩, true⟩ [slider] []]⟩, ⟨"t-2", "", []⟩]

theorem ofJson?_storable_sliderPages :
    sliderPages.Storable ∧ sliderPages.Distinct ∧ ofJson? sliderPages.toJson.storable = some sliderPages := by
  have hs : sliderPages.Storable := by
    simp only [sliderPages, Storable, StorableTabs, StorableList, Head.Storable, Leaf.Storable,
      Rule.Storable, ConditionGroup.Storable, Condition.Storable, Action.Storable, Value.Storable,
      Value.StorableEntries, Ascending, List.forall_mem_cons, List.Pairwise.nil,
      Option.mem_def, Option.some.injEq, forall_eq', reduceCtorEq, false_implies, implies_true,
      List.not_mem_nil, and_true, true_and]
    decide
  have hd : sliderPages.Distinct := by
    simp [sliderPages, Distinct, DistinctTabs, DistinctList, Head.Distinct, Rule.Distinct,
      ConditionGroup.Distinct, Condition.Distinct, Action.Distinct, Operator.Distinct,
      Effect.Distinct, Conjunction.Distinct, Operator.known, Effect.known, Operator.text, Effect.text]
  exact ⟨hs, hd, ofJson?_storable_toJson sliderPages hs hd⟩

end FormBuilder.Field
