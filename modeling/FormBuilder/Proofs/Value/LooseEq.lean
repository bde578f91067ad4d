/-
Loose equality of values. The comparison coerces its operands step by step until both are of one kind;
that way of telling it agrees with comparing the scalars that the operands stand for. It is the same
from either side, a value is equal to itself unless something in it is no number, and an operand may be
coerced beforehand without any difference.
-/
import FormBuilder.Rule.Holds
import FormBuilder.Proofs.Decimal.Comparison

namespace FormBuilder.Value

open Decimal (beq_comm beq_self)

/-! ## Parts of a value -/

/-- The value is the other one, or stands in an item or an entry of it. -/
inductive PartOf (v : Value) : Value → Prop
  | self : PartOf v v
  | item {items : List Value} {w : Value} : w ∈ items → PartOf v w → PartOf v (.list items)
  | entry {entries : List (String × Value)} {e : String × Value} :
    e ∈ entries → PartOf v e.2 → PartOf v (.map entries)

/-- At no depth stands something in the place of a number that is no number. -/
def Comparable (v : Value) : Prop := ∀ x, PartOf (.number x) v → x.isNaN = false

@[simp] theorem comparable_null : Comparable .null := nofun

@[simp] theorem comparable_bool (b : Bool) : Comparable (.bool b) := nofun

@[simp] theorem comparable_text (s : String) : Comparable (.text s) := nofun

@[simp] theorem comparable_number {x : Float} : Comparable (.number x) ↔ x.isNaN = false := by
  constructor
  · exact fun h => h x .self
  · rintro h _ ⟨⟩
    exact h

@[simp] theorem comparable_list {items : List Value} :
    Comparable (.list items) ↔ ∀ v ∈ items, Comparable v := by
  constructor
  · exact fun h v hv x hx => h x (.item hv hx)
  · intro h x hx
    cases hx with
    | item hv hx => exact h _ hv x hx

@[simp] theorem comparable_map {entries : List (String × Value)} :
    Comparable (.map entries) ↔ ∀ e ∈ entries, Comparable e.2 := by
  constructor
  · exact fun h e he x hx => h x (.entry he hx)
  · intro h x hx
    cases hx with
    | entry he hx => exact h _ he x hx

/-! ## Equality of structure -/

mutual

theorem same_comm : ∀ v w : Value, same v w = same w v
  | .null, w => by cases w <;> rfl
  | .bool a, w => by
    cases w with
    | bool b => exact BEq.comm
    | _ => rfl
  | .number x, w => by
    cases w with
    | number y => exact beq_comm x y
    | _ => rfl
  | .text s, w => by
    cases w with
    | text t => exact BEq.comm
    | _ => rfl
  | .list as, w => by
    cases w with
    | list bs => rw [same, same, sameItems_comm as bs]
    | _ => rfl
  | .map as, w => by
    cases w with
    | map bs => rw [same, same, sameEntries_comm as bs]
    | _ => rfl

theorem sameItems_comm : ∀ as bs : List Value, sameItems as bs = sameItems bs as
  | [], bs => by cases bs <;> rfl
  | a :: as, [] => rfl
  | a :: as, b :: bs => by rw [sameItems, sameItems, same_comm a b, sameItems_comm as bs]

theorem sameEntries_comm : ∀ as bs : List (String × Value), sameEntries as bs = sameEntries bs as
  | [], bs => by cases bs <;> rfl
  | _ :: _, [] => rfl
  | (k, a) :: as, (l, b) :: bs => by
    rw [sameEntries, sameEntries, same_comm a b, sameEntries_comm as bs, BEq.comm (a := k)]

end

mutual

theorem same_self_iff : ∀ v : Value, same v v = true ↔ v.Comparable
  | .null => by simp [same]
  | .bool b => by simp [same]
  | .number x => by rw [same, beq_self, comparable_number, Bool.not_eq_true']
  | .text s => by simp [same]
  | .list items => by rw [same, sameItems_self_iff items, comparable_list]
  | .map entries => by rw [same, sameEntries_self_iff entries, comparable_map]

theorem sameItems_self_iff : ∀ vs : List Value, sameItems vs vs = true ↔ ∀ v ∈ vs, v.Comparable
  | [] => by simp [sameItems]
  | v :: vs => by
    rw [sameItems, Bool.and_eq_true, same_self_iff v, sameItems_self_iff vs, List.forall_mem_cons]

theorem sameEntries_self_iff : ∀ es : List (String × Value),
    sameEntries es es = true ↔ ∀ e ∈ es, e.2.Comparable
  | [] => by simp [sameEntries]
  | e :: es => by
    obtain ⟨k, v⟩ := e
    rw [sameEntries, Bool.and_eq_true, Bool.and_eq_true, same_self_iff v, sameEntries_self_iff es,
      List.forall_mem_cons]
    simp

end

/-! ## Scalars -/

theorem scalarEq_comm (v w : Value) : scalarEq v w = scalarEq w v := by
  cases v with
  | number x =>
    cases w with
    | number y => exact beq_comm x y
    | text s => exact beq_comm x (parseNumber s)
    | _ => rfl
  | text s =>
    cases w with
    | number y => exact beq_comm (parseNumber s) y
    | text t => exact BEq.comm
    | _ => rfl
  | _ => cases w <;> rfl

theorem boolNumber_beq (a b : Bool) : (boolNumber a == boolNumber b) = (a == b) := by
  cases a <;> cases b <;> decide

theorem isNaN_boolNumber (b : Bool) : (boolNumber b).isNaN = false := by
  cases b <;> decide

theorem display_list (items : List Value) : display (.list items) = displayItems items := by
  rw [display]

/-- Against an operand without structure a list or map counts as its text. -/
theorem looseEqValues_of_isStructured {v w : Value} (hv : v.isStructured = true)
    (hw : w.isStructured = false) : looseEqValues v w = looseEqValues (.text v.display) w := by
  have htext : (Value.text v.display).asScalar = v.asScalar := by
    cases v with
    | list items => rw [display_list]; rfl
    | map => rfl
    | _ => cases hv
  simp only [looseEqValues, hw, Bool.and_false, Bool.false_eq_true, if_false, htext]

/-- A boolean counts as its number against any operand. -/
theorem looseEqValues_bool (b : Bool) (w : Value) :
    looseEqValues (.bool b) w = looseEqValues (.number (boolNumber b)) w := rfl

theorem looseEqValues_comm (v w : Value) : looseEqValues v w = looseEqValues w v := by
  unfold looseEqValues
  rw [Bool.and_comm, scalarEq_comm, show (v == w) = (w == v) from same_comm v w]

theorem looseEqValues_self_iff {v : Value} (hnull : v ≠ .null) :
    looseEqValues v v = true ↔ v.Comparable := by
  cases v with
  | null => exact absurd rfl hnull
  | bool b =>
    show (boolNumber b == boolNumber b) = true ↔ _
    rw [beq_self, isNaN_boolNumber]
    exact iff_of_true rfl (comparable_bool b)
  | number x =>
    show (x == x) = true ↔ _
    rw [beq_self, comparable_number, Bool.not_eq_true']
  | text s =>
    show (s == s) = true ↔ _
    exact iff_of_true (beq_self_eq_true s) (comparable_text s)
  | list items => exact same_self_iff (.list items)
  | map entries => exact same_self_iff (.map entries)

/-! ## Coercion step by step -/

/-- How many steps of coercion a value may still take. -/
def steps : Value → Nat
  | .bool _ | .list _ | .map _ => 1
  | .null | .number _ | .text _ => 0

theorem steps_of_isStructured {v : Value} (h : v.isStructured = true) : v.steps = 1 := by
  cases v with
  | list | map => rfl
  | _ => cases h

/-- Loose equality told as coercion: operands of one kind are compared as they are, a text becomes a
number against a number, a boolean becomes a number against anything else, and lists and maps are
compared with each other by structure but become texts against anything else. -/
def coercedEq : Value → Value → Bool
  | .number x, .number y => x == y
  | .text s, .text t => s == t
  | .bool a, .bool b => a == b
  | .number x, .text s | .text s, .number x => x == parseNumber s
  | .bool b, w | w, .bool b => coercedEq (.number (boolNumber b)) w
  | v, w =>
    if v.isStructured && w.isStructured then v == w
    else if _h : v.isStructured then coercedEq (.text v.display) w
    else if _h : w.isStructured then coercedEq (.text w.display) v
    else false
termination_by v w => v.steps + w.steps
decreasing_by
  · simp [steps]
  · simp [steps]
  · rw [steps_of_isStructured _h]
    simp [steps]
  · rw [steps_of_isStructured _h]
    simp [steps]

/-- Coercing the operands step by step comes to comparing the scalars that they stand for. -/
theorem coercedEq_eq (v w : Value) : coercedEq v w = looseEqValues v w := by
  fun_induction coercedEq v w with
  | case1 x y => rfl
  | case2 s t => rfl
  | case3 a b => exact (boolNumber_beq a b).symm
  | case4 x s => rfl
  | case5 s x => exact beq_comm x (parseNumber s)
  | case6 b w _ ih => rw [ih, looseEqValues_bool]
  | case7 w b _ ih => rw [ih, looseEqValues_comm w, looseEqValues_bool]
  | case8 v w _ _ _ _ _ _ _ hboth => rw [looseEqValues, if_pos hboth]
  | case9 v w _ _ _ _ _ _ _ hboth hv ih =>
    have hw : w.isStructured = false := by simpa [hv] using hboth
    rw [ih, looseEqValues_of_isStructured hv hw]
  | case10 v w _ _ _ _ _ _ _ _ hv hw ih =>
    rw [ih, looseEqValues_comm v, looseEqValues_of_isStructured hw (by simpa using hv)]
  | case11 v w hnumbers htexts _ hnumberText htextNumber hboolV hboolW _ hv hw =>
    -- one of the operands is null, and null equals no number and no text
    cases v with
    | null => cases w <;> rfl
    | number x =>
      cases w with
      | number y => exact (hnumbers x y rfl rfl).elim
      | text t => exact (hnumberText x t rfl rfl).elim
      | bool b => exact (hboolW b rfl).elim
      | null => rfl
      | list | map => exact absurd rfl hw
    | text s =>
      cases w with
      | number y => exact (htextNumber s y rfl rfl).elim
      | text t => exact (htexts s t rfl rfl).elim
      | bool b => exact (hboolW b rfl).elim
      | null => rfl
      | list | map => exact absurd rfl hw
    | bool b => exact (hboolV b rfl).elim
    | list | map => exact absurd rfl hv

/-! ## Operands -/

/-- The operand is unset or null. -/
def isAbsent : Option Value → Bool
  | none | some .null => true
  | some _ => false

theorem isAbsent_some {v : Value} : isAbsent (some v) = true ↔ v = .null := by
  cases v <;> simp [isAbsent]

theorem ne_null_of_present {v : Value} (h : isAbsent (some v) = false) : v ≠ .null :=
  fun hv => Bool.false_ne_true (h.symm.trans (isAbsent_some.2 hv))

theorem looseEq_of_isAbsent {a b : Option Value} (h : isAbsent a = true) :
    looseEq a b = isAbsent b := by
  cases a with
  | none =>
    cases b with
    | none => rfl
    | some w => cases w <;> rfl
  | some v =>
    obtain rfl := isAbsent_some.1 h
    cases b with
    | none => rfl
    | some w => cases w <;> rfl

theorem looseEq_some {v w : Value} (hv : v ≠ .null) (hw : w ≠ .null) :
    looseEq (some v) (some w) = looseEqValues v w := by
  cases v with
  | null => exact absurd rfl hv
  | _ =>
    cases w with
    | null => exact absurd rfl hw
    | _ => rfl

/-- Nothing but another absent operand equals an absent one, from either side. -/
theorem looseEq_absent_right {a b : Option Value} (h : isAbsent b = true) :
    looseEq a b = isAbsent a := by
  cases a with
  | none =>
    rw [looseEq_of_isAbsent rfl, h]
    rfl
  | some v =>
    by_cases hv : v = .null
    · rw [hv, looseEq_of_isAbsent rfl, h]
      rfl
    · cases b with
      | none => cases v <;> rfl
      | some w =>
        obtain rfl := isAbsent_some.1 h
        cases v <;> rfl

theorem looseEq_comm (a b : Option Value) : looseEq a b = looseEq b a := by
  cases ha : isAbsent a with
  | true => rw [looseEq_of_isAbsent ha, looseEq_absent_right ha]
  | false =>
    cases hb : isAbsent b with
    | true => rw [looseEq_of_isAbsent hb, looseEq_absent_right hb]
    | false =>
      cases a with
      | none => cases ha
      | some v =>
        cases b with
        | none => cases hb
        | some w =>
          have hv := ne_null_of_present ha
          have hw := ne_null_of_present hb
          rw [looseEq_some hv hw, looseEq_some hw hv, looseEqValues_comm]

theorem looseEq_self_iff (a : Option Value) :
    looseEq a a = true ↔ ∀ v, a = some v → v.Comparable := by
  cases a with
  | none => simp [looseEq]
  | some v =>
    by_cases hv : v = .null
    · subst hv
      simp [looseEq]
    · rw [looseEq_some hv hv, looseEqValues_self_iff hv]
      simp

/-- Replacing an operand by one that compares the same with everything that is there leaves the
comparison as it was. -/
theorem looseEq_congr {v v' : Value} {b : Option Value} (hv : v ≠ .null) (hv' : v' ≠ .null)
    (h : ∀ w, b = some w → looseEqValues v w = looseEqValues v' w) :
    looseEq (some v) b = looseEq (some v') b := by
  have hpresent : isAbsent (some v) = isAbsent (some v') := by
    rw [Bool.eq_iff_iff, isAbsent_some, isAbsent_some]
    exact iff_of_false hv hv'
  cases hb : isAbsent b with
  | true => rw [looseEq_absent_right hb, looseEq_absent_right hb, hpresent]
  | false =>
    cases b with
    | none => cases hb
    | some w =>
      have hw := ne_null_of_present hb
      rw [looseEq_some hv hw, looseEq_some hv' hw, h w rfl]

/-- What is asked of an equality that coerces. -/
structure Coherent (eq : Option Value → Option Value → Bool) : Prop where
  /-- It is the same from either side. -/
  comm : ∀ a b, eq a b = eq b a
  /-- An operand is equal to itself, unless something in it is no number. -/
  self : ∀ a, eq a a = true ↔ ∀ v, a = some v → v.Comparable
  /-- Unset and null are equal to each other and to nothing else. -/
  absent : ∀ a b, isAbsent a = true → (eq a b = true ↔ isAbsent b = true)
  /-- A boolean may be replaced by its number. -/
  bool : ∀ x b, eq (some (.bool x)) b = eq (some (.number (boolNumber x))) b
  /-- A list or map may be replaced by its text, if the other operand has no structure. -/
  structured : ∀ v b, v.isStructured = true → (∀ w, b = some w → w.isStructured = false) →
    eq (some v) b = eq (some (.text v.display)) b

/-- Loose equality is coherent, and it is what coercion step by step gives. So a condition that asks for
equality may be read from either side, and the one that asks for the contrary holds exactly when it does
not. -/
theorem looseEq_coherent :
    Coherent looseEq ∧
    (∀ v w, v ≠ .null → w ≠ .null → looseEq (some v) (some w) = coercedEq v w) ∧
    ∀ source expected, Operator.eq.holds source expected = Operator.eq.holds expected source ∧
      Operator.neq.holds source expected = !Operator.eq.holds source expected := by
  refine ⟨⟨looseEq_comm, looseEq_self_iff, fun a b ha => ?_, fun x b => ?_, fun v b hv hb => ?_⟩,
    fun v w hv hw => ?_, fun source expected => ⟨looseEq_comm source expected, rfl⟩⟩
  · rw [looseEq_of_isAbsent ha]
  · exact looseEq_congr (by simp) (by simp) fun w _ => looseEqValues_bool x w
  · refine looseEq_congr ?_ (by simp) fun w hw => looseEqValues_of_isStructured hv (hb w hw)
    rintro rfl
    cases hv
  · rw [looseEq_some hv hw, coercedEq_eq]

end FormBuilder.Value
