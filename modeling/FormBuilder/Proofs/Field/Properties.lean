/-
What is read from the properties of a type: a field with the given head and of the given type, whose
fields inside are read from the properties that hold fields. The reader of a field takes its
document apart in this way and no other.
-/
import FormBuilder.Field.Json
import Mathlib.Data.Option.Basic

namespace FormBuilder

open Json (orElse required list? string? bool? uint32? textOr)

/-- The properties that hold the fields inside a field. -/
def FieldType.childNames : List String := ["children", "tabs", "variantA", "variantB"]

theorem Leaf.not_isContainer (k : Leaf) : k.fieldType.isContainer = false := by
  cases k with
  | input type _ => cases type <;> rfl
  | _ => rfl

namespace Field

variable {item : Json → Option Field} {head : Head} {es : List (String × Json)} {g : Field}

/-! ## The properties of a type -/

theorem leaf_of_ofProperties? {type : FieldType} (htype : type.isContainer = false)
    (h : ofProperties? item head es type = some g) : ∃ k, k.fieldType = type ∧ g = .leaf head k := by
  cases type with
  | group | repeater | tabs | abTest => cases htype
  | _ =>
    -- one property after the other is read, and the last step makes the field
    simp only [ofProperties?, Option.bind_eq_bind, Option.bind_eq_some_iff, Option.map_eq_some_iff,
      Option.pure_def, Option.some.injEq] at h
    repeat obtain ⟨_, _, h⟩ := h
    exact ⟨_, rfl, rfl⟩

theorem group_of_ofProperties? (h : ofProperties? item head es .group = some g) :
    ∃ n cs, orElse es "columns" 0 uint32? = some n ∧ orElse es "children" [] (list? item) = some cs ∧
      g = .group head n cs := by
  obtain ⟨n, hn, h⟩ := Option.bind_eq_some_iff.1 h
  obtain ⟨cs, hcs, h⟩ := Option.bind_eq_some_iff.1 h
  exact ⟨n, cs, hn, hcs, (Option.some.inj h).symm⟩

theorem repeater_of_ofProperties? (h : ofProperties? item head es .repeater = some g) :
    ∃ label cs, textOr es "addButtonLabel" = some label ∧
      orElse es "children" [] (list? item) = some cs ∧ g = .repeater head label cs := by
  obtain ⟨label, hlabel, h⟩ := Option.bind_eq_some_iff.1 h
  obtain ⟨cs, hcs, h⟩ := Option.bind_eq_some_iff.1 h
  exact ⟨label, cs, hlabel, hcs, (Option.some.inj h).symm⟩

theorem tabs_of_ofProperties? (h : ofProperties? item head es .tabs = some g) :
    ∃ ts, orElse es "tabs" [] (list? (Tab.ofJson? item)) = some ts ∧ g = .tabs head ts := by
  obtain ⟨ts, hts, h⟩ := Option.bind_eq_some_iff.1 h
  exact ⟨ts, hts, (Option.some.inj h).symm⟩

theorem abTest_of_ofProperties? (h : ofProperties? item head es .abTest = some g) :
    ∃ a b, orElse es "variantA" [] (list? item) = some a ∧
      orElse es "variantB" [] (list? item) = some b ∧ g = .abTest head a b := by
  obtain ⟨a, ha, h⟩ := Option.bind_eq_some_iff.1 h
  obtain ⟨b, hb, h⟩ := Option.bind_eq_some_iff.1 h
  exact ⟨a, b, ha, hb, (Option.some.inj h).symm⟩

/-- A field is read with the head and the type that it was asked to have. -/
theorem head_type_of_ofProperties? {type : FieldType}
    (h : ofProperties? item head es type = some g) : g.head = head ∧ g.type = type := by
  cases htype : type.isContainer with
  | false =>
    obtain ⟨k, rfl, rfl⟩ := leaf_of_ofProperties? htype h
    exact ⟨rfl, rfl⟩
  | true =>
    cases type with
    | group =>
      obtain ⟨n, cs, -, -, rfl⟩ := group_of_ofProperties? h
      exact ⟨rfl, rfl⟩
    | repeater =>
      obtain ⟨label, cs, -, -, rfl⟩ := repeater_of_ofProperties? h
      exact ⟨rfl, rfl⟩
    | tabs =>
      obtain ⟨ts, -, rfl⟩ := tabs_of_ofProperties? h
      exact ⟨rfl, rfl⟩
    | abTest =>
      obtain ⟨a, b, -, -, rfl⟩ := abTest_of_ofProperties? h
      exact ⟨rfl, rfl⟩
    | _ => cases htype

/-! ## The tag and the head -/

theorem properties_of_ofEntries? (h : ofEntries? item head es = some g) :
    ∃ type, (es.lookup "type").bind FieldType.ofTag? = some type ∧
      ofProperties? item head es type = some g := by
  obtain ⟨-, -, h⟩ := Option.bind_eq_some_iff.1 h
  obtain ⟨type, htype, h⟩ := Option.bind_eq_some_iff.1 h
  obtain ⟨-, -, h⟩ := Option.bind_eq_some_iff.1 h
  exact ⟨type, htype, h⟩

theorem entries_of_ofJsonWithin? {fuel : Nat} (h : ofJsonWithin? fuel (.object es) = some g) :
    ∃ n head, fuel = n + 1 ∧ Head.ofEntries? es = some head ∧
      ofEntries? (ofJsonWithin? n) head (es.filter fun e => !Head.names.contains e.1) = some g := by
  cases fuel with
  | zero => cases h
  | succ n =>
    obtain ⟨-, -, h⟩ := Option.bind_eq_some_iff.1 h
    obtain ⟨head, hhead, h⟩ := Option.bind_eq_some_iff.1 h
    exact ⟨n, head, rfl, hhead, h⟩

/-- Where every part of a head is read from. -/
structure Head.ReadFrom (es : List (String × Json)) (h : Head) : Prop where
  id : required es "id" string? = some h.id
  label : required es "label" string? = some h.label
  defaultValue : Value.entry? es "defaultValue" = h.defaultValue
  styles : orElse es "styles" [] Value.mapOfJson? = some h.styles
  rules : orElse es "logic" [] (list? Rule.ofJson?) = some h.rules
  validation : orElse es "validation" none (Head.optional? Validation.ofJson?) = some h.validation
  readOnly : orElse es "readOnly" false bool? = some h.readOnly

theorem Head.ofEntries?_eq_some_iff : Head.ofEntries? es = some head ↔ head.ReadFrom es := by
  unfold Head.ofEntries?
  constructor
  · intro h
    obtain ⟨id, hid, h⟩ := Option.bind_eq_some_iff.1 h
    obtain ⟨label, hlabel, h⟩ := Option.bind_eq_some_iff.1 h
    obtain ⟨styles, hstyles, h⟩ := Option.bind_eq_some_iff.1 h
    obtain ⟨rules, hrules, h⟩ := Option.bind_eq_some_iff.1 h
    obtain ⟨validation, hvalidation, h⟩ := Option.bind_eq_some_iff.1 h
    obtain ⟨readOnly, hreadOnly, h⟩ := Option.bind_eq_some_iff.1 h
    obtain rfl := Option.some.inj h
    exact ⟨hid, hlabel, rfl, hstyles, hrules, hvalidation, hreadOnly⟩
  · rintro ⟨hid, hlabel, hdefault, hstyles, hrules, hvalidation, hreadOnly⟩
    rw [hid, hlabel, hdefault, hstyles, hrules, hvalidation, hreadOnly]
    rfl

end Field

end FormBuilder
