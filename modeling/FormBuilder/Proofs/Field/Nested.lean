/-
New groups put inside each other: a designer can go on for ever, and with each group the document
of the fields is nested two levels deeper.
-/
import FormBuilder.Session
import FormBuilder.Proofs.Field.RoundTrip

namespace FormBuilder

namespace Field

/-- The head of a new group. -/
def groupHead (id : String) : Head :=
  { id, label := FieldType.group.label .text, defaultValue := some FieldType.group.defaultValue,
    styles := [], rules := [], validation := some {}, readOnly := false }

theorem new_group (id : String) (fresh : FreshIds) :
    new id .group none fresh = .group (groupHead id) 1 [] := rfl

/-- New groups inside each other, each but the last with the next one as its only field. Their ids
are the names from the first on. -/
def nestedGroups (name : Nat → String) (first : Nat) : Nat → List Field
  | 0 => []
  | n + 1 => [.group (groupHead (name first)) 1 (nestedGroups name (first + 1) n)]

variable {name : Nat → String}

theorem storable_nestedGroups : ∀ first n : Nat, StorableList (nestedGroups name first n)
  | _, 0 => trivial
  | first, n + 1 => by
    have hhead : (groupHead (name first)).Storable := by
      refine ⟨?_, List.Pairwise.nil, trivial, nofun⟩
      rintro v ⟨⟩
      trivial
    exact ⟨⟨hhead, storable_nestedGroups (first + 1) n⟩, trivial⟩

theorem distinct_nestedGroups : ∀ first n : Nat, DistinctList (nestedGroups name first n)
  | _, 0 => trivial
  | first, n + 1 => ⟨⟨nofun, distinct_nestedGroups (first + 1) n⟩, trivial⟩

/-- An object and an array for each group. -/
theorem depth_nestedGroups : ∀ first n : Nat,
    Json.depthItems (listToJson (nestedGroups name first n)) = 2 * n
  | _, 0 => rfl
  | first, n + 1 => by
    have ih := depth_nestedGroups (first + 1) n
    have hhead : Json.depthEntries (groupHead (name first)).entries = 1 := rfl
    rw [nestedGroups, listToJson, listToJson, head, kindEntries, Json.depthItems, Json.depthItems,
      Json.depth, Json.depthEntries_append, hhead]
    simp only [Json.depthEntries, Json.depth, ih]
    omega

/-! ## Inserting -/

/-- The innermost slot of nested groups. -/
def innermostSlot (name : Nat → String) : Nat → Slot
  | 0 => .root
  | n + 1 => .children (name n)

/-- A group that is put into the innermost of some groups is the innermost one then. -/
theorem editAmong_nestedGroups (hname : ∀ i j, name i = name j → i = j) :
    ∀ first n : Nat, editAmong
        (Tree.inserting (.children (name (first + n))) (.group (groupHead (name (first + n + 1))) 1 []) none)
        (nestedGroups name first (n + 1))
      = some (nestedGroups name first (n + 2), 0)
  | first, 0 => by
    simp [nestedGroups, editAmong, editInside, Tree.inserting, groupHead, Tree.clamp]
  | first, n + 1 => by
    have ih := editAmong_nestedGroups hname (first + 1) n
    have hindex : first + 1 + n = first + (n + 1) := by omega
    have hne : name first ≠ name (first + (n + 1)) := fun h => by
      have := hname _ _ h
      omega
    rw [hindex] at ih
    -- the outermost group is not the one that is looked for, so the edit goes inside
    have hmiss : (Tree.inserting (.children (name (first + (n + 1))))
        (.group (groupHead (name (first + (n + 1) + 1))) 1 []) none).slot
          (.children (groupHead (name first)).id) (nestedGroups name (first + 1) (n + 1)) = none := by
      refine if_neg ?_
      rintro h
      exact hne (Slot.children.inj h)
    rw [nestedGroups, editAmong]
    simp only [Tree.inserting, editInside] at ih hmiss ⊢
    rw [hmiss, ih]
    rfl

end Field

open FormBuilder.Field (nestedGroups innermostSlot)

theorem Tree.insert_nestedGroups {name : Nat → String} (hname : ∀ i j, name i = name j → i = j)
    (fresh : FreshIds) : ∀ n : Nat, (⟨nestedGroups name 0 n⟩ : Tree).insert (innermostSlot name n)
        (.new (name n) .group none fresh) none
      = .ok (⟨nestedGroups name 0 (n + 1)⟩, 0)
  | 0 => rfl
  | n + 1 => by
    have hedit := Field.editAmong_nestedGroups hname 0 n
    rw [Nat.zero_add] at hedit
    have hroot : (inserting (innermostSlot name (n + 1)) (.group (Field.groupHead (name (n + 1))) 1 [])
        none).slot .root (nestedGroups name 0 (n + 1)) = none := rfl
    unfold insert edit?
    rw [Field.new_group, hroot, Option.none_or, innermostSlot, hedit]
    rfl

namespace Session

/-- A session in which a designer puts a new group into the innermost one so often. -/
def addNestedGroups (name : Nat → String) (s : Session) : Nat → Except Tree.Error Session
  | 0 => .ok s
  | n + 1 => do
    let s ← s.addNestedGroups name n
    let (s, _) ← s.addField (innermostSlot name n) .group none none fun _ => name n
    return s

/-- Every depth can be built, and nothing but the fields of the form changes on the way. -/
theorem addNestedGroups_eq {name : Nat → String} (hname : ∀ i j, name i = name j → i = j)
    {s : Session} (hs : s.tree = .empty) : ∀ n : Nat, ∃ s', s.addNestedGroups name n = .ok s'
      ∧ s'.form = { s.form with tree := ⟨nestedGroups name 0 n⟩ }
  | 0 => by
    refine ⟨s, rfl, ?_⟩
    have htree : s.form.tree = ⟨nestedGroups name 0 0⟩ := hs
    rw [← htree]
  | n + 1 => by
    obtain ⟨t, hbuilt, hform⟩ := addNestedGroups_eq hname hs n
    have htree : t.tree = ⟨nestedGroups name 0 n⟩ := by rw [tree, hform]
    have hinsert := Tree.insert_nestedGroups hname (FreshIds.skip 1 fun _ => name n) n
    have hadded : t.addField (innermostSlot name n) .group none none (fun _ => name n)
        = .ok (((t.withTree ⟨nestedGroups name 0 (n + 1)⟩).select (some (name n))), name n, 0) := by
      unfold addField
      simp only [htree, hinsert]
      rfl
    refine ⟨(t.withTree ⟨nestedGroups name 0 (n + 1)⟩).select (some (name n)), ?_, ?_⟩
    · rw [addNestedGroups, hbuilt]
      show (t.addField _ _ _ _ _).bind _ = _
      rw [hadded]
      rfl
    · rw [select, withTree, hform]

end Session

end FormBuilder
