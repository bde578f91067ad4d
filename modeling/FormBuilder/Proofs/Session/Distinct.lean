/-
A session keeps names apart: no operation gives a field an id that another field has, or a tab an id
that another tab of its field has, as long as fresh ids are fresh and patches leave the fields inside
a field to the other operations. Each operation exchanges one part of the outline; what it puts in
has no names but those that it takes out and fresh ones.
-/
import FormBuilder.Proofs.Session.Operation

namespace FormBuilder

open Outline FormBuilder.Field

/-! ## Fresh ids -/

/-- The ids of the tabs of a field. -/
def Field.tabIds : Field → List String
  | .tabs _ ts => ts.map (·.id)
  | _ => []

/-- The ids of a stock differ from each other, and no field and no tab of the tree has one of them. -/
structure FreshIds.Unused (stock : FreshIds) (t : Tree) : Prop where
  injective : Function.Injective stock
  names : ∀ n, ∀ f ∈ t.flatten, stock n ∉ f.id :: f.tabIds

namespace Tree

variable {t t' : Tree} {stock : FreshIds}

/-- A slot below the root is named after a field. -/
theorem owner_mem_marks {s : Slot} (h : .slot s ∈ t.marks) :
    s = .root ∨ ∃ c ∈ ids t.marks, s.container? = some c := by
  rcases List.mem_cons.1 h with h | h
  · cases h
    exact .inl rfl
  · obtain ⟨c, hc, hs⟩ := owner_mem_among h
    exact .inr ⟨c, hc, hs⟩

theorem not_mem_ids_of_unused (h : stock.Unused t) (n : Nat) : stock n ∉ ids t.marks := by
  rw [ids_marks]
  rintro hmem
  obtain ⟨f, hf, hid⟩ := List.mem_map.1 hmem
  exact h.names n f hf (hid ▸ List.mem_cons_self ..)

theorem not_mem_addresses_of_owner {s : Slot} {c : String} (hs : s.container? = some c)
    (hc : c ∉ ids t.marks) : s ∉ addresses t.marks := by
  intro hmem
  rcases owner_mem_marks (mem_addresses.1 hmem) with rfl | ⟨d, hd, hsd⟩
  · cases hs
  · exact hc (Option.some.inj (hsd.symm.trans hs) ▸ hd)

theorem not_mem_addresses_of_tab (h : stock.Unused t) (c : String) (n : Nat) :
    Slot.tab c (stock n) ∉ addresses t.marks := by
  intro hmem
  rcases hasSlot_iff.1 (slot_mem_marks.1 (mem_addresses.1 hmem)) with hroot | ⟨f, hf, hown⟩
  · cases hroot
  · cases f with
    | leaf => exact owns_leaf hown
    | group => cases owns_group.1 hown
    | repeater => cases owns_repeater.1 hown
    | abTest => rcases owns_abTest.1 hown with heq | heq <;> cases heq
    | tabs head ts =>
      obtain ⟨x, hx, heq⟩ := owns_tabs.1 hown
      have hid : stock n = x.id := by simpa using (Slot.tab.inj heq).2
      exact h.names n _ hf (List.mem_cons_of_mem _ (hid ▸ List.mem_map_of_mem hx))

end Tree

/-! ## New fields -/

namespace Field

variable (id : String) (type : FieldType) (subtype : Option TextSubtype) (fresh : FreshIds)

/-- A new container is empty. -/
theorem ids_new : ids (new id type subtype fresh).marksInside = [] := by
  cases type <;> rfl

theorem nodup_addresses_new (h : Function.Injective fresh) :
    (addresses (new id type subtype fresh).marksInside).Nodup := by
  cases type with
  | tabs =>
    have hne : fresh 0 ≠ fresh 1 := fun heq => Nat.zero_ne_one (h heq)
    simpa [new, marksInside, marksTabs, marksAmong] using hne
  | group | repeater | abTest => simp [new, marksInside, marksAmong]
  | _ => exact .nil

/-- The slots of a new field are named after it. -/
theorem owner_new {s : Slot}
    (h : s ∈ addresses (new id type subtype fresh).marksInside) : s.container? = some id := by
  obtain ⟨c, hc, hs⟩ := owner_mem_inside (mem_addresses.1 h)
  rw [ids_new, Drag.id_new, List.mem_singleton] at hc
  rw [hs, hc]

end Field

namespace Tree

variable {t t' : Tree} {stock : FreshIds}

theorem Distinct.insert_new (ht : t.Distinct) (hstock : stock.Unused t) {type : FieldType}
    {subtype : Option TextSubtype} {slot : Slot} {position : Option Nat} {index : Nat}
    (h : t.insert slot (.new (stock 0) type subtype (stock.skip 1)) position = .ok (t', index)) :
    t'.Distinct := by
  have hnot := not_mem_ids_of_unused hstock 0
  have hskip : Function.Injective (stock.skip 1) := fun i j heq =>
    Nat.add_left_cancel (hstock.injective heq)
  have hids : Outline.ids (block slot (.new (stock 0) type subtype (stock.skip 1)))
      = Outline.ids [] ++ [stock 0] := by
    rw [ids_block, Drag.id_new, ids_new]
    rfl
  refine (exchanges_of_insert h).distinct (by rw [hids]) (List.Sublist.refl _)
    (List.nodup_cons.2 ⟨hnot, ht.nodup_ids⟩) (List.nodup_append.2 ⟨?_, ht.nodup_addresses, ?_⟩)
  · exact nodup_addresses_new _ _ _ _ hskip
  · rintro s hs _ hs' rfl
    exact not_mem_addresses_of_owner (owner_new _ _ _ _ hs) hnot hs'

/-- A new tab behind the tabs of a field. -/
theorem Distinct.add_tab (ht : t.Distinct) (hstock : stock.Unused t) {id label : String}
    {head : Head} {ts : List (Tab Field)} (hfind : t.find? id = some (.tabs head ts)) :
    (t.replace id (.tabs head (ts ++ [⟨stock 0, label, []⟩]))).Distinct := by
  obtain ⟨s, hex⟩ := exchanges_of_replace hfind (.tabs head (ts ++ [⟨stock 0, label, []⟩]))
  have hmarks : (Field.tabs head (ts ++ [⟨stock 0, label, []⟩])).marksInside
      = (Field.tabs head ts).marksInside ++ [.slot (.tab head.id (stock 0))] := by
    rw [marksInside, marksTabs_append, marksInside]
    rfl
  -- an empty tab adds one address and no field
  have hids : Outline.ids (block s (.tabs head (ts ++ [⟨stock 0, label, []⟩])))
      = Outline.ids (block s (.tabs head ts)) ++ [] := by
    rw [ids_block, hmarks, ids_append, ids_block]
    rfl
  have hslots : addresses (block s (.tabs head (ts ++ [⟨stock 0, label, []⟩])))
      = addresses (block s (.tabs head ts)) ++ [.tab head.id (stock 0)] := by
    rw [addresses_block, hmarks, addresses_append, addresses_block]
    rfl
  exact hex.distinct (by rw [hids]) (by rw [hslots]) ht.nodup_ids
    (List.nodup_cons.2 ⟨not_mem_addresses_of_tab hstock head.id 0, ht.nodup_addresses⟩)

theorem Distinct.remove_tabs (ht : t.Distinct) {id : String} {head : Head}
    {ts us : List (Tab Field)} (hfind : t.find? id = some (.tabs head ts)) (hus : us.Sublist ts) :
    (t.replace id (.tabs head us)).Distinct := by
  obtain ⟨s, hex⟩ := exchanges_of_replace hfind (.tabs head us)
  have hmarks : (block s (.tabs head us)).Sublist
      (.field s (Field.tabs head us).shell :: (Field.tabs head ts).marksInside) :=
    (marksTabs_sublist head.id hus).cons_cons _
  refine hex.distinct_of_sublist ht ?_ ?_
  · have hsub := (hmarks.filterMap Mark.place?).map fun p : Slot × Field => p.2.id
    exact hsub
  · exact hmarks.filterMap Mark.slot?

theorem Distinct.replace (ht : t.Distinct) {id : String} {f g : Field}
    (hfind : t.find? id = some f) (h : f.SameNames g) : (t.replace id g).Distinct := by
  obtain ⟨s, hex⟩ := exchanges_of_replace hfind g
  refine hex.distinct_of_sublist ht ?_ ?_
  · rw [ids_block, ids_block, h.id, h.ids]
  · rw [addresses_block, addresses_block, h.addresses]

end Tree

/-! ## Operations -/

namespace Session

variable {σ : Type} {s s' : Session} {op : Operation σ}

/-- Fresh ids are fresh, and a patch does not replace the fields inside a field. -/
structure Operation.Admissible (s : Session) (op : Operation σ) : Prop where
  stock : ∀ fresh, op.stock? = some fresh → fresh.Unused s.tree
  patch : ∀ p, op.patch? = some p → p.KeepsFields

/-- An operation that needs neither fresh ids nor a patch is admissible. -/
theorem Operation.Admissible.of_none (hstock : op.stock? = none) (hpatch : op.patch? = none) :
    op.Admissible s where
  stock := by
    intro fresh h
    rw [hstock] at h
    cases h
  patch := by
    intro p h
    rw [hpatch] at h
    cases h

theorem Operation.Admissible.of_unused {fresh : FreshIds} (hstock : op.stock? = some fresh)
    (hpatch : op.patch? = none) (h : fresh.Unused s.tree) : op.Admissible s where
  stock := by
    intro other hother
    rw [hstock] at hother
    cases hother
    exact h
  patch := by
    intro p hp
    rw [hpatch] at hp
    cases hp

theorem Effects.distinct (h : Effects s op s') (hs : s.tree.Distinct) (hop : op.Admissible s) :
    s'.tree.Distinct := by
  cases h with
  | stays htree hselected | selects htree hselected | picks hfind htree hselected =>
    rw [htree]
    exact hs
  | adds hstock hinsert hselected => exact hs.insert_new (hop.stock _ hstock) hinsert
  | removes hremove hselected =>
    obtain ⟨s, hex⟩ := Tree.exchanges_of_remove? hremove
    exact hex.distinct_of_sublist hs (List.nil_sublist _) (List.nil_sublist _)
  | moves hremove hinsert hselected =>
    obtain ⟨s, hex⟩ := Tree.exchanges_of_move hremove hinsert
    refine hex.distinct_of_sublist hs ?_ ?_
    · rw [ids_block, ids_block]
    · rw [addresses_block, addresses_block]
  | keepsNames hfind hnames htree hselected =>
    rw [htree]
    exact hs.replace hfind hnames
  | updates hfind happly htree hselected =>
    rw [htree]
    exact hs.replace hfind ((hop.patch _ rfl).sameNames happly)
  | addsTab hfind htree hselected =>
    rw [htree]
    exact hs.add_tab (hop.stock _ rfl) hfind
  | removesTab hfind htree hselected =>
    rw [htree]
    exact hs.remove_tabs hfind List.eraseP_sublist

/-- Whatever is done in a session: if the names of the form can be told apart, they can be told apart
in every state that is reached. -/
theorem distinct_throughout (s : Session) (hs : s.tree.Distinct) (ops : List (Operation σ))
    (hops : Along (fun s op => op.Admissible s) s ops) : Throughout (·.tree.Distinct) s ops :=
  throughout_of_step (fun s op hs hop => (effects_of_run s op).distinct hs hop) hs hops

/-- The ids that are spelled with so many strokes behind a letter. -/
def tally (letter : Char) : FreshIds := fun n => String.ofList (letter :: List.replicate n 'i')

theorem unused_tally {letter : Char} {t : Tree}
    (h : ∀ f ∈ t.flatten, ∀ i ∈ f.id :: f.tabIds, i.toList.head? ≠ some letter) :
    (tally letter).Unused t where
  injective := by
    intro m n heq
    have hlist : letter :: List.replicate m 'i' = letter :: List.replicate n 'i' :=
      String.ofList_injective heq
    simpa using congrArg List.length hlist
  names := by
    intro n f hf hmem
    exact h f hf _ hmem (by simp [tally])

/-- A page break is dragged out of its tab, the tab is removed, and another one is added. -/
theorem distinct_throughout_tabsTree :
    let s : Session := ⟨⟨"f", "o", Drag.tabsTree, .initial, ⟨0, 0, 0⟩⟩, none, none⟩
    let ops : List (Operation Unit) := [.beginDrag (.field "break") (tally 'x'),
      .drop (some (.field "tracker")) (tally 'x'), .removeTab "tabs" "one",
      .addTab "tabs" "New" (tally 'x'), .updateField "tracker" { label := some "Steps" }]
    s.tree.Distinct ∧ Along (fun s op => op.Admissible s) s ops ∧
      Throughout (·.tree.Distinct) s ops := by
  intro s ops
  have hs : s.tree.Distinct := Tree.distinct_iff.2 (by decide)
  have hops : Along (fun s op => op.Admissible s) s ops := by
    have hlabel : (Patch.KeepsFields { label := some "Steps" }) := nofun
    refine ⟨.of_none rfl rfl, .of_unused rfl rfl (unused_tally (by decide)),
      .of_none rfl rfl, .of_unused rfl rfl (unused_tally (by decide)),
      ⟨nofun, ?_⟩, trivial⟩
    rintro _ ⟨⟩
    exact hlabel
  exact ⟨hs, hops, distinct_throughout s hs ops hops⟩

end Session

end FormBuilder
