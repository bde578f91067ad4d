/-
Walks that may change a tree: a visitor is shown every slot and every field, keeps something from
stop to stop, and may end the walk with other contents for the slot that it stands in. Edits are
walks, and a walk that is never ended comes by the fields that a lookup goes through, at the same
places and in the same order.
-/
import FormBuilder.Tree.Edit

namespace FormBuilder

/-- A stop of a walk: at a slot, before its fields, or at the field of an index in its slot. -/
inductive Tree.Stop where
  | slot (slot : Slot) (fields : List Field)
  | field (slot : Slot) (fields : List Field) (index : Nat)

/-- What a visitor does at a stop, told what it has kept: it keeps something for the next stop, and
may end the walk with other contents for the slot and an answer. -/
abbrev Tree.Visitor (σ α : Type) : Type := σ → Tree.Stop → σ × Option (List Field × α)

namespace Walk

variable {σ α β γ : Type}

/-- Goes on with a walk unless it has ended. -/
def next (w : σ × Option β) (go : σ → σ × Option β) : σ × Option β :=
  match w with
  | (s, some b) => (s, some b)
  | (s, none) => go s

/-- Puts what a walk has changed back into what it is a part of. -/
def within (put : β → γ) (w : σ × Option (β × α)) : σ × Option (γ × α) :=
  (w.1, w.2.map fun (b, a) => (put b, a))

@[simp] theorem next_none (s : σ) (go : σ → σ × Option β) : next (s, none) go = go s := rfl

@[simp] theorem within_none (put : β → γ) (s : σ) :
    within put ((s, none) : σ × Option (β × α)) = (s, none) := rfl

theorem next_unit (x : Option β) (go : Unit → Unit × Option β) :
    next ((), x) go = ((), x.or (go ()).2) := by
  cases x <;> rfl

theorem within_unit (put : β → γ) (x : Option (β × α)) :
    within put ((), x) = ((), x.map fun (b, a) => (put b, a)) := rfl

end Walk

/-! ## Walking -/

namespace Field

open Walk

variable {σ α : Type}

mutual

/-- Walks what is inside a field. -/
def walkInside (visit : Tree.Visitor σ α) (s : σ) : Field → σ × Option (Field × α)
  | .leaf _ _ => (s, none)
  | .group h n cs => within (.group h n) <|
    next (visit s (.slot (.children h.id) cs)) fun s => walkFrom visit (.children h.id) s [] cs
  | .repeater h l cs => within (.repeater h l) <|
    next (visit s (.slot (.children h.id) cs)) fun s => walkFrom visit (.children h.id) s [] cs
  | .tabs h ts => within (.tabs h) (walkTabs visit h.id s ts)
  | .abTest h a b =>
    next (within (fun a => .abTest h a b) <| next (visit s (.slot (.variant h.id .a) a)) fun s =>
        walkFrom visit (.variant h.id .a) s [] a) fun s =>
      within (fun b => .abTest h a b) <| next (visit s (.slot (.variant h.id .b) b)) fun s =>
        walkFrom visit (.variant h.id .b) s [] b

/-- Walks the fields of a slot that stand behind those of `done`, each before what is inside it. -/
def walkFrom (visit : Tree.Visitor σ α) (slot : Slot) (s : σ) (done : List Field) :
    List Field → σ × Option (List Field × α)
  | [] => (s, none)
  | f :: fs => next (visit s (.field slot (done ++ f :: fs) done.length)) fun s =>
    next (within (fun g => done ++ g :: fs) (walkInside visit s f)) fun s =>
      walkFrom visit slot s (done ++ [f]) fs

def walkTabs (visit : Tree.Visitor σ α) (id : String) (s : σ) :
    List (Tab Field) → σ × Option (List (Tab Field) × α)
  | [] => (s, none)
  | ⟨tab, label, cs⟩ :: ts =>
    next (within (fun cs => ⟨tab, label, cs⟩ :: ts) <| next (visit s (.slot (.tab id tab) cs)) fun s =>
        walkFrom visit (.tab id tab) s [] cs) fun s =>
      within (⟨tab, label, cs⟩ :: ·) (walkTabs visit id s ts)

end

end Field

namespace Tree

variable {σ α : Type}

/-- Walks a tree from the top-level fields on. -/
def walk (visit : Visitor σ α) (s : σ) (t : Tree) : σ × Option (Tree × α) :=
  Walk.within Tree.mk <| Walk.next (visit s (.slot .root t.fields)) fun s =>
    Field.walkFrom visit .root s [] t.fields

end Tree

/-! ## Edits as walks -/

open Walk FormBuilder.Field

variable {σ α : Type}

/-- The visitor that ends the walk where an edit has its place. -/
def Tree.Edit.visitor (e : Tree.Edit α) : Tree.Visitor Unit α := fun _ stop =>
  ((), match stop with
    | .slot slot fs => e.slot slot fs
    | .field _ fs index => fs[index]?.bind fun f =>
      (e.field f).map fun (new, a) => (fs.take index ++ new ++ fs.drop (index + 1), a))

theorem Tree.Edit.visitor_slot (e : Tree.Edit α) (slot : Slot) (fs : List Field) :
    e.visitor () (.slot slot fs) = ((), e.slot slot fs) := rfl

theorem Tree.Edit.visitor_field (e : Tree.Edit α) (slot : Slot) (done : List Field) (f : Field)
    (fs : List Field) : e.visitor () (.field slot (done ++ f :: fs) done.length)
      = ((), (e.field f).map fun (new, a) => (done ++ (new ++ fs), a)) := by
  have hdrop : (done ++ f :: fs).drop (done.length + 1) = fs := by
    rw [← List.drop_drop, List.drop_left]
    rfl
  simp [visitor, hdrop]

namespace Field

mutual

theorem walkInside_visitor (e : Tree.Edit α) : ∀ f : Field,
    walkInside e.visitor () f = ((), editInside e f)
  | .leaf _ _ => rfl
  | .group h n cs | .repeater h n cs => by
    rw [walkInside, e.visitor_slot, next_unit, walkFrom_visitor e (.children h.id) [] cs, within_unit,
      editInside]
    simp
  | .tabs h ts => by
    rw [walkInside, walkTabs_visitor e h.id ts, within_unit, editInside]
  | .abTest h a b => by
    rw [walkInside, next_unit, e.visitor_slot, next_unit, walkFrom_visitor e (.variant h.id .a) [] a,
      within_unit, e.visitor_slot, next_unit, walkFrom_visitor e (.variant h.id .b) [] b, within_unit,
      editInside]
    simp

theorem walkFrom_visitor (e : Tree.Edit α) (slot : Slot) : ∀ (done fs : List Field),
    walkFrom e.visitor slot () done fs
      = ((), (editAmong e fs).map fun (fs, a) => (done ++ fs, a))
  | _, [] => rfl
  | done, f :: fs => by
    rw [walkFrom, e.visitor_field, next_unit, walkInside_visitor e f, within_unit, next_unit,
      walkFrom_visitor e slot (done ++ [f]) fs, editAmong]
    cases e.field f with
    | some r => rfl
    | none =>
      cases editInside e f with
      | some r => rfl
      | none => simp [Function.comp_def]

theorem walkTabs_visitor (e : Tree.Edit α) (id : String) : ∀ ts : List (Tab Field),
    walkTabs e.visitor id () ts = ((), editTabsInside e id ts)
  | [] => rfl
  | ⟨tab, label, cs⟩ :: ts => by
    rw [walkTabs, next_unit, e.visitor_slot, next_unit, walkFrom_visitor e (.tab id tab) [] cs,
      within_unit, walkTabs_visitor e id ts, within_unit, editTabsInside]
    cases h : (e.slot (.tab id tab) cs).or (editAmong e cs) <;> simp [h]

end

end Field

/-- Every edit is a walk. -/
theorem Tree.edit?_eq_walk (e : Tree.Edit α) (t : Tree) : t.edit? e = (t.walk e.visitor ()).2 := by
  rw [walk, e.visitor_slot, next_unit, walkFrom_visitor e .root [] t.fields, within_unit, edit?]
  simp

/-! ## Walks to the end -/

/-- The visitor that reports every field with its slot and its index there, and never ends the
walk. -/
def Tree.Visitor.reporting (report : σ → Tree.Entry → σ) : Tree.Visitor σ α := fun s stop =>
  (match stop with
    | .slot _ _ => s
    | .field slot fs index => (fs[index]?.map fun f => report s ⟨slot, index, f⟩).getD s, none)

theorem Tree.Visitor.reporting_slot (report : σ → Tree.Entry → σ) (s : σ) (slot : Slot)
    (fs : List Field) :
    (reporting report : Tree.Visitor σ α) s (.slot slot fs) = (s, none) := rfl

theorem Tree.Visitor.reporting_field (report : σ → Tree.Entry → σ) (s : σ) (slot : Slot)
    (done : List Field) (f : Field) (fs : List Field) :
    (reporting report : Tree.Visitor σ α) s (.field slot (done ++ f :: fs) done.length)
      = (report s ⟨slot, done.length, f⟩, none) := by
  simp [reporting]

open Tree.Visitor (reporting_slot reporting_field)

namespace Field

variable (report : σ → Tree.Entry → σ)

mutual

theorem walkInside_reporting : ∀ (s : σ) (f : Field),
    walkInside (Tree.Visitor.reporting report : Tree.Visitor σ α) s f
      = (f.inside.foldl report s, none)
  | _, .leaf _ _ => rfl
  | s, .group h _ cs | s, .repeater h _ cs => by
    rw [walkInside, reporting_slot, next_none, walkFrom_reporting (.children h.id) s [] cs, within_none,
      inside]
    rfl
  | s, .tabs h ts => by
    rw [walkInside, walkTabs_reporting h.id s ts, within_none, inside]
  | s, .abTest h a b => by
    rw [walkInside, reporting_slot, next_none, walkFrom_reporting (.variant h.id .a) s [] a, within_none,
      next_none, reporting_slot, next_none, walkFrom_reporting (.variant h.id .b) _ [] b, within_none,
      inside, List.foldl_append]
    rfl

theorem walkFrom_reporting (slot : Slot) : ∀ (s : σ) (done fs : List Field),
    walkFrom (Tree.Visitor.reporting report : Tree.Visitor σ α) slot s done fs
      = ((entriesFrom slot done.length fs).foldl report s, none)
  | _, _, [] => rfl
  | s, done, f :: fs => by
    rw [walkFrom, reporting_field, next_none, walkInside_reporting _ f, within_none, next_none,
      walkFrom_reporting slot _ (done ++ [f]) fs, entriesFrom, List.foldl_cons, List.foldl_append,
      List.length_append]
    rfl

theorem walkTabs_reporting (id : String) : ∀ (s : σ) (ts : List (Tab Field)),
    walkTabs (Tree.Visitor.reporting report : Tree.Visitor σ α) id s ts
      = ((insideTabs id ts).foldl report s, none)
  | _, [] => rfl
  | s, ⟨tab, label, cs⟩ :: ts => by
    rw [walkTabs, reporting_slot, next_none, walkFrom_reporting (.tab id tab) s [] cs, within_none,
      next_none, walkTabs_reporting id _ ts, within_none, insideTabs, List.foldl_append]
    rfl

end

end Field

/-- A walk that is never ended comes by the entries of the tree, in their order. -/
theorem Tree.walk_reporting (report : σ → Tree.Entry → σ) (s : σ) (t : Tree) :
    t.walk (Tree.Visitor.reporting report : Tree.Visitor σ α) s
      = (t.entries.foldl report s, none) := by
  rw [walk, reporting_slot, next_none, walkFrom_reporting report .root s [] t.fields, within_none]
  rfl

end FormBuilder
