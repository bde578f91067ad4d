/-
Whole sessions of dragging. What is dragged is a copy that was taken when the drag began, and the tree may
be edited in any way before it is dropped. Nevertheless no field is lost and none arises twice, also
where ids and slots occur more than once: a drop looks up in the present tree all that it needs, and after
it nothing is dragged. A step tells what a gesture does; what a whole session does follows by induction on
its gestures.
-/
import FormBuilder.Proofs.Drag
import FormBuilder.Proofs.Tree.Block
import FormBuilder.Session

namespace FormBuilder.Drag

/-! ## Gestures -/

/-- A tree, and what is dragged over it. -/
structure Canvas where
  tree : Tree
  dragging : Option Payload := none

inductive Gesture where
  | begin (source : Source) (fresh : FreshIds)
  | cancel
  | release (target : Option Target) (fresh : FreshIds)
  /-- Whatever else is done to the tree. -/
  | edit (tree : Tree)

def Gesture.run (c : Canvas) : Gesture → Canvas
  | .begin source fresh => { c with dragging := payload? source c.tree fresh }
  | .cancel => { c with dragging := none }
  | .release target fresh => ⟨(drop c.dragging target c.tree fresh).tree, none⟩
  | .edit t => { c with tree := t }

/-- A gesture, and the canvas before it. -/
structure Moment where
  before : Canvas
  gesture : Gesture

namespace Moment

def after (m : Moment) : Canvas := m.gesture.run m.before

/-- What a release comes to. -/
def drop? (m : Moment) : Option Drop :=
  match m.gesture with
  | .release target fresh => some (drop m.before.dragging target m.before.tree fresh)
  | _ => none

/-- A drag begins. -/
def begins (m : Moment) : Bool :=
  match m.gesture with
  | .begin _ _ => m.after.dragging.isSome
  | _ => false

def edits (m : Moment) : Bool :=
  match m.gesture with
  | .edit _ => true
  | _ => false

/-- Something is dropped, be it in vain. -/
def drops (m : Moment) : Bool := m.drop?.any fun d => d.outcome != .cancelled

end Moment

/-- The gestures one after the other, each with the canvas before it. -/
def Canvas.moments (c : Canvas) : List Gesture → List Moment
  | [] => []
  | g :: gs => ⟨c, g⟩ :: (g.run c).moments gs

/-- The number of fields with an id. -/
def Canvas.count (c : Canvas) (id : String) : Nat := (c.tree.flatten.map (·.id)).count id

/-! ## Dragging in a session -/

namespace Canvas

/-- The form of a session, and what is dragged over it. -/
def ofSession (s : Session) : Canvas := ⟨s.tree, s.dragging⟩

theorem ofSession_beginDrag (s : Session) (source : Source) (fresh : FreshIds) :
    ofSession (s.beginDrag source fresh) = (Gesture.begin source fresh).run (ofSession s) := by
  dsimp only [Session.beginDrag, Gesture.run, ofSession]
  split <;> rfl

theorem ofSession_cancelDrag (s : Session) :
    ofSession s.cancelDrag = Gesture.cancel.run (ofSession s) := rfl

theorem ofSession_drop (s : Session) (target : Option Target) (fresh : FreshIds) :
    ofSession (s.drop target fresh).1 = (Gesture.release target fresh).run (ofSession s) := by
  dsimp only [Session.drop, Gesture.run]
  split <;> rfl

end Canvas

/-! ## What one gesture does -/

/-- What a drop may do to a canvas, by its outcome. -/
def Drop.Safe (c : Canvas) (fresh : FreshIds) (d : Drop) : Prop :=
  match d.outcome with
  | .cancelled | .unchanged => d.tree = c.tree
  | .moved id _ =>
    (∃ copy, c.dragging = some (.existing copy) ∧ copy.id = id) ∧ d.tree.shells.Perm c.tree.shells
  | .inserted id slot =>
    ∃ type subtype preview, c.dragging = some (.template type subtype preview) ∧
      let f := Field.new (fresh 0) type subtype (fresh.skip 1)
      id = f.id ∧ f.shells = [f] ∧
        ∃ pre before cs, c.tree.OneMore d.tree f pre before slot cs cs.length

/-- What a gesture may do to a canvas. -/
def Moment.Safe (m : Moment) : Prop :=
  match m.gesture with
  | .begin source _ =>
    m.after.tree = m.before.tree ∧
      (m.after.dragging = none ↔ ∃ id, source = .field id ∧ m.before.tree.contains id = false)
  | .cancel => m.after.tree = m.before.tree ∧ m.after.dragging = none
  | .release _ fresh =>
    m.after.dragging = none ∧
      ∃ d, m.drop? = some d ∧ m.after.tree = d.tree ∧ d.Safe m.before fresh ∧
        (m.before.dragging = none → d.outcome = .cancelled)
  | .edit t => m.after.tree = t ∧ m.after.dragging = m.before.dragging

theorem shells_new (id : String) (type : FieldType) (subtype : Option TextSubtype) (fresh : FreshIds) :
    (Field.new id type subtype fresh).shells = [.new id type subtype fresh] := by
  cases type <;> rfl

theorem safe_dropNew (c : Canvas) {type : FieldType} {subtype : Option TextSubtype} {preview : Field}
    (hdragging : c.dragging = some (.template type subtype preview)) (target : Target)
    (fresh : FreshIds) :
    (dropNew c.tree (.new (fresh 0) type subtype (fresh.skip 1)) target).Safe c fresh := by
  rcases dropNew_cases c.tree (.new (fresh 0) type subtype (fresh.skip 1)) target with
    ⟨houtcome, htree⟩ | ⟨slot, index, hinsert, houtcome⟩
  · rw [Drop.Safe, houtcome]
    exact htree
  · rw [Drop.Safe, houtcome]
    obtain ⟨pre, before, cs, hmore, -, rfl⟩ := Tree.oneMore_of_insert hinsert
    exact ⟨type, subtype, preview, hdragging, rfl, shells_new .., pre, before, cs, hmore⟩

/-- What is taken out of the present tree is put in again, whatever the copy is. -/
theorem safe_dropExisting (c : Canvas) {copy : Field} (hdragging : c.dragging = some (.existing copy))
    (target : Target) (fresh : FreshIds) : (dropExisting c.tree copy.id target).Safe c fresh := by
  rcases dropExisting_cases c.tree copy.id target with
    ⟨houtcome, htree⟩ | ⟨rest, f, slot, position, index, hremove, hinsert, houtcome⟩
  · rw [Drop.Safe, houtcome]
    exact htree
  · rw [Drop.Safe, houtcome]
    obtain ⟨_, _, _, _, _, hout, -⟩ := Tree.oneMore_of_remove? hremove
    obtain ⟨_, _, _, hinto, -⟩ := Tree.oneMore_of_insert hinsert
    exact ⟨⟨copy, hdragging, rfl⟩,
      hinto.shells_perm.trans hout.shells_perm.symm⟩

theorem safe_drop (c : Canvas) (target : Option Target) (fresh : FreshIds) :
    (drop c.dragging target c.tree fresh).Safe c fresh ∧
      (c.dragging = none → (drop c.dragging target c.tree fresh).outcome = .cancelled) := by
  cases hdragging : c.dragging with
  | none => exact ⟨rfl, fun _ => rfl⟩
  | some payload =>
    refine ⟨?_, nofun⟩
    cases target with
    | none => cases payload <;> exact rfl
    | some target =>
      cases payload with
      | template type subtype preview => exact safe_dropNew c hdragging target fresh
      | existing copy => exact safe_dropExisting c hdragging target fresh

theorem Moment.safe (m : Moment) : m.Safe := by
  obtain ⟨c, g⟩ := m
  cases g with
  | begin source fresh =>
    refine ⟨rfl, ?_⟩
    cases source with
    | control type subtype => exact ⟨nofun, nofun⟩
    | field id =>
      show (c.tree.find? id).map Payload.existing = none ↔ _
      simp [Tree.contains]
  | cancel => exact ⟨rfl, rfl⟩
  | release target fresh => exact ⟨rfl, _, rfl, rfl, safe_drop c target fresh⟩
  | edit t => exact ⟨rfl, rfl⟩

/-! ## What follows from it -/

/-- A canvas is changed by what is dropped and by nothing else that is done with a drag. -/
theorem Moment.Safe.drops {m : Moment} (h : m.Safe) (hedits : m.edits = false)
    (hchanged : m.after.tree ≠ m.before.tree) : m.drops = true := by
  obtain ⟨c, g⟩ := m
  cases g with
  | begin source fresh => exact absurd h.1 hchanged
  | cancel => exact absurd h.1 hchanged
  | release target fresh =>
    obtain ⟨-, d, hdrop, htree, hsafe, -⟩ := h
    rw [Moment.drops, hdrop]
    refine bne_iff_ne.2 fun houtcome => hchanged ?_
    rw [Drop.Safe, houtcome] at hsafe
    exact htree.trans hsafe
  | edit t => cases hedits

theorem count_eq (c : Canvas) (id : String) : c.count id = (c.tree.shells.map (·.id)).count id := by
  rw [Canvas.count, Tree.shells, List.map_map]
  exact congrArg (List.count id) (List.map_congr_left fun f _ => f.id_shell.symm)

theorem Drop.Safe.count {c : Canvas} {fresh : FreshIds} {d : Drop} (h : d.Safe c fresh) {id : String}
    (hstock : fresh 0 ≠ id) : (d.tree.shells.map (·.id)).count id = (c.tree.shells.map (·.id)).count id := by
  rw [Drop.Safe] at h
  split at h
  · rw [h]
  · rw [h]
  · exact (h.2.map _).count_eq id
  · obtain ⟨type, subtype, _, -, -, hshells, _, _, _, hmore⟩ := h
    obtain ⟨post, hsmall, hlarge⟩ := hmore.shells
    rw [hshells] at hlarge
    rw [hsmall, hlarge]
    simp [id_new, hstock]

/-- The only new field that a gesture puts into a tree takes its id from the stock. -/
theorem Moment.Safe.count {m : Moment} (h : m.Safe) (hedits : m.edits = false) {id : String}
    (hstock : ∀ target fresh, m.gesture = .release target fresh → fresh 0 ≠ id) :
    m.after.count id = m.before.count id := by
  obtain ⟨c, g⟩ := m
  rw [count_eq, count_eq]
  cases g with
  | begin source fresh => rfl
  | cancel => rfl
  | release target fresh =>
    obtain ⟨-, d, -, htree, hsafe, -⟩ := h
    rw [htree]
    exact hsafe.count (hstock target fresh rfl)
  | edit t => cases hedits

/-- Something is dropped only while it is dragged, and then no longer. -/
theorem Moment.Safe.balance {m : Moment} (h : m.Safe) :
    m.drops.toNat + m.after.dragging.isSome.toNat ≤ m.begins.toNat + m.before.dragging.isSome.toNat := by
  obtain ⟨c, g⟩ := m
  cases g with
  | begin source fresh => simp [Moment.drops, Moment.drop?, Moment.begins]
  | cancel => exact Nat.zero_le _
  | release target fresh =>
    obtain ⟨hidle, d, hdrop, -, -, hcancelled⟩ := h
    rw [hidle, Moment.drops, hdrop]
    cases hdragging : c.dragging with
    | none => simp [hcancelled hdragging]
    | some payload => exact Nat.le_trans (Bool.toNat_le _) (Nat.le_add_left ..)
  | edit t => exact Nat.le_refl _

/-! ## What a session does -/

/-- Each drag that begins ends in one drop at most. -/
theorem countP_drops_le (c : Canvas) (gs : List Gesture) :
    (c.moments gs).countP (·.drops) ≤ (c.moments gs).countP (·.begins) + c.dragging.isSome.toNat := by
  induction gs generalizing c with
  | nil => exact Nat.zero_le _
  | cons g gs ih =>
    have hfirst : (⟨c, g⟩ : Moment).drops.toNat + (g.run c).dragging.isSome.toNat
        ≤ (⟨c, g⟩ : Moment).begins.toNat + c.dragging.isSome.toNat := (Moment.safe ⟨c, g⟩).balance
    have hrest := ih (g.run c)
    have hone : ∀ b : Bool, (if b = true then 1 else 0) = b.toNat := by decide
    rw [Canvas.moments, List.countP_cons, List.countP_cons, hone, hone]
    omega

/-- What is dragged at a moment is what the last gesture began to drag; since then the tree was edited at
most. -/
theorem exists_begins {c : Canvas} {gs : List Gesture} {ms ms' : List Moment} {m : Moment}
    {payload : Payload} (hsplit : c.moments gs = ms ++ m :: ms')
    (hdragging : m.before.dragging = some payload) :
    (c.dragging = some payload ∧ ∀ n ∈ ms, n.edits = true) ∨
      ∃ ns n ns', ms = ns ++ n :: ns' ∧ n.begins = true ∧ n.after.dragging = some payload ∧
        ∀ n' ∈ ns', n'.edits = true := by
  induction gs generalizing c ms with
  | nil => simp [Canvas.moments] at hsplit
  | cons g gs ih =>
    rw [Canvas.moments] at hsplit
    cases ms with
    | nil =>
      obtain ⟨rfl, -⟩ := List.cons.inj hsplit
      exact .inl ⟨hdragging, List.forall_mem_nil _⟩
    | cons first ms =>
      obtain ⟨rfl, hrest⟩ := List.cons.inj hsplit
      rcases ih hrest with ⟨hrun, hedits⟩ | ⟨ns, n, ns', rfl, hn⟩
      · -- what is dragged after the first gesture was dragged before it, or it begins the drag
        cases g with
        | begin source fresh =>
          exact .inr ⟨[], _, ms, rfl, congrArg Option.isSome hrun, hrun, hedits⟩
        | cancel => exact absurd hrun (Option.some_ne_none _).symm
        | release target fresh => exact absurd hrun (Option.some_ne_none _).symm
        | edit t => exact .inl ⟨hrun, List.forall_mem_cons.2 ⟨rfl, hedits⟩⟩
      · exact .inr ⟨_ :: ns, n, ns', rfl, hn⟩

/-- However gestures and other edits follow each other, on a tree with any ids: beginning and cancelling
leave the tree; a drop leaves it, or adds one new field, or keeps all fields but for their order; after a
drop nothing is dragged, so each drag that begins changes the tree once at most, by what it began with;
and no drag puts the id of previews into a tree, if the stock does not have it. -/
theorem gestures_safe (c : Canvas) (gs : List Gesture) :
    (∀ m ∈ c.moments gs, m.Safe ∧ (m.edits = false →
      (m.after.tree ≠ m.before.tree → m.drops = true) ∧
      ((∀ target fresh, m.gesture = .release target fresh → fresh 0 ≠ previewId) →
        m.after.count previewId = m.before.count previewId))) ∧
    (c.moments gs).countP (·.drops) ≤ (c.moments gs).countP (·.begins) + c.dragging.isSome.toNat ∧
    ∀ ms m ms' payload, c.moments gs = ms ++ m :: ms' → m.before.dragging = some payload →
      (c.dragging = some payload ∧ ∀ n ∈ ms, n.edits = true) ∨
        ∃ ns n ns', ms = ns ++ n :: ns' ∧ n.begins = true ∧ n.after.dragging = some payload ∧
          ∀ n' ∈ ns', n'.edits = true :=
  ⟨fun m _ => ⟨m.safe, fun hedits => ⟨m.safe.drops hedits, m.safe.count hedits⟩⟩,
    countP_drops_le c gs, fun _ _ _ _ hsplit => exists_begins hsplit⟩

/-- A field is dragged whose id two other fields have when it is dropped: the first of them is moved, and
the second release moves nothing. -/
theorem gestures_safe_staleCopy :
    let head id label : Field.Head := ⟨id, label, none, [], [], none, false⟩
    let a label : Field := .leaf (head "a" label) (.text {})
    let box cs : Field := .group (head "box" "Box") 1 cs
    let stock : FreshIds := fun i => toString i
    let release : Gesture := .release (some (.slot .root)) stock
    let c : Canvas := ⟨⟨[a "Old"]⟩, none⟩
    let gs := [.begin (.field "a") stock, .edit ⟨[box [a "Inner"], a "Outer"]⟩, release, release]
    let m : Moment := ⟨⟨⟨[box [a "Inner"], a "Outer"]⟩, some (.existing (a "Old"))⟩, release⟩
    m ∈ c.moments gs ∧ m.after = ⟨⟨[box [], a "Outer", a "Inner"]⟩, none⟩ ∧
      m.after.count previewId = m.before.count previewId ∧ (c.moments gs).countP (·.drops) ≤ 1 := by
  intro head a box stock release c gs m
  have hsafe := gestures_safe c gs
  have hm : m ∈ c.moments gs := List.mem_cons_of_mem _ (List.mem_cons_of_mem _ (List.mem_cons_self ..))
  refine ⟨hm, rfl, ((hsafe.1 m hm).2 rfl).2 ?_, hsafe.2.1⟩
  rintro target fresh ⟨⟩
  decide

end FormBuilder.Drag
