/-
Validation of a page checks what a respondent sees of it and nothing else. The pages split the
top-level fields, the views go down from a field into its slots, and the visit of a tree comes by every
field: the three agree on what is checked and in which order, so no field of the page is skipped that is
seen, and none that is not seen keeps a respondent from going on.
-/
import FormBuilder.Proofs.InPlace
import FormBuilder.Proofs.Run
import FormBuilder.Proofs.State
import FormBuilder.Proofs.Tree.Trail

namespace FormBuilder

/-! ## What is drawn -/

/-- The field is visible, and its type is one that is drawn. -/
def FormState.draws (s : FormState) (f : Field) : Bool :=
  s.isVisible f.id && f.type != .pageBreak && f.type != .progressTracker

theorem FieldType.renderKind_eq_structural (t : FieldType) :
    t.renderKind = .structural ↔ t = .pageBreak ∨ t = .progressTracker := by
  cases t <;> decide

namespace FormState

variable {s : FormState} {f : Field}

theorem shown?_of_draws (h : s.draws f = true) :
    ∃ st, s.shown? f = some st ∧ s.value? f.id = st.value := by
  simp only [draws, Bool.and_eq_true, bne_iff_ne] at h
  obtain ⟨⟨hvisible, hbreak⟩, htracker⟩ := h
  have hkind : f.type.renderKind ≠ .structural := fun heq =>
    (f.type.renderKind_eq_structural.1 heq).elim hbreak htracker
  rw [isVisible] at hvisible
  cases hget : s.get? f.id with
  | none => simp [hget] at hvisible
  | some st =>
    rw [hget] at hvisible
    refine ⟨st, ?_, by rw [value?, hget]; rfl⟩
    rw [shown?, hget, Option.filter_some, if_pos]
    simpa [hkind] using hvisible

theorem shown?_of_not_draws (h : s.draws f = false) : s.shown? f = none := by
  rw [shown?, Option.filter_eq_none_iff]
  intro st hget hshown
  simp only [Bool.and_eq_true, bne_iff_ne] at hshown
  have hdraws : s.draws f = true := by
    simp only [draws, isVisible, hget, Bool.and_eq_true, bne_iff_ne]
    exact ⟨⟨hshown.1, fun heq => hshown.2 (by rw [heq]; rfl)⟩, fun heq => hshown.2 (by rw [heq]; rfl)⟩
  rw [h] at hdraws
  cases hdraws

end FormState

/-! ## What is seen -/

def Slot.isVariantB : Slot → Bool
  | .variant _ .b => true
  | _ => false

/-- A respondent sees the field where the trail ends: it is drawn and so is every field around it, and
the trail does not lead through a second variant. -/
def Tree.Trail.isSeen (s : FormState) (w : Tree.Trail) : Bool :=
  w.path.all fun e => s.draws e.field && !e.slot.isVariantB

/-- What is wrong with the values of those fields that are seen. -/
def issuesSeen (s : FormState) (ws : List Tree.Trail) : List Issue :=
  (ws.filter (·.isSeen s)).flatMap fun w => validateField w.entry.field (s.value? w.entry.field.id)

theorem Tree.Trail.isSeen_under (s : FormState) (e : Tree.Entry) (w : Tree.Trail) :
    (w.under e).isSeen s = (s.draws e.field && !e.slot.isVariantB && w.isSeen s) := rfl

theorem Tree.Trail.isSeen_of_variantB {s : FormState} {w : Tree.Trail}
    (h : w.top.slot.isVariantB = true) : w.isSeen s = false := by
  rw [isSeen, List.all_eq_false]
  exact ⟨w.top, w.top_mem_path, by simp [h]⟩

theorem issuesSeen_append (s : FormState) (ws vs : List Tree.Trail) :
    issuesSeen s (ws ++ vs) = issuesSeen s ws ++ issuesSeen s vs := by
  rw [issuesSeen, List.filter_append, List.flatMap_append]
  rfl

theorem issuesSeen_of_unseen {s : FormState} {ws : List Tree.Trail} (h : ∀ w ∈ ws, w.isSeen s = false) :
    issuesSeen s ws = [] := by
  rw [issuesSeen, List.filter_eq_nil_iff.2 fun w hw => by simp [h w hw]]
  rfl

/-! ## Views and trails -/

namespace Field

variable {s : FormState} {f : Field}

/-- What validation finds at a field and inside it. -/
def issues (s : FormState) (f : Field) : List Issue :=
  if s.draws f then validateField f (s.value? f.id) ++ validateSlots (slotViews s f) else []

theorem validateViews_visibleViews (s : FormState) (fs : List Field) :
    validateViews (visibleViews s fs) = fs.flatMap (issues s) := by
  induction fs with
  | nil => rfl
  | cons f fs ih =>
    rw [visibleViews, List.flatMap_cons, ← ih, issues]
    cases hdraws : s.draws f with
    | false =>
      rw [FormState.shown?_of_not_draws hdraws]
      rfl
    | true =>
      obtain ⟨st, hshown, hvalue⟩ := FormState.shown?_of_draws hdraws
      rw [hshown, hvalue]
      rfl

/-- The trails that begin at a field are seen only if it is drawn. -/
theorem issuesSeen_trailsAt {slot : Slot} (hslot : slot.isVariantB = false) (index : Nat)
    (hinside : issuesSeen s f.trailsInside = validateSlots (slotViews s f)) :
    issuesSeen s (trailsAt slot index f) = f.issues s := by
  rw [issues]
  cases hdraws : s.draws f with
  | false =>
    -- the field is on every trail that begins at it
    refine issuesSeen_of_unseen fun w hw => ?_
    rcases List.mem_cons.1 hw with rfl | hw
    · simp [Tree.Trail.isSeen, Tree.Trail.path, hdraws]
    · obtain ⟨v, -, rfl⟩ := List.mem_map.1 hw
      rw [Tree.Trail.isSeen_under, hdraws, Bool.false_and, Bool.false_and]
  | true =>
    have hself : (⟨[], ⟨slot, index, f⟩⟩ : Tree.Trail).isSeen s = true := by
      simp [Tree.Trail.isSeen, Tree.Trail.path, hdraws, hslot]
    have hseen : (fun w : Tree.Trail => w.isSeen s) ∘ .under ⟨slot, index, f⟩ = (·.isSeen s) := by
      funext w
      rw [Function.comp_apply, Tree.Trail.isSeen_under, hdraws, hslot]
      rfl
    rw [issuesSeen, trailsAt, List.filter_cons_of_pos hself, List.flatMap_cons, List.filter_map, hseen,
      List.flatMap_map]
    exact congrArg (validateField f (s.value? f.id) ++ ·) hinside

mutual

theorem issuesSeen_inside (s : FormState) : ∀ f : Field,
    issuesSeen s f.trailsInside = validateSlots (slotViews s f)
  | .leaf _ _ => rfl
  | .group h _ cs | .repeater h _ cs => by
    rw [trailsInside, slotViews, issuesSeen_from s (.children h.id) rfl 0 cs, validateSlots,
      validateSlots, List.append_nil]
  | .tabs h ts => by
    rw [trailsInside, slotViews, issuesSeen_tabs s h.id ts]
  | .abTest h a b => by
    have hb : ∀ w ∈ trailsFrom (.variant h.id .b) 0 b, w.isSeen s = false := fun w hw =>
      Tree.Trail.isSeen_of_variantB (by rw [slot_of_mem_trailsFrom hw]; rfl)
    rw [trailsInside, slotViews, issuesSeen_append, issuesSeen_of_unseen hb,
      issuesSeen_from s (.variant h.id .a) rfl 0 a, validateSlots, validateSlots]

theorem issuesSeen_from (s : FormState) (slot : Slot) (hslot : slot.isVariantB = false) :
    ∀ (index : Nat) (fs : List Field),
      issuesSeen s (trailsFrom slot index fs) = validateViews (visibleViews s fs)
  | _, [] => rfl
  | index, f :: fs => by
    have hfirst := issuesSeen_trailsAt hslot index (issuesSeen_inside s f)
    have hrest := issuesSeen_from s slot hslot (index + 1) fs
    rw [validateViews_visibleViews] at hrest ⊢
    rw [List.flatMap_cons, ← hrest, ← hfirst, ← issuesSeen_append]
    rfl

theorem issuesSeen_tabs (s : FormState) (id : String) : ∀ ts : List (Tab Field),
    issuesSeen s (trailsTabs id ts) = validateSlots (tabViews s id ts)
  | [] => rfl
  | ⟨tab, label, cs⟩ :: ts => by
    rw [trailsTabs, tabViews, issuesSeen_append, issuesSeen_from s (.tab id tab) rfl 0 cs,
      issuesSeen_tabs s id ts, validateSlots]

end

end Field

/-! ## Pages -/

namespace Run

/-- All three fields are demanded, but only that of the first variant is seen on the first page. -/
example :
    let head id : Field.Head := ⟨id, "", none, [], [], none, false⟩
    let demanded id : Field := .leaf (head id) (.text { required := true })
    let t : Tree := ⟨[.abTest (head "test") [demanded "a"] [demanded "b"],
      .leaf (head "break") .pageBreak, demanded "c"]⟩
    (start ⟨"f", "o", t, .initial, ⟨0, 0, 0⟩⟩ []).issues = [.required "a"] := by
  rfl

end Run

end FormBuilder
