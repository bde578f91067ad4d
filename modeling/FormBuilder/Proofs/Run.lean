/-
A run of a form never goes stale: whatever is entered, whichever pages are visited and however the
form is edited meanwhile, the state is the one that the present tree makes of the present inputs, and
the respondent stands on a page of that tree. A step tells what it does to each of the four parts of
a run; what a whole run keeps follows by induction on its steps.
-/
import FormBuilder.Run
import FormBuilder.Proofs.Page
import FormBuilder.Proofs.State.Reads
import Mathlib.Data.List.Induction

namespace FormBuilder

/-! ## Pages -/

theorem Tree.count_pagination_pos (t : Tree) : 0 < t.pagination.count :=
  List.length_pos_of_ne_nil (Page.split_ne_nil firstStepLabel t.fields)

namespace Pagination

variable {p : Pagination} {current : Nat} {page : Page} {shown : Progress}

/-- Progress is shown of the page that the respondent stands on. -/
theorem progress_of_page? (hpage : p.page? current = some page)
    (hshown : p.progress? current = some shown) : shown = ⟨current, p.count, page.label⟩ := by
  obtain ⟨hlt, hget⟩ := List.getElem?_eq_some_iff.1 hpage
  have hstep : min current (p.count - 1) = current := Nat.min_eq_left (Nat.le_sub_one_of_lt hlt)
  have hlabel : p.stepLabels[current]? = some page.label := by
    rw [stepLabels, List.getElem?_append_left (by simpa using hlt), List.getElem?_map]
    exact congrArg (Option.map (·.label)) hpage
  rw [progress?] at hshown
  split at hshown
  · simpa [hstep, hlabel] using hshown.symm
  · cases hshown

end Pagination

/-! ## Navigation -/

namespace Navigator

/-- The navigator stands on one of `pages` pages. -/
structure Among (pages : Nat) (n : Navigator) : Prop where
  count : n.pages = pages
  current : n.current < pages

variable {pages pages' : Nat} {n : Navigator}

theorem among_ofPages (h : 0 < pages) : (ofPages pages).Among pages where
  count := Nat.max_eq_left h
  current := h

theorem Among.next (h : n.Among pages) : n.next.Among pages := by
  unfold Navigator.next
  split
  · rename_i hcan
    have hlt : n.current + 1 < n.pages := by simpa [canGoNext] using hcan
    exact ⟨h.count, h.count ▸ hlt⟩
  · exact h

theorem Among.previous (h : n.Among pages) : n.previous.Among pages :=
  ⟨h.count, Nat.lt_of_le_of_lt (Nat.sub_le ..) h.current⟩

/-- Wherever the respondent stood, the new number of pages is the one that counts. -/
theorem Among.resize (h : n.Among pages) (hpos : 0 < pages') :
    (n.resize pages').Among pages' := by
  unfold Navigator.resize
  rw [Nat.max_eq_left hpos]
  split
  · rename_i heq
    exact ⟨heq.symm, by rw [heq, h.count]; exact h.current⟩
  · exact among_ofPages hpos

end Navigator

namespace Run

/-! ## Steps -/

/-- What a respondent does, or an author who edits the form meanwhile. -/
inductive Step where
  | enter (id : String) (v : Value)
  | apply (c : ValueChange)
  | reload (t : Tree)
  | next
  | previous
  | nextValidated

namespace Step

def run (r : Run) : Step → Run
  | .enter id v => r.enter id v
  | .apply c => r.apply c
  | .reload t => r.reload t
  | .next => r.next
  | .previous => r.previous
  | .nextValidated =>
    match r.nextValidated with
    | .ok (r', _) => r'
    | .error _ => r

/-- The field and the value that a step enters, if it enters one. -/
def entry? : Step → Option (String × Value)
  | .enter id v => some (id, v)
  | .apply c => some (c.fieldId, c.value)
  | _ => none

def reloaded? : Step → Option Tree
  | .reload t => some t
  | _ => none

end Step

/-- The run after some steps. -/
def after (r : Run) (steps : List Step) : Run := steps.foldl Step.run r

/-- The last value that is entered for a field. -/
def lastEntered? (id : String) (steps : List Step) : Option Value :=
  (steps.filterMap Step.entry?).reverse.lookup id

/-- The last tree that is loaded. -/
def lastReloaded? (steps : List Step) : Option Tree :=
  (steps.filterMap Step.reloaded?).getLast?

theorem lastEntered?_concat (id : String) (steps : List Step) (s : Step) :
    lastEntered? id (steps ++ [s]) = (s.entry?.toList.lookup id).or (lastEntered? id steps) := by
  have hentries : (steps ++ [s]).filterMap Step.entry?
      = steps.filterMap Step.entry? ++ s.entry?.toList := by
    rw [List.filterMap_append]
    cases h : s.entry? <;> simp [h]
  rw [lastEntered?, hentries, List.reverse_append, List.lookup_append]
  cases s.entry? <;> rfl

theorem lastReloaded?_concat (steps : List Step) (s : Step) :
    lastReloaded? (steps ++ [s]) = s.reloaded?.or (lastReloaded? steps) := by
  rw [lastReloaded?, List.filterMap_append]
  cases h : s.reloaded? <;> simp [h, lastReloaded?]

/-! ## What one step does -/

/-- The state is the one of the present tree and inputs, and the respondent stands on one of its
pages. -/
structure UpToDate (r : Run) : Prop where
  state : r.state = r.tree.evaluate r.inputs
  navigator : r.navigator.Among r.tree.pagination.count

theorem upToDate_start (f : SavedForm) (params : QueryParams) : (start f params).UpToDate where
  state := rfl
  navigator := Navigator.among_ofPages f.tree.count_pagination_pos

theorem UpToDate.next {r : Run} (h : r.UpToDate) : r.next.UpToDate :=
  ⟨h.state, h.navigator.next⟩

/-- A step to the next page with validation stays or goes there. -/
theorem run_nextValidated (r : Run) :
    Step.run r .nextValidated = r ∨ Step.run r .nextValidated = r.next := by
  unfold Step.run nextValidated
  cases r.issues.isEmpty with
  | true => exact .inr rfl
  | false => exact .inl rfl

theorem UpToDate.step {r : Run} (h : r.UpToDate) (s : Step) : (s.run r).UpToDate := by
  cases s with
  | enter id v => exact ⟨rfl, h.navigator⟩
  | apply c => exact ⟨rfl, h.navigator⟩
  | reload t => exact ⟨rfl, h.navigator.resize t.count_pagination_pos⟩
  | next => exact h.next
  | previous => exact ⟨h.state, h.navigator.previous⟩
  | nextValidated =>
    rcases run_nextValidated r with heq | heq <;> rw [heq]
    · exact h
    · exact h.next

theorem tree_step (r : Run) (s : Step) : (s.run r).tree = s.reloaded?.getD r.tree := by
  cases s with
  | nextValidated => rcases run_nextValidated r with heq | heq <;> rw [heq] <;> rfl
  | _ => rfl

theorem get?_inputs_step (r : Run) (s : Step) (id : String) :
    (s.run r).inputs.get? id
      = (s.entry?.toList.lookup id).or (r.inputs.get? id) := by
  have hput : ∀ key v, (r.inputs.put key v).get? id
      = ([(key, v)].lookup id).or (r.inputs.get? id) := fun key v => by
    rw [Table.get?_put]
    by_cases hid : id = key
    · simp [hid]
    · have hbeq : (id == key) = false := by simpa using hid
      simp [hid, hbeq, List.lookup_cons]
  cases s with
  | enter key v => exact hput key v
  | apply c => exact hput c.fieldId c.value
  | nextValidated => rcases run_nextValidated r with heq | heq <;> rw [heq] <;> rfl
  | _ => rfl

/-! ## What a run of steps does -/

theorem after_append (r : Run) (steps more : List Step) :
    r.after (steps ++ more) = (r.after steps).after more :=
  List.foldl_append

theorem UpToDate.after {r : Run} (h : r.UpToDate) (steps : List Step) :
    (r.after steps).UpToDate := by
  induction steps generalizing r with
  | nil => exact h
  | cons s steps ih => exact ih (h.step s)

theorem tree_after (r : Run) (steps : List Step) :
    (r.after steps).tree = (lastReloaded? steps).getD r.tree := by
  induction steps using List.reverseRecOn with
  | nil => rfl
  | append_singleton steps s ih =>
    rw [after_append]
    refine (tree_step _ s).trans ?_
    rw [ih, lastReloaded?_concat]
    cases s.reloaded? <;> rfl

theorem get?_inputs_after (r : Run) (steps : List Step) (id : String) :
    (r.after steps).inputs.get? id = (lastEntered? id steps).or (r.inputs.get? id) := by
  induction steps using List.reverseRecOn with
  | nil => rfl
  | append_singleton steps s ih =>
    rw [after_append]
    refine (get?_inputs_step _ s id).trans ?_
    rw [ih, lastEntered?_concat, Option.or_assoc]

/-! ## Runs of a form -/

/-- However a form is opened, filled in and edited meanwhile: the tree is the one that was loaded
last; an input has the value that was entered for it last, or else the one it was opened with; the
state is the one of this tree and these inputs, and so the same as in any other run of this tree with
the same inputs; and the respondent stands on a page of this tree, of which progress tells if it is
shown. -/
theorem after_start_inStep (f : SavedForm) (params : QueryParams) (steps : List Step) :
    let r := (start f params).after steps
    r.tree = (lastReloaded? steps).getD f.tree ∧
    (∀ id, r.inputs.get? id
      = (lastEntered? id steps).or ((seed f.tree f.settings params).get? id)) ∧
    r.state = r.tree.evaluate r.inputs ∧
    (∀ (g : SavedForm) (others : QueryParams) (more : List Step),
      let q := (start g others).after more
      q.tree = r.tree → (∀ id, q.inputs.get? id = r.inputs.get? id) → q.state = r.state) ∧
    r.navigator.pages = r.tree.pagination.count ∧
    r.navigator.current < r.navigator.pages ∧
    ∃ page, r.tree.pagination.page? r.navigator.current = some page ∧
      ∀ shown, r.progress? = some shown →
        shown.step = r.navigator.current ∧ shown.label = page.label := by
  intro r
  -- all of it follows from the run being up to date, which every step keeps
  have hr : r.UpToDate := (upToDate_start f params).after steps
  have hlt : r.navigator.current < r.tree.pagination.count := hr.navigator.current
  refine ⟨tree_after _ steps, get?_inputs_after _ steps, hr.state, ?_, hr.navigator.count,
    hr.navigator.count ▸ hlt, r.tree.pagination.pages[r.navigator.current],
    List.getElem?_eq_getElem hlt, ?_⟩
  · intro g others more q htree hinputs
    have hq : q.UpToDate := (upToDate_start g others).after more
    rw [hq.state, hr.state, htree, Tree.evaluate_congr hinputs]
  · intro shown hshown
    rw [Pagination.progress_of_page? (List.getElem?_eq_getElem hlt) hshown]
    exact ⟨rfl, rfl⟩

/-- Two pages with a tracker on the first one: a name that starts as Ada, and behind the break a
text that repeats it. -/
def greetingForm : SavedForm :=
  let head id label value : Field.Head := ⟨id, label, value, [], [], none, false⟩
  ⟨"f", "o", ⟨[.leaf (head "name" "Name" (some (.text "Ada"))) (.text {}),
    .leaf (head "steps" "Steps" none) .progressTracker,
    .leaf (head "break" "Greeting" none) .pageBreak,
    .leaf (head "again" "Again" none) (.calculated { formula := "\x7bname" })]⟩, .initial, ⟨0, 0, 0⟩⟩

/-- Two inputs entered in either order give the same state; who stands on the second page when the
break is taken out goes on at the first. -/
theorem after_start_inStep_greetingForm :
    let bob : Step := .enter "name" (.text "Bob")
    let note : Step := .apply ⟨"note", .text "hello"⟩
    let r := (start greetingForm []).after [bob, .next, note]
    let q := (start greetingForm []).after [note, bob]
    r.progress? = some ⟨1, 2, "Greeting"⟩ ∧ q.state = r.state ∧
      (r.after [.reload ⟨greetingForm.tree.fields.take 2⟩]).navigator = ⟨0, 1⟩ := by
  intro bob note r q
  have hr := after_start_inStep greetingForm [] [bob, .next, note]
  have hq := after_start_inStep greetingForm [] [note, bob]
  refine ⟨rfl, hr.2.2.2.1 greetingForm [] [note, bob] rfl fun id => ?_, rfl⟩
  rw [hr.2.1, hq.2.1]
  by_cases hname : id = "name"
  · subst hname; rfl
  · have hbeq : (id == "name") = false := by simpa using hname
    have hnote : lastEntered? id [note, bob]
        = [("name", Value.text "Bob"), ("note", Value.text "hello")].lookup id := rfl
    have hbob : lastEntered? id [bob, .next, note]
        = [("note", Value.text "hello"), ("name", Value.text "Bob")].lookup id := rfl
    rw [hnote, hbob]
    simp [List.lookup_cons, hbeq]

end Run

end FormBuilder
