/-
A library as forms in order, each under its own id. Where the ids are distinct they stay so in every
run. A form that was saved is given to readers until its id is saved or deleted again, and a form
that was deleted is not found until its id is saved again; requests that are refused in between, and
requests about other ids, do not matter.
-/
import FormBuilder.Proofs.Workspace.Request
import Mathlib.Data.List.Nodup

namespace FormBuilder

/-- No two forms have the same id. -/
def Workspace.DistinctForms (w : Workspace) : Prop := (w.forms.map (·.id)).Nodup

namespace Library

variable {σ : Type} {s : Store σ} {lib lib' : Library σ} {k : Request} {reply : List SavedForm}

/-! ## One request -/

theorem form?_replace {id : String} {forms pre post : List SavedForm} {f old : SavedForm}
    (hfirst : First f.id forms pre old post) (hne : f.id ≠ id) :
    (pre ++ f :: post).find? (·.id == id) = forms.find? (·.id == id) := by
  have hold : old.id ≠ id := fun h => hne (hfirst.named.symm.trans h)
  rw [hfirst.split, List.find?_append, List.find?_append,
    List.find?_cons_of_neg (by simpa using hne), List.find?_cons_of_neg (by simpa using hold)]

/-- A request leaves the form of an id as it is, unless it saves or deletes a form of the id. -/
theorem Grants.form?_other {id : String} (h : Grants s lib k lib' reply) (hother : ¬ k.WritesTo id) :
    lib'.workspace.form? id = lib.workspace.form? id := by
  cases h with
  | list | create | load => rfl
  | @replace who f old now pre post state _ _ hfirst =>
    have hne : f.id ≠ id := hother
    exact form?_replace (f := { f with savedAt := now }) hfirst hne
  | @append who f now state _ _ hnew =>
    have hne : f.id ≠ id := hother
    show (lib.workspace.forms ++ [{ f with savedAt := now }]).find? (fun g : SavedForm => g.id == id)
      = _
    rw [List.find?_append, List.find?_cons_of_neg (by simpa using hne), List.find?_nil,
      Option.or_none]
    rfl
  | @delete who formId f pre post state _ hfirst =>
    have hne : formId ≠ id := hother
    have hf : f.id ≠ id := fun h => hne (hfirst.named.symm.trans h)
    show (pre ++ post).find? (fun g : SavedForm => g.id == id)
      = lib.workspace.forms.find? fun g => g.id == id
    rw [hfirst.split, List.find?_append, List.find?_append, List.find?_cons_of_neg (by simpa using hf)]

/-- Only a save brings in a form of an id. -/
theorem Grants.form?_missing {id : String} (h : Grants s lib k lib' reply) (hother : ¬ k.Saves id)
    (hmissing : lib.workspace.form? id = none) : lib'.workspace.form? id = none := by
  cases h with
  | list | create | load => exact hmissing
  | replace hcan hown hfirst hold hkept =>
    exact ((Grants.replace hcan hown hfirst hold hkept).form?_other hother).trans hmissing
  | append hcan hown hnew hkept =>
    exact ((Grants.append hcan hown hnew hkept).form?_other hother).trans hmissing
  | @delete who formId f pre post state _ hfirst =>
    rw [form?_eq_none_iff] at hmissing ⊢
    intro g hg
    refine hmissing g ?_
    rw [hfirst.split]
    rcases List.mem_append.1 hg with hg | hg
    · exact List.mem_append_left _ hg
    · exact List.mem_append_right _ (List.mem_cons_of_mem _ hg)

/-- A request keeps the ids of the forms distinct. -/
theorem Grants.distinctForms (h : Grants s lib k lib' reply) (hlib : lib.workspace.DistinctForms) :
    lib'.workspace.DistinctForms := by
  unfold Workspace.DistinctForms at hlib ⊢
  cases h with
  | list | create | load => exact hlib
  | @replace who f old now pre post state _ _ hfirst =>
    rw [hfirst.split] at hlib
    simpa [holding, hfirst.named] using hlib
  | @append who f now state _ _ hnew =>
    show ((lib.workspace.forms ++ [{ f with savedAt := now }]).map SavedForm.id).Nodup
    rw [List.map_append, List.nodup_append]
    refine ⟨hlib, List.nodup_singleton _, ?_⟩
    rintro _ hid _ hsaved rfl
    obtain ⟨g, hg, hgid⟩ := List.mem_map.1 hid
    exact hnew g hg (hgid.trans (List.mem_singleton.1 hsaved))
  | @delete who id f pre post state _ hfirst =>
    rw [hfirst.split] at hlib
    refine hlib.sublist (List.Sublist.map _ ?_)
    exact (List.sublist_cons_self f post).append_left pre

/-! ## Runs -/

theorem form?_after {id : String} {e : Turn σ} (h : e.request.WritesTo id → ∀ r, e.run lib ≠ .ok r) :
    (lib.after e).workspace.form? id = lib.workspace.form? id := by
  rcases after_cases lib e with ⟨-, hsame⟩ | ⟨reply, hrun⟩
  · rw [hsame]
  · exact (grants_of_run hrun).form?_other fun hwrites => h hwrites _ hrun

/-- The form of an id is the same as long as nobody saves or deletes a form of the id. -/
theorem form?_run {id : String} : ∀ {es : List (Turn σ)} {lib : Library σ},
    NoneGranted (Request.WritesTo id) lib es →
    (es.foldl after lib).workspace.form? id = lib.workspace.form? id
  | [], _, _ => rfl
  | _ :: _, _, ⟨hfirst, hrest⟩ => (form?_run hrest).trans (form?_after hfirst)

theorem missing_after {id : String} {e : Turn σ} (h : e.request.Saves id → ∀ r, e.run lib ≠ .ok r)
    (hmissing : lib.workspace.form? id = none) : (lib.after e).workspace.form? id = none := by
  rcases after_cases lib e with ⟨-, hsame⟩ | ⟨reply, hrun⟩
  · rw [hsame]
    exact hmissing
  · exact (grants_of_run hrun).form?_missing (fun hsaves => h hsaves _ hrun) hmissing

/-- An id without a form has none as long as nobody saves a form of the id. -/
theorem missing_run {id : String} : ∀ (es : List (Turn σ)) (lib : Library σ),
    NoneGranted (Request.Saves id) lib es → lib.workspace.form? id = none →
    (es.foldl after lib).workspace.form? id = none
  | [], _, _, h => h
  | e :: es, lib, ⟨hfirst, hrest⟩, h => missing_run es (lib.after e) hrest (missing_after hfirst h)

theorem distinctForms_run : ∀ (es : List (Turn σ)) (lib : Library σ),
    lib.workspace.DistinctForms → (es.foldl after lib).workspace.DistinctForms
  | [], _, h => h
  | e :: es, lib, h => by
    refine distinctForms_run es (lib.after e) ?_
    rcases after_cases lib e with ⟨-, hsame⟩ | ⟨reply, hrun⟩
    · rw [hsame]
      exact h
    · exact (grants_of_run hrun).distinctForms h

/-! ## What readers are given -/

/-- Until somebody saves or deletes a form of the id of `f`, readers of its organization are given
`f`. -/
def Gives (lib : Library σ) (f : SavedForm) : Prop :=
  ∀ later : List (Turn σ), NoneGranted (Request.WritesTo f.id) lib later → ∀ reader : Identity,
    reader.organizationId = f.organizationId → reader.can .formRead = true →
    (later.foldl after lib).load reader f.id = .ok f

/-- Until somebody saves a form of the id, nobody finds one. -/
def Lacks (lib : Library σ) (id : String) : Prop :=
  ∀ later : List (Turn σ), NoneGranted (Request.Saves id) lib later → ∀ who : Identity,
    (who.can .formRead = true → (later.foldl after lib).load who id = .error (.formNotFound id))
      ∧ (who.can .formDelete = true → ∀ s : Store σ,
        (later.foldl after lib).delete s who id = .error (.formNotFound id))

theorem load_eq_ok {who : Identity} {id : String} {f : SavedForm} (hcan : who.can .formRead = true)
    (hform : lib.workspace.form? id = some f) (hown : f.organizationId = who.organizationId) :
    lib.load who id = .ok f := by
  unfold load require
  rw [if_pos hcan, hform]
  show (sameOrganization who f).bind (fun _ => .ok f) = .ok f
  unfold sameOrganization
  rw [if_pos hown]
  rfl

theorem load_missing {who : Identity} {id : String} (hcan : who.can .formRead = true)
    (hmissing : lib.workspace.form? id = none) : lib.load who id = .error (.formNotFound id) := by
  unfold load require
  rw [if_pos hcan, hmissing]
  rfl

theorem delete_missing {who : Identity} {id : String} (hcan : who.can .formDelete = true)
    (hmissing : lib.workspace.form? id = none) :
    lib.delete s who id = .error (.formNotFound id) := by
  unfold delete require
  rw [if_pos hcan, hmissing]
  rfl

theorem gives_of_form? {f : SavedForm} (h : lib.workspace.form? f.id = some f) : lib.Gives f := by
  intro later hlater reader hown hcan
  exact load_eq_ok hcan ((form?_run hlater).trans h) hown.symm

theorem lacks_of_missing {id : String} (h : lib.workspace.form? id = none) : lib.Lacks id := by
  intro later hlater who
  have hmissing := missing_run later lib hlater h
  exact ⟨fun hcan => load_missing hcan hmissing, fun hcan _ => delete_missing hcan hmissing⟩

/-! ## Forms under their ids -/

/-- The form `f` stands in the place of the form of its id, or at the end where there was none, and
all other forms stand where they stood. -/
def PutUnderId (f : SavedForm) (forms forms' : List SavedForm) : Prop :=
  (∃ pre old post, First f.id forms pre old post ∧ forms' = pre ++ f :: post)
    ∨ (∀ g ∈ forms, g.id ≠ f.id) ∧ forms' = forms ++ [f]

theorem PutUnderId.find? {f : SavedForm} {forms forms' : List SavedForm}
    (h : PutUnderId f forms forms') : forms'.find? (·.id == f.id) = some f := by
  rcases h with ⟨pre, old, post, hfirst, rfl⟩ | ⟨hnew, rfl⟩
  · exact First.find? ⟨rfl, rfl, hfirst.first⟩
  · exact First.find? ⟨rfl, rfl, hnew⟩

theorem save_spec_keyed {who : Identity} {f g : SavedForm} {now : Timestamp}
    (h : lib.save s who f now = .ok (lib', g)) : g = { f with savedAt := now }
      ∧ PutUnderId g lib.workspace.forms lib'.workspace.forms := by
  cases grants_of_save h with
  | @replace _ _ old _ pre post _ _ _ hfirst => exact ⟨rfl, .inl ⟨pre, old, post, hfirst, rfl⟩⟩
  | append _ _ hnew => exact ⟨rfl, .inr ⟨hnew, rfl⟩⟩

theorem delete_spec_keyed {who : Identity} {id : String} {g : SavedForm}
    (h : lib.delete s who id = .ok (lib', g)) :
    ∃ pre post, First id lib.workspace.forms pre g post ∧ lib'.workspace.forms = pre ++ post := by
  cases grants_of_delete h with
  | @delete _ _ _ pre post _ _ hfirst => exact ⟨pre, post, hfirst, rfl⟩

/-- Where ids are distinct, no form of an id is left when its form is taken out. -/
theorem First.missing {id : String} {forms pre post : List SavedForm} {f : SavedForm}
    (h : First id forms pre f post) (hdistinct : (forms.map (·.id)).Nodup) :
    ∀ g ∈ pre ++ post, g.id ≠ id := by
  rw [h.split, List.map_append, List.map_cons, List.nodup_append, List.nodup_cons, h.named] at hdistinct
  obtain ⟨-, ⟨hpost, -⟩, -⟩ := hdistinct
  intro g hg
  rcases List.mem_append.1 hg with hg | hg
  · exact h.first g hg
  · exact fun hid => hpost (List.mem_map.2 ⟨g, hg, hid⟩)

/-- A library whose forms have distinct ids behaves as an ordered map from ids to forms. In every
state that a run of requests reaches the ids are distinct. A save puts the form, with its new moment,
under its id, and readers of the organization are given this form until the id is saved or deleted
again. A deletion takes the form of the id out, and nobody finds one until the id is saved again. A
list shows the forms of the reader's organization in their order. -/
theorem forms_keyed_by_id {lib : Library σ} (hdistinct : lib.workspace.DistinctForms)
    (es : List (Turn σ)) :
    let reached := es.foldl after lib
    reached.workspace.DistinctForms
      ∧ (∀ s who f now saved g, reached.save s who f now = .ok (saved, g) →
        g = { f with savedAt := now }
          ∧ PutUnderId g reached.workspace.forms saved.workspace.forms ∧ saved.Gives g)
      ∧ (∀ s who id deleted g, reached.delete s who id = .ok (deleted, g) →
        (∃ pre post, First id reached.workspace.forms pre g post
          ∧ deleted.workspace.forms = pre ++ post) ∧ deleted.Lacks id)
      ∧ ∀ who : Identity, who.can .formRead = true → reached.list who
        = .ok (reached.workspace.forms.filter fun f => f.organizationId = who.organizationId) := by
  intro reached
  have hreached : reached.workspace.DistinctForms := distinctForms_run es lib hdistinct
  refine ⟨hreached, ?_, ?_, ?_⟩
  · intro s who f now saved g hsave
    obtain ⟨hstamped, hput⟩ := save_spec_keyed hsave
    exact ⟨hstamped, hput, gives_of_form? hput.find?⟩
  · intro s who id deleted g hdelete
    obtain ⟨pre, post, hfirst, hforms⟩ := delete_spec_keyed hdelete
    refine ⟨⟨pre, post, hfirst, hforms⟩, lacks_of_missing (form?_eq_none_iff.2 ?_)⟩
    rw [hforms]
    exact hfirst.missing hreached
  · intro who hcan
    unfold list require
    rw [if_pos hcan]
    rfl

theorem forms_keyed_twoForms :
    let editor : Identity := ⟨"user_default", "org_default", [.formRead, .formUpdate, .formDelete]⟩
    let f := SavedForm.new "f-2" "org_default" ⟨0, 0, 0⟩
    let lib : Library Memory :=
      ⟨holding .initial [.new "f-1" "org_default" ⟨0, 0, 0⟩, f], ⟨none, 0⟩⟩
    let es := [Turn.mk .memory (.delete editor "f-1"), .mk .memory (.delete editor "f-1")]
    let reached := es.foldl after lib
    lib.workspace.DistinctForms ∧ reached.workspace.forms = [f]
      ∧ ∃ saved, reached.save .memory editor f ⟨1, 0, 0⟩ = .ok (saved, { f with savedAt := ⟨1, 0, 0⟩ })
        ∧ saved.Gives { f with savedAt := ⟨1, 0, 0⟩ } := by
  intro editor f lib es reached
  have hdistinct : lib.workspace.DistinctForms := by
    unfold Workspace.DistinctForms
    decide
  obtain ⟨-, hsave, -⟩ := forms_keyed_by_id hdistinct es
  obtain ⟨saved, hsaved⟩ :
      ∃ saved, reached.save .memory editor f ⟨1, 0, 0⟩ = .ok (saved, { f with savedAt := ⟨1, 0, 0⟩ }) :=
    ⟨_, rfl⟩
  exact ⟨hdistinct, rfl, saved, hsaved, (hsave _ _ _ _ _ _ hsaved).2.2⟩

end Library

end FormBuilder
