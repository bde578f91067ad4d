/-
Requests to a library and what they do. A request that is refused leaves the library as it is. One
that is granted does one of six things, each of which is told once with all that it requires; what
holds of requests and of runs of them follows by cases.
-/
import FormBuilder.Workspace.Library
import FormBuilder.Proofs.Except

namespace FormBuilder.Library

variable {σ : Type}

/-! ## Requests -/

/-- A call by an identity, with the fresh id and the moment that it needs. -/
inductive Request where
  | list (who : Identity)
  | create (who : Identity) (id : String) (now : Timestamp)
  | load (who : Identity) (formId : String)
  | save (who : Identity) (f : SavedForm) (now : Timestamp)
  | delete (who : Identity) (formId : String)

namespace Request

def caller : Request → Identity
  | .list who | .create who _ _ | .load who _ | .save who _ _ | .delete who _ => who

/-- The library after a request that is granted, and the forms that the caller is given. -/
def run (s : Store σ) (lib : Library σ) : Request → Except Error (Library σ × List SavedForm)
  | .list who => (lib.list who).map fun fs => (lib, fs)
  | .create who id now => (Library.create who id now).map fun f => (lib, [f])
  | .load who formId => (lib.load who formId).map fun f => (lib, [f])
  | .save who f now => (lib.save s who f now).map fun (lib, f) => (lib, [f])
  | .delete who formId => (lib.delete s who formId).map fun (lib, f) => (lib, [f])

/-- The requests that may change what is stored. -/
def writes : Request → Bool
  | .list _ | .create _ _ _ | .load _ _ => false
  | .save _ _ _ | .delete _ _ => true

/-- The request saves a form of the id. -/
def Saves (id : String) : Request → Prop
  | .save _ f _ => f.id = id
  | .list _ | .create _ _ _ | .load _ _ | .delete _ _ => False

/-- The request saves or deletes a form of the id. -/
def WritesTo (id : String) : Request → Prop
  | .save _ f _ => f.id = id
  | .delete _ formId => formId = id
  | .list _ | .create _ _ _ | .load _ _ => False

end Request

/-! ## Runs -/

/-- A request, and the store as it is at that time: it may accept what it is given or refuse it. -/
structure Turn (σ : Type) where
  store : Store σ
  request : Request

def Turn.run (e : Turn σ) (lib : Library σ) : Except Error (Library σ × List SavedForm) :=
  e.request.run e.store lib

/-- The library after a turn. A request that is refused changes nothing. -/
def after (lib : Library σ) (e : Turn σ) : Library σ :=
  match e.run lib with
  | .ok (lib', _) => lib'
  | .error _ => lib

/-- None of the requests with a property is granted in a run. -/
def NoneGranted (P : Request → Prop) : Library σ → List (Turn σ) → Prop
  | _, [] => True
  | lib, e :: es => (P e.request → ∀ r, e.run lib ≠ .ok r) ∧ NoneGranted P (lib.after e) es

/-! ## The form of an id -/

/-- The form `f` is the first of an id: it stands behind `pre` and before `post`. -/
structure First (id : String) (forms pre : List SavedForm) (f : SavedForm) (post : List SavedForm) :
    Prop where
  split : forms = pre ++ f :: post
  named : f.id = id
  first : ∀ g ∈ pre, g.id ≠ id

theorem First.find? {id : String} {forms pre post : List SavedForm} {f : SavedForm}
    (h : First id forms pre f post) : forms.find? (·.id == id) = some f := by
  rw [List.find?_eq_some_iff_append]
  exact ⟨by simpa using h.named, pre, post, h.split, fun g hg => by simpa using h.first g hg⟩

theorem first_of_form? {w : Workspace} {id : String} {f : SavedForm} (h : w.form? id = some f) :
    ∃ pre post, First id w.forms pre f post := by
  obtain ⟨hid, pre, post, hforms, hpre⟩ := List.find?_eq_some_iff_append.1 h
  exact ⟨pre, post, hforms, by simpa using hid, fun g hg => by simpa using hpre g hg⟩

theorem form?_eq_none_iff {w : Workspace} {id : String} :
    w.form? id = none ↔ ∀ g ∈ w.forms, g.id ≠ id := by
  simp [Workspace.form?, List.find?_eq_none]

theorem putForm_eq_append {f : SavedForm} : ∀ {fs : List SavedForm}, (∀ g ∈ fs, g.id ≠ f.id) →
    putForm f fs = fs ++ [f]
  | [], _ => rfl
  | g :: fs, h => by
    obtain ⟨hg, hfs⟩ := List.forall_mem_cons.1 h
    rw [putForm, if_neg (by simpa using hg), putForm_eq_append hfs]
    rfl

theorem putForm_eq_replace {f old : SavedForm} {post : List SavedForm} (hold : old.id = f.id) :
    ∀ {pre : List SavedForm}, (∀ g ∈ pre, g.id ≠ f.id) →
    putForm f (pre ++ old :: post) = pre ++ f :: post
  | [], _ => by
    rw [List.nil_append, putForm, if_pos (by simpa using hold)]
    rfl
  | g :: pre, h => by
    obtain ⟨hg, hpre⟩ := List.forall_mem_cons.1 h
    rw [List.cons_append, putForm, if_neg (by simpa using hg), putForm_eq_replace hold hpre]
    rfl

theorem First.eraseP {id : String} {forms pre post : List SavedForm} {f : SavedForm}
    (h : First id forms pre f post) : forms.eraseP (·.id == id) = pre ++ post := by
  have hpre : ∀ g ∈ pre, ¬ (g.id == id) = true := fun g hg => by simpa using h.first g hg
  rw [h.split, List.eraseP_append_right _ hpre, List.eraseP_cons_of_pos (by simpa using h.named)]

/-! ## What a granted request does -/

/-- The workspace with other forms. -/
def holding (w : Workspace) (forms : List SavedForm) : Workspace := { w with forms }

/-- What a request does that is granted: it gives forms and changes nothing, or it changes one form
of the caller's organization and the store has accepted the new workspace. -/
inductive Grants (s : Store σ) (lib : Library σ) : Request → Library σ → List SavedForm → Prop where
  | list {who : Identity} (hcan : who.can .formRead = true) :
    Grants s lib (.list who) lib
      (lib.workspace.forms.filter fun f => f.organizationId = who.organizationId)
  | create {who : Identity} {id : String} {now : Timestamp} (hcan : who.can .formCreate = true) :
    Grants s lib (.create who id now) lib [.new id who.organizationId now]
  | load {who : Identity} {id : String} {f : SavedForm} (hcan : who.can .formRead = true)
    (hform : lib.workspace.form? id = some f) (hown : f.organizationId = who.organizationId) :
    Grants s lib (.load who id) lib [f]
  | replace {who : Identity} {f old : SavedForm} {now : Timestamp} {pre post : List SavedForm}
    {state : σ} (hcan : who.can .formUpdate = true) (hown : f.organizationId = who.organizationId)
    (hfirst : First f.id lib.workspace.forms pre old post)
    (hold : old.organizationId = who.organizationId)
    (hkept : s.save lib.store (holding lib.workspace (pre ++ { f with savedAt := now } :: post))
      = .ok state) :
    Grants s lib (.save who f now)
      ⟨holding lib.workspace (pre ++ { f with savedAt := now } :: post), state⟩
      [{ f with savedAt := now }]
  | append {who : Identity} {f : SavedForm} {now : Timestamp} {state : σ}
    (hcan : who.can .formCreate = true) (hown : f.organizationId = who.organizationId)
    (hnew : ∀ g ∈ lib.workspace.forms, g.id ≠ f.id)
    (hkept : s.save lib.store (holding lib.workspace
      (lib.workspace.forms ++ [{ f with savedAt := now }])) = .ok state) :
    Grants s lib (.save who f now)
      ⟨holding lib.workspace (lib.workspace.forms ++ [{ f with savedAt := now }]), state⟩
      [{ f with savedAt := now }]
  | delete {who : Identity} {id : String} {f : SavedForm} {pre post : List SavedForm} {state : σ}
    (hcan : who.can .formDelete = true) (hfirst : First id lib.workspace.forms pre f post)
    (hown : f.organizationId = who.organizationId)
    (hkept : s.save lib.store (holding lib.workspace (pre ++ post)) = .ok state) :
    Grants s lib (.delete who id) ⟨holding lib.workspace (pre ++ post), state⟩ [f]

variable {s : Store σ} {lib lib' : Library σ} {who : Identity}

theorem can_of_require {p : Permission} {u : Unit} (h : require who p = .ok u) : who.can p = true := by
  unfold require at h
  split at h
  · assumption
  · cases h

theorem own_of_sameOrganization {f : SavedForm} {u : Unit} (h : sameOrganization who f = .ok u) :
    f.organizationId = who.organizationId := by
  unfold sameOrganization at h
  split at h
  · assumption
  · cases h

theorem kept_of_commit {w : Workspace} (h : commit s lib w = .ok lib') :
    ∃ state, s.save lib.store w = .ok state ∧ lib' = ⟨w, state⟩ := by
  unfold commit at h
  split at h
  · rename_i state hkept
    cases h
    exact ⟨state, hkept, rfl⟩
  · cases h

theorem grants_of_load {id : String} {f : SavedForm} (h : lib.load who id = .ok f) :
    Grants s lib (.load who id) lib [f] := by
  unfold load at h
  obtain ⟨_, hcan, h⟩ := ok_of_bind h
  split at h
  · cases h
  · rename_i g hform
    obtain ⟨_, hown, h⟩ := ok_of_bind h
    cases h
    exact .load (can_of_require hcan) hform (own_of_sameOrganization hown)

theorem grants_of_save {f g : SavedForm} {now : Timestamp} (h : lib.save s who f now = .ok (lib', g)) :
    Grants s lib (.save who f now) lib' [g] := by
  unfold save at h
  obtain ⟨_, hown, h⟩ := ok_of_bind h
  have hown := own_of_sameOrganization hown
  split at h
  · rename_i old hform
    obtain ⟨_, hcan, h⟩ := ok_of_bind h
    obtain ⟨_, hold, h⟩ := ok_of_bind h
    obtain ⟨stored, hcommit, h⟩ := ok_of_bind h
    cases h
    -- the stored form is overwritten in its place; a new one goes to the end
    obtain ⟨pre, post, hfirst⟩ := first_of_form? hform
    have hput : putForm { f with savedAt := now } lib.workspace.forms
        = pre ++ { f with savedAt := now } :: post := by
      rw [hfirst.split]
      exact putForm_eq_replace (f := { f with savedAt := now }) hfirst.named hfirst.first
    rw [hput] at hcommit
    obtain ⟨state, hkept, rfl⟩ := kept_of_commit hcommit
    exact .replace (can_of_require hcan) hown hfirst (own_of_sameOrganization hold) hkept
  · rename_i hform
    obtain ⟨_, hcan, h⟩ := ok_of_bind h
    obtain ⟨stored, hcommit, h⟩ := ok_of_bind h
    cases h
    have hnew := form?_eq_none_iff.1 hform
    have hput : putForm { f with savedAt := now } lib.workspace.forms
        = lib.workspace.forms ++ [{ f with savedAt := now }] := putForm_eq_append hnew
    rw [hput] at hcommit
    obtain ⟨state, hkept, rfl⟩ := kept_of_commit hcommit
    exact .append (can_of_require hcan) hown hnew hkept

theorem grants_of_delete {id : String} {f : SavedForm} (h : lib.delete s who id = .ok (lib', f)) :
    Grants s lib (.delete who id) lib' [f] := by
  unfold delete at h
  obtain ⟨_, hcan, h⟩ := ok_of_bind h
  split at h
  · cases h
  · rename_i g hform
    obtain ⟨_, hown, h⟩ := ok_of_bind h
    obtain ⟨stored, hcommit, h⟩ := ok_of_bind h
    cases h
    obtain ⟨pre, post, hfirst⟩ := first_of_form? hform
    rw [hfirst.eraseP] at hcommit
    obtain ⟨state, hkept, rfl⟩ := kept_of_commit hcommit
    exact .delete (can_of_require hcan) hfirst (own_of_sameOrganization hown) hkept

/-- A request that is granted does one of six things. -/
theorem grants_of_run {k : Request} {reply : List SavedForm} (h : k.run s lib = .ok (lib', reply)) :
    Grants s lib k lib' reply := by
  cases k with
  | list who =>
    obtain ⟨fs, hlist, h⟩ := ok_of_map h
    obtain ⟨_, hcan, hend⟩ := ok_of_bind hlist
    cases hend
    cases h
    exact .list (can_of_require hcan)
  | create who id now =>
    obtain ⟨f, hcreate, h⟩ := ok_of_map h
    obtain ⟨_, hcan, hend⟩ := ok_of_bind hcreate
    cases hend
    cases h
    exact .create (can_of_require hcan)
  | load who id =>
    obtain ⟨f, hload, h⟩ := ok_of_map h
    cases h
    exact grants_of_load hload
  | save who f now =>
    obtain ⟨⟨stored, g⟩, hsave, h⟩ := ok_of_map h
    cases h
    exact grants_of_save hsave
  | delete who id =>
    obtain ⟨⟨stored, f⟩, hdelete, h⟩ := ok_of_map h
    cases h
    exact grants_of_delete hdelete

/-- A turn leaves the library as it is, or does what its request does when granted. -/
theorem after_cases (lib : Library σ) (e : Turn σ) :
    ((∃ error, e.run lib = .error error) ∧ lib.after e = lib)
      ∨ ∃ reply, e.run lib = .ok (lib.after e, reply) := by
  unfold after
  cases h : e.run lib with
  | error error => exact .inl ⟨⟨error, rfl⟩, rfl⟩
  | ok r => exact .inr ⟨r.2, rfl⟩

end FormBuilder.Library
