/-
Opening a library again on the file that it was saved to. Every run of calls keeps the workspace one
that a file can hold, and a workspace that was accepted is read from its file as it was, unless
arrays and objects are nested too deep in it: writing has no limit, reading has one.
-/
import FormBuilder.Workspace.Library
import FormBuilder.Proofs.Workspace.Json
import FormBuilder.Proofs.Field.Nested
import FormBuilder.Proofs.Field.Reading
import FormBuilder.Proofs.Except

namespace FormBuilder

open Json (required orElse list?)

/-! ## What is read from a file -/

theorem Timestamp.valid_of_ofJson? {j : Json} {t : Timestamp} (h : ofJson? j = some t) :
    t.Valid := by
  unfold ofJson? at h
  obtain ⟨s, -, h⟩ := Option.bind_eq_some_iff.1 h
  exact valid_of_ofText? h

theorem SavedForm.storable_of_ofJson? {j : Json} {f : SavedForm} (hj : j.Writable)
    (h : ofJson? j = some f) : f.Storable := by
  unfold ofJson? at h
  obtain ⟨es, hes, h⟩ := Option.bind_eq_some_iff.1 h
  obtain ⟨id, -, h⟩ := Option.bind_eq_some_iff.1 h
  obtain ⟨organizationId, -, h⟩ := Option.bind_eq_some_iff.1 h
  obtain ⟨fields, hfields, h⟩ := Option.bind_eq_some_iff.1 h
  obtain ⟨settings, -, h⟩ := Option.bind_eq_some_iff.1 h
  obtain ⟨savedAt, hsavedAt, h⟩ := Option.bind_eq_some_iff.1 h
  obtain rfl := Option.some.inj h
  have hmembers := Json.writable_members hj hes
  refine ⟨(Field.storableList_iff fields).2 ?_, ?_⟩
  · exact Json.of_required (P := fun fs => ∀ f ∈ fs, f.Storable) hmembers hfields
      fun i fs hi hread => Json.of_list? (P := Field.Storable) hi hread
        fun _ _ => Field.storable_of_ofJson?
  · exact Json.of_required (P := Timestamp.Valid) hmembers hsavedAt
      fun _ _ _ => Timestamp.valid_of_ofJson?

theorem Workspace.storable_of_ofJson? {j : Json} {w : Workspace} (hj : j.Writable)
    (h : ofJson? j = some w) : w.Storable := by
  unfold ofJson? at h
  obtain ⟨es, hes, h⟩ := Option.bind_eq_some_iff.1 h
  obtain ⟨users, -, h⟩ := Option.bind_eq_some_iff.1 h
  obtain ⟨organizations, -, h⟩ := Option.bind_eq_some_iff.1 h
  obtain ⟨roles, -, h⟩ := Option.bind_eq_some_iff.1 h
  obtain ⟨forms, hforms, h⟩ := Option.bind_eq_some_iff.1 h
  obtain rfl := Option.some.inj h
  exact Json.of_orElse_list? (P := SavedForm.Storable) (Json.writable_members hj hes) hforms
    fun _ _ => SavedForm.storable_of_ofJson?

/-- A workspace that a file holds is one that a file can hold again. -/
theorem FileContent.storable_of_workspace? {file : FileContent} {path : String} {w : Workspace}
    (h : file.workspace? path = .ok (some w)) : w.Storable := by
  unfold workspace? at h
  split at h
  · exact nomatch h
  · exact nomatch h
  split at h
  · rename_i s _ v hread
    obtain rfl : v = w := Option.some.inj (Except.ok.inj h)
    obtain ⟨j, hj, hread⟩ := Option.bind_eq_some_iff.1 hread
    cases hjson : Json.read Workspace.shape s with
    | error f =>
      rw [hjson] at hj
      exact nomatch hj
    | ok i =>
      rw [hjson] at hj
      obtain rfl : i = j := Option.some.inj hj
      exact Workspace.storable_of_ofJson? (Json.writable_of_read hjson) hread
  · exact nomatch h

namespace Library

variable {c : StoreConfig} {lib lib' : Library Disk}

theorem storable_of_openOn {d : Disk} (h : openOn (.file c) d = .ok lib) :
    lib.workspace.Storable := by
  unfold openOn at h
  cases hload : (Store.file c).load d with
  | error e =>
    rw [hload] at h
    exact nomatch h
  | ok snapshot =>
    rw [hload] at h
    obtain rfl := Except.ok.inj h
    cases snapshot with
    | none => exact fun f hf => nomatch hf
    | some w => exact FileContent.storable_of_workspace? hload

/-! ## Calls -/

/-- A call of the library. -/
inductive Call where
  | create (who : Identity) (id : String) (now : Timestamp)
  | save (who : Identity) (f : SavedForm) (now : Timestamp)
  | delete (who : Identity) (formId : String)

namespace Call

/-- The library after a call that is granted. A new form is the caller's until it is saved. -/
def run (s : Store σ) (lib : Library σ) : Call → Except Error (Library σ)
  | .create who id now => (Library.create who id now).map fun _ => lib
  | .save who f now => (lib.save s who f now).map (·.1)
  | .delete who formId => (lib.delete s who formId).map (·.1)

/-- The calls that change what is stored. -/
def writes : Call → Bool
  | .create _ _ _ => false
  | .save _ _ _ | .delete _ _ => true

/-- The numbers of a form that is saved are finite, and the clock shows a moment that a text can
hold. -/
def Storable : Call → Prop
  | .save _ f now => f.tree.Storable ∧ now.Valid
  | .create _ _ _ | .delete _ _ => True

end Call

/-- What happens to a library: a call, or a change of the disk, which may fill up and be cleared. -/
inductive Event where
  | call (k : Call)
  | disk (writable : Bool)

/-- The library after an event. A call that is refused changes nothing. -/
def Event.apply (c : StoreConfig) (lib : Library Disk) : Event → Library Disk
  | .call k =>
    match k.run (.file c) lib with
    | .ok lib' => lib'
    | .error _ => lib
  | .disk writable => { lib with store := { lib.store with writable } }

def Event.Storable : Event → Prop
  | .call k => k.Storable
  | .disk _ => True

/-! ## One call -/

/-- The library with other forms, once the file holds them. -/
def storing (lib : Library Disk) (forms : List SavedForm) : Library Disk :=
  let w := { lib.workspace with forms }
  ⟨w, { lib.store with file := .text w.fileText }⟩

/-- A workspace is accepted when the file can be written, and then the file holds its text. -/
theorem commit_spec {forms : List SavedForm}
    (h : commit (.file c) lib { lib.workspace with forms } = .ok lib') : lib' = lib.storing forms := by
  unfold commit Store.file at h
  simp only at h
  by_cases hwritable : lib.store.writable = true
  · rw [if_pos hwritable] at h
    exact (Except.ok.inj h).symm
  · rw [if_neg hwritable] at h
    exact nomatch h

theorem mem_putForm {f g : SavedForm} : ∀ {fs : List SavedForm}, g ∈ putForm f fs → g = f ∨ g ∈ fs
  | [], h => .inl (List.mem_singleton.1 h)
  | h :: fs, hg => by
    rw [putForm] at hg
    split at hg
    · exact (List.mem_cons.1 hg).imp_right (List.mem_cons_of_mem _)
    · rcases List.mem_cons.1 hg with rfl | hg
      · exact .inr (List.mem_cons_self ..)
      · exact (mem_putForm hg).imp_right (List.mem_cons_of_mem _)

theorem save_spec {who : Identity} {f g : SavedForm} {now : Timestamp}
    (h : lib.save (.file c) who f now = .ok (lib', g)) :
    lib' = lib.storing (putForm { f with savedAt := now } lib.workspace.forms) := by
  unfold save at h
  obtain ⟨_, -, h⟩ := ok_of_bind h
  -- the checks of an old form and of a new one lead to the same end
  have hcommit : (commit (.file c) lib { lib.workspace with
      forms := putForm { f with savedAt := now } lib.workspace.forms }).bind
        (fun lib => .ok (lib, { f with savedAt := now })) = .ok (lib', g) := by
    split at h
    · obtain ⟨_, -, h⟩ := ok_of_bind h
      obtain ⟨_, -, h⟩ := ok_of_bind h
      exact h
    · obtain ⟨_, -, h⟩ := ok_of_bind h
      exact h
  obtain ⟨stored, hstored, hend⟩ := ok_of_bind hcommit
  obtain ⟨rfl, -⟩ := Prod.mk.inj (Except.ok.inj hend)
  exact commit_spec hstored

theorem delete_spec {who : Identity} {formId : String} {g : SavedForm}
    (h : lib.delete (.file c) who formId = .ok (lib', g)) :
    lib' = lib.storing (lib.workspace.forms.eraseP (·.id == formId)) := by
  unfold delete at h
  obtain ⟨_, -, h⟩ := ok_of_bind h
  split at h
  · exact nomatch h
  · obtain ⟨_, -, h⟩ := ok_of_bind h
    obtain ⟨stored, hstored, hend⟩ := ok_of_bind h
    obtain ⟨rfl, -⟩ := Prod.mk.inj (Except.ok.inj hend)
    exact commit_spec hstored

/-- A call that is granted leaves the library as it is, or stores forms that were there before or
can be held by a file. -/
theorem Call.run_spec {k : Call} (hk : k.Storable) (h : k.run (.file c) lib = .ok lib') :
    k.writes = false ∧ lib' = lib ∨ k.writes = true ∧ ∃ forms, lib' = lib.storing forms
      ∧ ∀ g ∈ forms, g ∈ lib.workspace.forms ∨ g.Storable := by
  unfold run at h
  cases k with
  | create who id now =>
    obtain ⟨_, -, rfl⟩ := ok_of_map h
    exact .inl ⟨rfl, rfl⟩
  | save who f now =>
    obtain ⟨⟨stored, g⟩, hsave, rfl⟩ := ok_of_map h
    have hforms : ∀ g ∈ putForm { f with savedAt := now } lib.workspace.forms,
        g ∈ lib.workspace.forms ∨ g.Storable := by
      intro g hg
      rcases mem_putForm hg with rfl | hg
      · exact .inr hk
      · exact .inl hg
    exact .inr ⟨rfl, _, save_spec hsave, hforms⟩
  | delete who formId =>
    obtain ⟨⟨stored, g⟩, hdelete, rfl⟩ := ok_of_map h
    exact .inr ⟨rfl, _, delete_spec hdelete, fun g hg => .inl (List.mem_of_mem_eraseP hg)⟩

/-! ## Runs -/

theorem Call.storable_run {k : Call} (hk : k.Storable) (hlib : lib.workspace.Storable)
    (h : k.run (.file c) lib = .ok lib') : lib'.workspace.Storable := by
  rcases run_spec hk h with ⟨-, rfl⟩ | ⟨-, forms, rfl, hforms⟩
  · exact hlib
  · exact fun g hg => (hforms g hg).elim (hlib g) id

theorem storable_apply {e : Event} (he : e.Storable) (hlib : lib.workspace.Storable) :
    (e.apply c lib).workspace.Storable := by
  cases e with
  | disk writable => exact hlib
  | call k =>
    unfold Event.apply
    simp only
    split
    · rename_i hrun
      exact Call.storable_run he hlib hrun
    · exact hlib

/-- After any run of calls the workspace is one that a file can hold. -/
theorem storable_run : ∀ {events : List Event} {lib : Library Disk}, (∀ e ∈ events, e.Storable) →
    lib.workspace.Storable → (events.foldl (Event.apply c) lib).workspace.Storable
  | [], _, _, hlib => hlib
  | e :: events, lib, h, hlib => by
    obtain ⟨he, hrest⟩ := List.forall_mem_cons.1 h
    rw [List.foldl_cons]
    exact storable_run hrest (storable_apply he hlib)

/-! ## Opening again -/

/-- What a library is opened as on a file that holds forms. -/
theorem openOn_storing {forms : List SavedForm} (h : (lib.storing forms).workspace.Storable) :
    openOn (.file c) (lib.storing forms).store
      = if (lib.storing forms).workspace.fileDepth ≤ Json.nestingLimit
        then .ok { lib.storing forms with workspace := (lib.storing forms).workspace.reread }
        else .error (.unreadable c.path) := by
  have hfile : (lib.storing forms).store.file = .text (lib.storing forms).workspace.fileText := rfl
  unfold openOn Store.file
  simp only [hfile, (lib.storing forms).workspace.workspace?_fileText h]
  split <;> rfl

/-- Forms that were stored are there again when they are not nested too deep and the words of their
rules can be told apart. -/
theorem openOn_storing_eq_self_iff {forms : List SavedForm}
    (h : (lib.storing forms).workspace.Storable) :
    openOn (.file c) (lib.storing forms).store = .ok (lib.storing forms)
      ↔ (lib.storing forms).workspace.fileDepth ≤ Json.nestingLimit
        ∧ (lib.storing forms).workspace.Distinct := by
  rw [openOn_storing h, ← Workspace.reread_eq_self_iff]
  constructor
  · intro h
    split at h
    · rename_i hle
      exact ⟨hle, congrArg Library.workspace (Except.ok.inj h)⟩
    · exact nomatch h
  · rintro ⟨hle, hsame⟩
    rw [if_pos hle, hsame]

/-! ## Groups inside each other -/

open FormBuilder.Field (nestedGroups)

theorem depth_nestedForm {f : SavedForm} {name : Nat → String} {n : Nat}
    (htree : f.tree = ⟨nestedGroups name 0 n⟩) (hsettings : f.settings = .initial) :
    f.toJson.depth = max (2 * n + 1) 2 + 1 := by
  have hfields : f.tree.toJson.depth = 2 * n + 1 := by
    rw [htree, Tree.toJson, Json.depth, Field.depth_nestedGroups]
  have hinitial : FormSettings.initial.toJson.depth = 2 := rfl
  rw [SavedForm.toJson, Json.depth]
  simp only [Json.depthEntries, Json.depth, hfields, hsettings, hinitial]
  omega

theorem fileDepth_initial (f : SavedForm) (h : 2 ≤ f.toJson.depth) :
    ({ Workspace.initial with forms := [f] } : Workspace).fileDepth = f.toJson.depth + 2 := by
  have husers : (Json.array (Workspace.initial.users.map User.toJson)).depth = 2 := rfl
  have horganizations :
      (Json.array (Workspace.initial.organizations.map Organization.toJson)).depth = 2 := rfl
  have hroles : (Json.array (Workspace.initial.roles.map Role.toJson)).depth = 3 := rfl
  unfold Workspace.fileDepth Workspace.toJson
  rw [Json.depth]
  simp only [Json.depthEntries]
  rw [husers, horganizations, hroles]
  simp only [List.map_cons, List.map_nil, Json.depth, Json.depthItems]
  omega

variable {name : Nat → String}

theorem storable_nestedForm {f : SavedForm} {n : Nat} (htree : f.tree = ⟨nestedGroups name 0 n⟩)
    (hsaved : f.savedAt.Valid) : ({ Workspace.initial with forms := [f] } : Workspace).Storable := by
  intro g hg
  obtain rfl := List.mem_singleton.1 hg
  refine ⟨?_, hsaved⟩
  rw [htree]
  exact Field.storable_nestedGroups 0 n

theorem distinct_nestedForm {f : SavedForm} {n : Nat} (htree : f.tree = ⟨nestedGroups name 0 n⟩) :
    ({ Workspace.initial with forms := [f] } : Workspace).Distinct := by
  intro g hg
  obtain rfl := List.mem_singleton.1 hg
  show Field.DistinctList g.tree.fields
  rw [htree]
  exact Field.distinct_nestedGroups 0 n

/-- The library of a new file. -/
def initial : Library Disk := ⟨.initial, ⟨.missing, true⟩⟩

theorem save_initial {who : Identity} {f : SavedForm} (hcan : who.can .formCreate = true)
    (horganization : f.organizationId = who.organizationId) (now : Timestamp) :
    initial.save (.file c) who f now
      = .ok (initial.storing [{ f with savedAt := now }], { f with savedAt := now }) := by
  unfold save sameOrganization require
  rw [if_pos horganization, if_pos hcan]
  rfl

/-- A designer can put any number of groups into each other and save the form. The file can be
opened again as long as there are no more than 61 of them. -/
theorem openOn_nestedGroups_iff (c : StoreConfig) (hname : ∀ i j, name i = name j → i = j)
    {who : Identity} (hcan : who.can .formCreate = true) (id : String) {now : Timestamp}
    (hnow : now.Valid) (n : Nat) :
    ∃ s lib, Session.addNestedGroups name ⟨.new id who.organizationId now, none, none⟩ n = .ok s
      ∧ initial.save (.file c) who s.form now = .ok (lib, s.form)
      ∧ (openOn (.file c) lib.store = .ok lib ↔ n ≤ 61) := by
  obtain ⟨s, hbuilt, hform⟩ := Session.addNestedGroups_eq hname
    (s := ⟨.new id who.organizationId now, none, none⟩) rfl n
  have htree : s.form.tree = ⟨nestedGroups name 0 n⟩ := by rw [hform]
  have hsettings : s.form.settings = .initial := by rw [hform]; rfl
  have horganization : s.form.organizationId = who.organizationId := by rw [hform]; rfl
  have hsaved : { s.form with savedAt := now } = s.form := by rw [hform]; rfl
  have hdepth := depth_nestedForm htree hsettings
  have hsave := save_initial (c := c) hcan horganization now
  rw [hsaved] at hsave
  have hvalid : s.form.savedAt.Valid := by
    rw [← hsaved]
    exact hnow
  refine ⟨s, _, hbuilt, hsave, ?_⟩
  -- each group takes a level for itself and one for its list; the file adds its own
  have hfile : (initial.storing [s.form]).workspace.fileDepth = max (2 * n + 1) 2 + 1 + 2 := by
    rw [← hdepth]
    exact fileDepth_initial _ (by omega)
  rw [openOn_storing_eq_self_iff (storable_nestedForm htree hvalid), hfile,
    and_iff_left (show (initial.storing [s.form]).workspace.Distinct from distinct_nestedForm htree)]
  show _ ≤ 127 ↔ _
  omega

/-! ## Any run -/

/-- After any run of calls on a library that was opened on a file, a save or deletion that is granted
leaves a file on which a library opens as the same library exactly when the workspace is nested no
deeper than the reader takes and the words of its rules can be told apart; when it is nested deeper
the file is refused. -/
theorem openOn_eq_self_iff (c : StoreConfig) {d : Disk} {opened lib : Library Disk}
    {events : List Event} {k : Call} (hopened : openOn (.file c) d = .ok opened)
    (hevents : ∀ e ∈ events, e.Storable) (hk : k.Storable) (hwrites : k.writes = true)
    (hrun : k.run (.file c) (events.foldl (Event.apply c) opened) = .ok lib) :
    (openOn (.file c) lib.store = .ok lib
      ↔ lib.workspace.fileDepth ≤ Json.nestingLimit ∧ lib.workspace.Distinct)
    ∧ (Json.nestingLimit < lib.workspace.fileDepth →
        openOn (.file c) lib.store = .error (.unreadable c.path)) := by
  have hbefore := storable_run (c := c) hevents (storable_of_openOn hopened)
  have hstorable := Call.storable_run hk hbefore hrun
  obtain ⟨-, forms, rfl, -⟩ := (Call.run_spec hk hrun).resolve_left fun h =>
    Bool.false_ne_true (h.1.symm.trans hwrites)
  refine ⟨openOn_storing_eq_self_iff hstorable, fun hdeep => ?_⟩
  rw [openOn_storing hstorable, if_neg (Nat.not_le.2 hdeep)]

/-- 62 groups inside each other, the id of each one letter longer than that of the group around. -/
def deepForm : SavedForm where
  id := "f-1"
  organizationId := "org_default"
  tree := ⟨nestedGroups (fun i => String.ofList (List.replicate i 'g')) 0 62⟩
  settings := .initial
  savedAt := ⟨0, 0, 0⟩

theorem openOn_deepForm :
    let designer : Identity := ⟨"user_default", "org_default", [.formCreate]⟩
    let events : List Event := [.call (.create designer "f-1" ⟨0, 0, 0⟩)]
    let lib := initial.storing [deepForm]
    openOn (.file {}) ⟨.missing, true⟩ = .ok initial
      ∧ (∀ e ∈ events, e.Storable) ∧ (Call.save designer deepForm ⟨0, 0, 0⟩).Storable
      ∧ (Call.save designer deepForm ⟨0, 0, 0⟩).run (.file {}) (events.foldl (Event.apply {}) initial)
        = .ok lib
      ∧ openOn (.file {}) lib.store = .error (.unreadable (StoreConfig.path {})) := by
  intro designer events lib
  have hopened : openOn (.file {}) ⟨.missing, true⟩ = .ok initial := rfl
  have hevents : ∀ e ∈ events, e.Storable := List.forall_mem_cons.2 ⟨trivial, nofun⟩
  have hk : (Call.save designer deepForm ⟨0, 0, 0⟩).Storable :=
    ⟨Field.storable_nestedGroups 0 62, by decide, by decide, by decide, by decide⟩
  have hbefore : events.foldl (Event.apply {}) initial = initial := rfl
  have hrun : (Call.save designer deepForm ⟨0, 0, 0⟩).run (.file {})
      (events.foldl (Event.apply {}) initial) = .ok lib := by
    rw [hbefore]
    show (initial.save (.file {}) designer deepForm ⟨0, 0, 0⟩).map (·.1) = _
    rw [save_initial rfl rfl]
    rfl
  have hdeep : lib.workspace.fileDepth = 128 := by
    have hform := depth_nestedForm (f := deepForm) rfl rfl
    exact (fileDepth_initial deepForm (by omega)).trans (by omega)
  have hreopened := (openOn_eq_self_iff {} hopened hevents hk rfl hrun).2
  exact ⟨hopened, hevents, hk, hrun, hreopened (by rw [hdeep]; decide)⟩

end Library

end FormBuilder
