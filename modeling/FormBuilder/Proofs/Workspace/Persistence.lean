/-
Requests to a library that is changed in place, on a repository that accepts and refuses as it likes
and whose state may change also when it refuses. Whatever the repository does, the workspace at hand
is the last one that it accepted. A request that is refused changes nothing, and the repository is
asked once for every request that passes the checks of a save or a deletion, and for no other.
-/
import FormBuilder.Proofs.Workspace.Request

namespace FormBuilder

/-! ## Repositories -/

/-- A keeper of snapshots. Its answers may depend on all that happened to it before. -/
structure Repository (ρ : Type) where
  snapshot : ρ → Except StoreError (Option Workspace)
  keep : Workspace → EStateM StoreError ρ Unit

namespace Repository

variable {ρ : Type} {r : Repository ρ}

/-- The snapshot is the workspace that was accepted last. -/
structure Faithful (r : Repository ρ) : Prop where
  accepted : ∀ {w state state'}, r.keep w state = .ok () state' → r.snapshot state' = .ok (some w)
  refused : ∀ {w e state state'}, r.keep w state = .error e state' →
    r.snapshot state' = r.snapshot state

/-- The repository as a store, which forgets what a refusal changed. -/
def store (r : Repository ρ) : Store ρ where
  load := r.snapshot
  save state w :=
    match r.keep w state with
    | .ok () state' => .ok state'
    | .error e _ => .error e

/-- A workspace that a repository was given, and its answer. -/
structure Attempt where
  workspace : Workspace
  accepted : Bool

/-- The repository with a record of all that it was given. -/
def recorded (r : Repository ρ) : Repository (ρ × List Attempt) where
  snapshot state := r.snapshot state.1
  keep w state :=
    match r.keep w state.1 with
    | .ok () state' => .ok () (state', state.2 ++ [⟨w, true⟩])
    | .error e state' => .error e (state', state.2 ++ [⟨w, false⟩])

/-- The workspace that was accepted last. -/
def lastAccepted (attempts : List Attempt) : Option Workspace :=
  (attempts.reverse.find? (·.accepted)).map (·.workspace)

theorem lastAccepted_concat (attempts : List Attempt) (a : Attempt) :
    lastAccepted (attempts ++ [a])
      = if a.accepted then some a.workspace else lastAccepted attempts := by
  unfold lastAccepted
  rw [List.reverse_concat, List.find?_cons]
  cases a.accepted <;> rfl

theorem keep_of_recorded_ok {w : Workspace} {state state' : ρ × List Attempt}
    (h : r.recorded.keep w state = .ok () state') :
    r.keep w state.1 = .ok () state'.1 ∧ state'.2 = state.2 ++ [⟨w, true⟩] := by
  unfold recorded at h
  simp only at h
  split at h
  · cases h
    exact ⟨‹_›, rfl⟩
  · cases h

theorem keep_of_recorded_error {w : Workspace} {e : StoreError} {state state' : ρ × List Attempt}
    (h : r.recorded.keep w state = .error e state') :
    r.keep w state.1 = .error e state'.1 ∧ state'.2 = state.2 ++ [⟨w, false⟩] := by
  unfold recorded at h
  simp only at h
  split at h
  · cases h
  · cases h
    exact ⟨‹_›, rfl⟩

end Repository

namespace Library

open Repository (Attempt lastAccepted lastAccepted_concat keep_of_recorded_ok keep_of_recorded_error)

variable {ρ α β : Type}

/-! ## Requests in place -/

/-- A computation that changes a library in place. When it fails the library stays as it is then. -/
abbrev Action (ρ α : Type) := EStateM Error (Library ρ) α

def check (c : Except Error α) : Action ρ α := fun lib =>
  match c with
  | .ok a => .ok a lib
  | .error e => .error e lib

/-- Gives a workspace to the repository, and goes on with it once it was accepted. -/
def adopt (r : Repository ρ) (w : Workspace) : Action ρ Unit := fun lib =>
  match r.keep w lib.store with
  | .ok () state => .ok () ⟨w, state⟩
  | .error e state => .error (.store e) { lib with store := state }

def saveInPlace (r : Repository ρ) (who : Identity) (f : SavedForm) (now : Timestamp) :
    Action ρ SavedForm := do
  let w := (← get).workspace
  check (sameOrganization who f)
  match w.form? f.id with
  | some old =>
    check (require who .formUpdate)
    check (sameOrganization who old)
  | none => check (require who .formCreate)
  let f := { f with savedAt := now }
  adopt r { w with forms := putForm f w.forms }
  return f

def deleteInPlace (r : Repository ρ) (who : Identity) (formId : String) : Action ρ SavedForm := do
  let w := (← get).workspace
  check (require who .formDelete)
  match w.form? formId with
  | none => throw (.formNotFound formId)
  | some f =>
    check (sameOrganization who f)
    adopt r { w with forms := w.forms.eraseP (·.id == formId) }
    return f

def Request.perform (r : Repository ρ) : Request → Action ρ (List SavedForm)
  | .list who => do check ((← get).list who)
  | .create who id now => return [← check (Library.create who id now)]
  | .load who formId => do return [← check ((← get).load who formId)]
  | .save who f now => return [← saveInPlace r who f now]
  | .delete who formId => return [← deleteInPlace r who formId]

/-! ## Checks -/

/-- The repository has refused. -/
def Error.fromStore : Error → Bool
  | .store _ => true
  | .permissionDenied _ _ | .wrongOrganization _ | .formNotFound _ => false

/-- The computation does not ask the repository. -/
def Checks (c : Except Error α) : Prop := ∀ e, c = .error e → e.fromStore = false

theorem checks_ok (a : α) : Checks (.ok a : Except Error α) := nofun

theorem Checks.bind {c : Except Error α} {f : α → Except Error β} (h : Checks c)
    (hf : ∀ a, Checks (f a)) : Checks (c.bind f) := by
  cases c with
  | ok a => exact hf a
  | error e =>
    rintro e' ⟨⟩
    exact h e rfl

theorem checks_require (who : Identity) (p : Permission) : Checks (require who p) := by
  unfold require
  split
  · exact checks_ok ()
  · rintro e ⟨⟩
    rfl

theorem checks_sameOrganization (who : Identity) (f : SavedForm) :
    Checks (sameOrganization who f) := by
  unfold sameOrganization
  split
  · exact checks_ok ()
  · rintro e ⟨⟩
    rfl

theorem checks_list (lib : Library ρ) (who : Identity) : Checks (lib.list who) :=
  (checks_require who .formRead).bind fun _ => checks_ok _

theorem checks_create (who : Identity) (id : String) (now : Timestamp) :
    Checks (Library.create who id now) :=
  (checks_require who .formCreate).bind fun _ => checks_ok _

theorem checks_load (lib : Library ρ) (who : Identity) (id : String) : Checks (lib.load who id) := by
  refine (checks_require who .formRead).bind fun _ => ?_
  split
  · rintro e ⟨⟩
    rfl
  · exact (checks_sameOrganization who _).bind fun _ => checks_ok _

/-! ## One request -/

/-- What a request in place comes to, and what the same request comes to when it gives a new library:
it is answered, or a check refuses it, and then the library is as it was; or the repository is asked
once, and accepts the workspace at hand from then on or refuses it. -/
inductive Outcome (r : Repository ρ) (lib : Library ρ) : (writes : Bool) →
    EStateM.Result Error (Library ρ) α → Except Error (Library ρ × α) → Prop where
  | answered (a : α) : Outcome r lib false (.ok a lib) (.ok (lib, a))
  | denied {writes : Bool} {e : Error} (he : e.fromStore = false) :
    Outcome r lib writes (.error e lib) (.error e)
  | accepted {w : Workspace} {state : ρ} (a : α) (h : r.keep w lib.store = .ok () state) :
    Outcome r lib true (.ok a ⟨w, state⟩) (.ok (⟨w, state⟩, a))
  | refused {w : Workspace} {e : StoreError} {state : ρ} (h : r.keep w lib.store = .error e state) :
    Outcome r lib true (.error (.store e) ⟨lib.workspace, state⟩) (.error (.store e))

namespace Outcome

variable {r : Repository ρ} {lib : Library ρ} {writes : Bool}

/-- A check goes first. -/
theorem check {c : Except Error Unit} {act : Action ρ α} {pure : Except Error (Library ρ × α)}
    (hc : Checks c) (h : Outcome r lib writes (act lib) pure) :
    Outcome r lib writes ((Library.check c >>= fun _ => act) lib) (c.bind fun _ => pure) := by
  cases c with
  | ok => exact h
  | error e => exact .denied (hc e rfl)

/-- The repository is asked last. -/
theorem adopt (w : Workspace) (a : α) :
    Outcome r lib true ((Library.adopt r w >>= fun _ => return a) lib)
      ((commit r.store lib w).bind fun lib => .ok (lib, a)) := by
  show Outcome r lib true (EStateM.bind (Library.adopt r w) (fun _ => EStateM.pure a) lib) _
  unfold EStateM.bind Library.adopt commit Repository.store
  simp only
  cases h : r.keep w lib.store with
  | ok _ state => exact .accepted a h
  | error e state => exact .refused h

theorem map {act : Action ρ α} {pure : Except Error (Library ρ × α)} (f : α → β)
    (h : Outcome r lib writes (act lib) pure) :
    Outcome r lib writes ((f <$> act) lib) (pure.map fun (lib, a) => (lib, f a)) := by
  show Outcome r lib writes (EStateM.map f act lib) _
  unfold EStateM.map
  generalize act lib = result at h
  cases h with
  | answered a => exact .answered (f a)
  | denied he => exact .denied he
  | accepted a hkept => exact .accepted (f a) hkept
  | refused hkept => exact .refused hkept

/-- Checks alone do not ask the repository. -/
theorem ofChecks {c : Except Error α} (h : Checks c) (f : α → β) :
    Outcome r lib false ((Library.check c >>= fun a => return f a) lib)
      (c.map fun a => (lib, f a)) := by
  cases c with
  | ok a => exact .answered (f a)
  | error e => exact .denied (h e rfl)

end Outcome

section

variable {r : Repository ρ} {lib : Library ρ}

theorem outcome_save (who : Identity) (f : SavedForm) (now : Timestamp) :
    Outcome r lib true (saveInPlace r who f now lib) (lib.save r.store who f now) := by
  refine .check (checks_sameOrganization who f) ?_
  cases lib.workspace.form? f.id with
  | some old =>
    refine .check (checks_require who .formUpdate) (.check (checks_sameOrganization who old) ?_)
    exact .adopt _ _
  | none =>
    refine .check (checks_require who .formCreate) ?_
    exact .adopt _ _

theorem outcome_delete (who : Identity) (id : String) :
    Outcome r lib true (deleteInPlace r who id lib) (lib.delete r.store who id) := by
  refine .check (checks_require who .formDelete) ?_
  cases lib.workspace.form? id with
  | none => exact .denied rfl
  | some f =>
    refine .check (checks_sameOrganization who f) ?_
    exact .adopt _ _

/-- Every request in place comes to what it comes to otherwise. -/
theorem outcome_perform (r : Repository ρ) (lib : Library ρ) (k : Request) :
    Outcome r lib k.writes (k.perform r lib) (k.run r.store lib) := by
  cases k with
  | list who =>
    have h : Outcome r lib false _ _ := .ofChecks (checks_list lib who) id
    simp only [id, bind_pure] at h
    exact h
  | create who id now => exact .ofChecks (checks_create who id now) fun f => [f]
  | load who id => exact .ofChecks (checks_load lib who id) fun f => [f]
  | save who f now => exact (outcome_save who f now).map fun f => [f]
  | delete who id => exact (outcome_delete who id).map fun f => [f]

end

/-! ## The record -/

/-- The library without the record of its repository. -/
def unrecorded (lib : Library (ρ × List Attempt)) : Library ρ := ⟨lib.workspace, lib.store.1⟩

@[simp] theorem unrecorded_workspace (lib : Library (ρ × List Attempt)) :
    lib.unrecorded.workspace = lib.workspace := rfl

/-- Two computations come to the same, but for the record that the first keeps. -/
inductive Alike : EStateM.Result Error (Library (ρ × List Attempt)) α →
    EStateM.Result Error (Library ρ) α → Prop where
  | ok (a : α) (lib : Library (ρ × List Attempt)) : Alike (.ok a lib) (.ok a lib.unrecorded)
  | error (e : Error) (lib : Library (ρ × List Attempt)) : Alike (.error e lib) (.error e lib.unrecorded)

variable {r : Repository ρ} {lib : Library (ρ × List Attempt)}

namespace Alike

theorem check {c : Except Error Unit} {act : Action (ρ × List Attempt) α} {act' : Action ρ α}
    (h : Alike (act lib) (act' lib.unrecorded)) :
    Alike ((Library.check c >>= fun _ => act) lib)
      ((Library.check c >>= fun _ => act') lib.unrecorded) := by
  cases c with
  | ok => exact h
  | error e => exact .error e lib

theorem adopt (w : Workspace) (a : α) :
    Alike ((Library.adopt r.recorded w >>= fun _ => return a) lib)
      ((Library.adopt r w >>= fun _ => return a) lib.unrecorded) := by
  show Alike (EStateM.bind (Library.adopt r.recorded w) (fun _ => EStateM.pure a) lib)
    (EStateM.bind (Library.adopt r w) (fun _ => EStateM.pure a) lib.unrecorded)
  unfold EStateM.bind Library.adopt Repository.recorded unrecorded
  simp only
  cases r.keep w lib.store.1 with
  | ok _ state => exact .ok a ⟨w, (state, _)⟩
  | error e state => exact .error (.store e) ⟨lib.workspace, (state, _)⟩

theorem map {act : Action (ρ × List Attempt) α} {act' : Action ρ α} (f : α → β)
    (h : Alike (act lib) (act' lib.unrecorded)) :
    Alike ((f <$> act) lib) ((f <$> act') lib.unrecorded) := by
  show Alike (EStateM.map f act lib) (EStateM.map f act' lib.unrecorded)
  unfold EStateM.map
  generalize act lib = result, act' lib.unrecorded = result' at h
  cases h with
  | ok a lib => exact .ok (f a) lib
  | error e lib => exact .error e lib

theorem ofCheck (c : Except Error α) :
    Alike (Library.check c lib) (Library.check c lib.unrecorded) := by
  cases c with
  | ok a => exact .ok a lib
  | error e => exact .error e lib

end Alike

/-- A repository answers the same when a record of it is kept. -/
theorem alike_perform (r : Repository ρ) (lib : Library (ρ × List Attempt)) (k : Request) :
    Alike (k.perform r.recorded lib) (k.perform r lib.unrecorded) := by
  cases k with
  | list who => exact .ofCheck (lib.list who)
  | create who id now => exact (Alike.ofCheck (Library.create who id now)).map fun f => [f]
  | load who id => exact (Alike.ofCheck (lib.load who id)).map fun f => [f]
  | save who f now =>
    refine .map (fun f => [f]) (.check ?_)
    rw [unrecorded_workspace]
    cases lib.workspace.form? f.id with
    | some old => exact .check (.check (.adopt _ _))
    | none => exact .check (.adopt _ _)
  | delete who id =>
    refine .map (fun f => [f]) (.check ?_)
    rw [unrecorded_workspace]
    cases lib.workspace.form? id with
    | none => exact .error _ lib
    | some f => exact .check (.adopt _ _)

/-! ## Runs -/

/-- The library after a request, whatever the answer. -/
def served (r : Repository ρ) (lib : Library ρ) (k : Request) : Library ρ :=
  match k.perform r lib with
  | .ok _ lib' | .error _ lib' => lib'

/-- What serving a request comes to: nothing changes, or the repository has accepted the workspace at
hand, or it has refused one. -/
theorem served_cases (r : Repository ρ) (lib : Library ρ) (k : Request) :
    served r lib k = lib
      ∨ (∃ w state, r.keep w lib.store = .ok () state ∧ served r lib k = ⟨w, state⟩)
      ∨ ∃ w e state, r.keep w lib.store = .error e state
        ∧ served r lib k = ⟨lib.workspace, state⟩ := by
  unfold served
  have h := outcome_perform r lib k
  generalize k.perform r lib = result, k.run r.store lib = run, k.writes = writes at h
  cases h with
  | answered | denied => exact .inl rfl
  | accepted a hkept => exact .inr (.inl ⟨_, _, hkept, rfl⟩)
  | refused hkept => exact .inr (.inr ⟨_, _, _, hkept, rfl⟩)

/-- The workspace at hand is the one that was accepted last, or the first one as long as none was
accepted. -/
def Follows (start : Workspace) (lib : Library (ρ × List Attempt)) : Prop :=
  lib.workspace = (lastAccepted lib.store.2).getD start

/-- Whoever opens a library on the repository now finds the workspace at hand. -/
def Mirrored (r : Repository ρ) (lib : Library (ρ × List Attempt)) : Prop :=
  (openOn r.store lib.store.1).map (·.workspace) = .ok lib.workspace

theorem map_workspace_openOn (s : Store ρ) (state : ρ) :
    (openOn s state).map (·.workspace) = (s.load state).map (·.getD .initial) := by
  unfold openOn
  cases s.load state <;> rfl

theorem mirrored_iff {lib : Library (ρ × List Attempt)} :
    Mirrored r lib ↔ (r.snapshot lib.store.1).map (·.getD .initial) = .ok lib.workspace := by
  unfold Mirrored
  rw [map_workspace_openOn]
  rfl

/-- What a request does to a library and to the record of its repository. -/
def AllOrNothing (r : Repository ρ) (lib : Library (ρ × List Attempt)) (k : Request) : Prop :=
  match k.perform r.recorded lib with
  | .ok reply lib' => k.run r.recorded.store lib = .ok (lib', reply)
    ∧ if k.writes then lib'.store.2 = lib.store.2 ++ [⟨lib'.workspace, true⟩] else lib' = lib
  | .error e lib' => k.run r.recorded.store lib = .error e ∧ lib'.workspace = lib.workspace
    ∧ if e.fromStore then ∃ w, lib'.store.2 = lib.store.2 ++ [⟨w, false⟩] else lib' = lib

theorem allOrNothing (r : Repository ρ) (lib : Library (ρ × List Attempt)) (k : Request) :
    AllOrNothing r lib k := by
  unfold AllOrNothing
  have h := outcome_perform r.recorded lib k
  generalize k.perform r.recorded lib = result, k.run r.recorded.store lib = run,
    k.writes = writes at h ⊢
  cases h with
  | answered a => exact ⟨rfl, rfl⟩
  | denied he =>
    refine ⟨rfl, rfl, ?_⟩
    rw [he]
    rfl
  | accepted a hkept => exact ⟨rfl, (keep_of_recorded_ok hkept).2⟩
  | refused hkept => exact ⟨rfl, rfl, _, (keep_of_recorded_error hkept).2⟩

theorem unrecorded_served (r : Repository ρ) (lib : Library (ρ × List Attempt)) (k : Request) :
    (served r.recorded lib k).unrecorded = served r lib.unrecorded k := by
  unfold served
  have h := alike_perform r lib k
  generalize k.perform r.recorded lib = result, k.perform r lib.unrecorded = result' at h
  cases h with
  | ok | error => rfl

theorem follows_served {start : Workspace} (k : Request) (h : Follows start lib) :
    Follows start (served r.recorded lib k) := by
  rcases served_cases r.recorded lib k with heq | ⟨w, state, hkept, heq⟩ | ⟨w, e, state, hkept, heq⟩
  · rw [heq]
    exact h
  · rw [heq, Follows, (keep_of_recorded_ok hkept).2, lastAccepted_concat]
    rfl
  · rw [heq, Follows, (keep_of_recorded_error hkept).2, lastAccepted_concat]
    exact h

theorem mirrored_served (hr : r.Faithful) (k : Request) (h : Mirrored r lib) :
    Mirrored r (served r.recorded lib k) := by
  rw [mirrored_iff] at h ⊢
  rcases served_cases r.recorded lib k with heq | ⟨w, state, hkept, heq⟩ | ⟨w, e, state, hkept, heq⟩
  · rw [heq]
    exact h
  · rw [heq, hr.accepted (keep_of_recorded_ok hkept).1]
    rfl
  · rw [heq, hr.refused (keep_of_recorded_error hkept).1]
    exact h

theorem unrecorded_run (r : Repository ρ) : ∀ (ks : List Request) (lib : Library (ρ × List Attempt)),
    (ks.foldl (served r.recorded) lib).unrecorded = ks.foldl (served r) lib.unrecorded
  | [], _ => rfl
  | k :: ks, lib => by
    rw [List.foldl_cons, List.foldl_cons, unrecorded_run r ks, unrecorded_served]

theorem follows_run {start : Workspace} : ∀ (ks : List Request) {lib : Library (ρ × List Attempt)},
    Follows start lib → Follows start (ks.foldl (served r.recorded) lib)
  | [], _, h => h
  | k :: ks, _, h => follows_run ks (follows_served k h)

theorem mirrored_run (hr : r.Faithful) : ∀ (ks : List Request) {lib : Library (ρ × List Attempt)},
    Mirrored r lib → Mirrored r (ks.foldl (served r.recorded) lib)
  | [], _, h => h
  | k :: ks, _, h => mirrored_run hr ks (mirrored_served hr k h)

/-- In every run of requests on a repository that accepts and refuses in any pattern, the workspace at
hand is the one that was accepted last, or the one that was opened. A repository that keeps its word
gives this workspace back. A save or deletion that is granted has been accepted once, with the
workspace that is at hand from then on; no other request that is granted asks the repository; a
request that is refused leaves the workspace as it is, and it has asked the repository only when it is
the repository that refuses. -/
theorem persistence_all_or_nothing (r : Repository ρ) {state : ρ}
    {opened : Library (ρ × List Attempt)} (hopened : openOn r.recorded.store (state, []) = .ok opened)
    (ks : List Request) :
    let reached := ks.foldl (served r.recorded) opened
    reached.unrecorded = ks.foldl (served r) ⟨opened.workspace, state⟩
      ∧ Follows opened.workspace reached ∧ (r.Faithful → Mirrored r reached)
      ∧ ∀ k, AllOrNothing r reached k := by
  intro reached
  obtain ⟨found, hfound, rfl⟩ := ok_of_map hopened
  refine ⟨unrecorded_run r ks _, follows_run ks rfl, ?_, fun k => allOrNothing r reached k⟩
  intro hr
  refine mirrored_run hr ks ?_
  have hsnapshot : r.snapshot state = .ok found := hfound
  rw [mirrored_iff, hsnapshot]
  rfl

/-- A repository that refuses every other workspace. -/
def fickle : Repository (Option Workspace × Bool) where
  snapshot state := .ok state.1
  keep w state :=
    if state.2 then .ok () (some w, false) else .error (.io "full") (state.1, true)

theorem fickle_faithful : fickle.Faithful where
  accepted {w state state'} h := by
    unfold fickle at h
    simp only at h
    split at h
    · cases h
      rfl
    · cases h
  refused {w e state state'} h := by
    unfold fickle at h
    simp only at h
    split at h
    · cases h
    · cases h
      rfl

theorem persistence_fickle :
    let designer : Identity := ⟨"user_default", "org_default", [.formCreate]⟩
    let f := SavedForm.new "f-1" "org_default" ⟨0, 0, 0⟩
    let ks := [Request.save designer f ⟨0, 0, 0⟩, .save designer f ⟨0, 0, 0⟩, .delete designer "f-1"]
    let opened : Library ((Option Workspace × Bool) × List Attempt) :=
      ⟨.initial, (none, false), []⟩
    let reached := ks.foldl (served fickle.recorded) opened
    openOn fickle.recorded.store ((none, false), []) = .ok opened
      ∧ reached.store.2.map (·.accepted) = [false, true] ∧ reached.workspace.forms = [f]
      ∧ Follows .initial reached ∧ Mirrored fickle reached := by
  intro designer f ks opened reached
  have hopened : openOn fickle.recorded.store ((none, false), []) = .ok opened := rfl
  obtain ⟨-, hfollows, hmirrored, -⟩ := persistence_all_or_nothing fickle hopened ks
  exact ⟨hopened, rfl, rfl, hfollows, hmirrored fickle_faithful⟩

end Library

end FormBuilder
