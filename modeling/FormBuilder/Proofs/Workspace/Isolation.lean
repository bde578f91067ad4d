/-
What organizations can do to each other through a library: nothing. In every run, whoever makes the
requests, each request sees and changes forms of the caller's organization only, as far as the
caller's permissions go, and no form changes hands.
-/
import FormBuilder.Proofs.Workspace.Request

namespace FormBuilder

/-- The forms of other organizations. -/
def Workspace.foreign (w : Workspace) (who : Identity) : List SavedForm :=
  w.forms.filter fun f => f.organizationId ≠ who.organizationId

/-- The ids of the forms, each with the organization that owns the form. -/
def Workspace.owners (w : Workspace) : List (String × String) :=
  w.forms.map fun f => (f.id, f.organizationId)

namespace Library

variable {σ : Type}

/-- What a request may do to a workspace. -/
structure Confined (k : Request) (w w' : Workspace) : Prop where
  users : w'.users = w.users
  organizations : w'.organizations = w.organizations
  roles : w'.roles = w.roles
  foreign : w'.foreign k.caller = w.foreign k.caller
  /-- All owners stay, but for one form of the caller's organization that is new or taken out. -/
  owners : w'.owners = w.owners
    ∨ (∃ id, w'.owners = w.owners ++ [(id, k.caller.organizationId)])
    ∨ ∃ pre id post, w.owners = pre ++ (id, k.caller.organizationId) :: post
      ∧ w'.owners = pre ++ post
  /-- Forms change only where the caller may save or delete them. -/
  permitted : w'.forms = w.forms
    ∨ (∃ f now, k = .save k.caller f now ∧ f.organizationId = k.caller.organizationId
      ∧ k.caller.can (if (w.form? f.id).isSome then .formUpdate else .formCreate) = true)
    ∨ ∃ id, k = .delete k.caller id ∧ k.caller.can .formDelete = true

theorem Confined.refl (k : Request) (w : Workspace) : Confined k w w :=
  ⟨rfl, rfl, rfl, rfl, .inl rfl, .inl rfl⟩

variable {s : Store σ} {lib lib' : Library σ} {k : Request} {reply : List SavedForm}

/-- A granted request keeps within its caller's organization. -/
theorem Grants.confined (h : Grants s lib k lib' reply) : Confined k lib.workspace lib'.workspace := by
  cases h with
  | list | create | load => exact .refl _ _
  | @replace who f old now pre post state hcan hown hfirst hold hkept =>
    refine ⟨rfl, rfl, rfl, ?_, .inl ?_, .inr (.inl ⟨f, now, rfl, hown, ?_⟩)⟩
    · simp [Workspace.foreign, holding, hfirst.split, Request.caller, hown, hold]
    · simp [Workspace.owners, holding, hfirst.split, hfirst.named, hown, hold]
    · have hform : lib.workspace.form? f.id = some old := hfirst.find?
      rw [hform]
      exact hcan
  | @append who f now state hcan hown hnew hkept =>
    refine ⟨rfl, rfl, rfl, ?_, .inr (.inl ⟨f.id, ?_⟩), .inr (.inl ⟨f, now, rfl, hown, ?_⟩)⟩
    · simp [Workspace.foreign, holding, Request.caller, hown]
    · simp [Workspace.owners, holding, Request.caller, hown]
    · rw [form?_eq_none_iff.2 hnew]
      exact hcan
  | @delete who id f pre post state hcan hfirst hown hkept =>
    refine ⟨rfl, rfl, rfl, ?_, .inr (.inr ?_), .inr (.inr ⟨id, rfl, hcan⟩)⟩
    · simp [Workspace.foreign, holding, hfirst.split, Request.caller, hown]
    · refine ⟨pre.map fun g => (g.id, g.organizationId), f.id,
        post.map fun g => (g.id, g.organizationId), ?_, ?_⟩
      · simp [Workspace.owners, hfirst.split, Request.caller, hown]
      · simp [Workspace.owners, holding]

/-- The forms that a granted request gives are of its caller's organization. -/
theorem Grants.reply_own (h : Grants s lib k lib' reply) :
    ∀ f ∈ reply, f.organizationId = k.caller.organizationId := by
  intro f hf
  cases h with
  | list => exact of_decide_eq_true (List.mem_filter.1 hf).2
  | create =>
    rw [List.mem_singleton.1 hf]
    rfl
  | load _ _ hown | replace _ hown | append _ hown | delete _ _ hown =>
    rw [List.mem_singleton.1 hf]
    exact hown

theorem confined_after (lib : Library σ) (e : Turn σ) :
    Confined e.request lib.workspace (lib.after e).workspace := by
  rcases after_cases lib e with ⟨-, h⟩ | ⟨reply, h⟩
  · rw [h]
    exact .refl _ _
  · exact (grants_of_run h).confined

/-- A run leaves the people of a workspace as they are. -/
theorem people_after : ∀ (es : List (Turn σ)) (lib : Library σ),
    (es.foldl after lib).workspace.users = lib.workspace.users
      ∧ (es.foldl after lib).workspace.organizations = lib.workspace.organizations
      ∧ (es.foldl after lib).workspace.roles = lib.workspace.roles
  | [], _ => ⟨rfl, rfl, rfl⟩
  | e :: es, lib => by
    obtain ⟨husers, horganizations, hroles⟩ := people_after es (lib.after e)
    have hstep := confined_after lib e
    exact ⟨husers.trans hstep.users, horganizations.trans hstep.organizations,
      hroles.trans hstep.roles⟩

/-- In every run of requests by any identities, on any workspace and with a store that accepts and
refuses as it likes: the people stay as they were at the beginning; every request leaves the forms of
other organizations as they are, in their order, changes no owner, and changes forms only as its
caller's permissions go; and every form that is given is of the caller's organization. -/
theorem requests_confined (lib : Library σ) (es : List (Turn σ)) (e : Turn σ) :
    let reached := es.foldl after lib
    Confined e.request reached.workspace (reached.after e).workspace
      ∧ (reached.after e).workspace.users = lib.workspace.users
      ∧ (reached.after e).workspace.organizations = lib.workspace.organizations
      ∧ (reached.after e).workspace.roles = lib.workspace.roles
      ∧ match e.run reached with
        | .error _ => reached.after e = reached
        | .ok (_, reply) => ∀ f ∈ reply, f.organizationId = e.request.caller.organizationId := by
  intro reached
  have hstep := confined_after reached e
  obtain ⟨husers, horganizations, hroles⟩ := people_after es lib
  refine ⟨hstep, hstep.users.trans husers, hstep.organizations.trans horganizations,
    hstep.roles.trans hroles, ?_⟩
  cases h : e.run reached with
  | error error =>
    unfold after
    rw [h]
  | ok r => exact (grants_of_run h).reply_own

end Library

end FormBuilder
