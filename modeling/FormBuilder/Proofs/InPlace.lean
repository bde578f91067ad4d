/-
Computations that change a state in place, step by step. One that fails keeps what it has written until
then, unless it checks all that can go wrong before it writes anything: then it does all or nothing.
-/
namespace FormBuilder

/-- A computation that changes a state in place. When it fails, the state stays as it is then. -/
abbrev InPlace (ε σ α : Type) := EStateM ε σ α

namespace InPlace

variable {ε ε' σ τ α β : Type}

/-- Goes on if a check succeeds. -/
def check (c : Except ε α) : InPlace ε σ α := fun s =>
  match c with
  | .ok a => .ok a s
  | .error e => .error e s

/-- Changes a part of a state in place. -/
def on (part : σ → τ) (put : τ → σ → σ) (act : InPlace ε τ α) : InPlace ε σ α := fun s =>
  match act (part s) with
  | .ok a t => .ok a (put t s)
  | .error e t => .error e (put t s)

/-- The computation that a function describes which gives the new state or none. -/
def allOrNothing (f : σ → Except ε (σ × α)) : InPlace ε σ α := fun s =>
  match f s with
  | .ok (s', a) => .ok a s'
  | .error e => .error e s

/-- What a computation reads is the state that it starts in. -/
theorem get_bind (act : σ → InPlace ε σ α) (s : σ) : (get >>= act) s = act s s := rfl

/-- The computation cannot fail, and makes of a state what the function makes of it. -/
def Writes (act : InPlace ε σ Unit) (g : σ → σ) : Prop := ∀ s, act s = .ok () (g s)

theorem writes_modify (g : σ → σ) : Writes (modify g : InPlace ε σ Unit) g := fun _ => rfl

theorem Writes.next {act act' : InPlace ε σ Unit} {g g' : σ → σ} (h : Writes act g)
    (h' : Writes act' g') : Writes (do act; act') (g' ∘ g) := by
  intro s
  show EStateM.bind act (fun _ => act') s = _
  rw [EStateM.bind, h s]
  exact h' (g s)

variable {f : σ → Except ε (σ × α)}

/-- A part of a state, when to put it back unchanged changes nothing. -/
theorem on_allOrNothing {part : σ → τ} {put : τ → σ → σ} (hput : ∀ s, put (part s) s = s)
    (f : τ → Except ε (τ × α)) : on part put (allOrNothing f)
      = allOrNothing fun s => (f (part s)).map fun (t, a) => (put t s, a) := by
  funext s
  dsimp only [on, allOrNothing]
  cases f (part s) with
  | ok r => rfl
  | error e => exact congrArg (EStateM.Result.error e) (hput s)

/-- What cannot fail may follow. -/
theorem allOrNothing_bind (g : α → InPlace ε σ β) (after : α → σ → σ × β)
    (hg : ∀ a s, g a s = .ok (after a s).2 (after a s).1) :
    allOrNothing f >>= g = allOrNothing fun s => (f s).map fun (s', a) => after a s' := by
  funext s
  show EStateM.bind (allOrNothing f) g s = _
  dsimp only [EStateM.bind, allOrNothing]
  cases f s with
  | ok r => exact hg r.2 r.1
  | error e => rfl

theorem map_allOrNothing (g : α → β) :
    g <$> allOrNothing f = allOrNothing fun s => (f s).map fun (s', a) => (s', g a) := by
  funext s
  show EStateM.map g (allOrNothing f) s = _
  dsimp only [EStateM.map, allOrNothing]
  cases f s with
  | ok r => rfl
  | error e => rfl

theorem adaptExcept_allOrNothing (rename : ε → ε') :
    EStateM.adaptExcept rename (allOrNothing f) = allOrNothing fun s => (f s).mapError rename := by
  funext s
  dsimp only [EStateM.adaptExcept, allOrNothing]
  cases f s with
  | ok r => rfl
  | error e => rfl

end InPlace

end FormBuilder
