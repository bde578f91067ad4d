/-
Computations that can fail: what a success of the whole says about its parts.
-/
namespace FormBuilder

variable {ε α β : Type}

/-- A success in two parts is a success of the first and then of the second. -/
theorem ok_of_bind {f : α → Except ε β} {b : β} :
    ∀ {x : Except ε α}, x.bind f = .ok b → ∃ a, x = .ok a ∧ f a = .ok b
  | .ok a, h => ⟨a, rfl, h⟩

/-- A failure in two parts is a failure of the first, or of the second after the first. -/
theorem error_of_bind {f : α → Except ε β} {e : ε} :
    ∀ {x : Except ε α}, x.bind f = .error e → x = .error e ∨ ∃ a, x = .ok a ∧ f a = .error e
  | .error _, h => .inl (congrArg _ (Except.error.inj h))
  | .ok a, h => .inr ⟨a, rfl, h⟩

theorem ok_of_map {f : α → β} {b : β} :
    ∀ {x : Except ε α}, x.map f = .ok b → ∃ a, x = .ok a ∧ f a = b
  | .ok a, h => ⟨a, rfl, Except.ok.inj h⟩

/-- What every step keeps, told the elements before it, holds after all steps. -/
theorem foldlM_prefix {f : β → α → Except ε β} (P : List α → β → Prop)
    (hf : ∀ done b x b', P done b → f b x = .ok b' → P (done ++ [x]) b') :
    ∀ (xs done : List α) (b b' : β), P done b → xs.foldlM f b = .ok b' → P (done ++ xs) b'
  | [], done, b, b', hb, h => by
    cases h
    simpa using hb
  | x :: xs, done, b, b', hb, h => by
    obtain ⟨c, hc, h⟩ := ok_of_bind (List.foldlM_cons.symm.trans h)
    have hrest := foldlM_prefix P hf xs (done ++ [x]) c b' (hf done b x c hb hc) h
    simpa using hrest

/-- Steps that fail have a first one that does, after steps that succeed. -/
theorem foldlM_error {f : β → α → Except ε β} {e : ε} :
    ∀ {xs : List α} {b : β}, xs.foldlM f b = .error e →
    ∃ done x rest b', xs = done ++ x :: rest ∧ done.foldlM f b = .ok b' ∧ f b' x = .error e
  | [], _, h => by cases h
  | x :: xs, b, h => by
    rcases error_of_bind (List.foldlM_cons.symm.trans h) with hx | ⟨c, hc, hrest⟩
    · exact ⟨[], x, xs, b, rfl, rfl, hx⟩
    · obtain ⟨done, y, rest, b', rfl, hdone, hy⟩ := foldlM_error hrest
      refine ⟨x :: done, y, rest, b', rfl, ?_, hy⟩
      rw [List.foldlM_cons, hc]
      exact hdone

end FormBuilder
