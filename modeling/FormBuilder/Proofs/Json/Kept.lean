/-
What the reader gives can be written again: it takes no number from a text that a text could not
hold, and every other part of a document is put together from such numbers.
-/
import FormBuilder.Json.Reader
import FormBuilder.Proofs.Decimal.Whole
import FormBuilder.Proofs.Except
import FormBuilder.Proofs.Json.Writable

namespace FormBuilder.Json

theorem writableItems_iff : ∀ js : List Json, WritableItems js ↔ ∀ j ∈ js, j.Writable
  | [] => by simp [WritableItems]
  | j :: js => by simp [WritableItems, writableItems_iff js]

theorem writableEntries_iff : ∀ es : List (String × Json),
    WritableEntries es ↔ ∀ e ∈ es, e.2.Writable
  | [] => by simp [WritableEntries]
  | (k, j) :: es => by simp [WritableEntries, writableEntries_iff es]

/-! ## Tokens -/

/-- The value of the token, if it has one, is writable. -/
def Token.Writable : Token → Prop
  | .scalar _ (.ok j) _ => j.Writable
  | _ => True

theorem writable_numberValue {negative : Bool} {whole : List Char} {fraction : Option (List Char)}
    {exponent : Option Int} {j : Json} (h : numberValue negative whole fraction exponent = .ok j) :
    j.Writable := by
  -- a double is kept when it is finite, with either sign
  have hdouble : ∀ n e, (if Decimal.isFinite (Decimal.nearest n e) = true then
      (.ok (.float (Decimal.withSign negative (Decimal.nearest n e))) : Except Fault Json)
      else .error .malformed) = .ok j → j.Writable := by
    intro n e h
    split at h
    · rename_i hfinite
      obtain rfl := Except.ok.inj h
      exact Decimal.isFinite_withSign hfinite negative
    · exact nomatch h
  unfold numberValue at h
  simp only at h
  split at h
  · split at h
    · rename_i hplain
      simp only [Bool.and_eq_true, decide_eq_true_eq] at hplain
      obtain rfl := Except.ok.inj h
      exact ⟨by omega, Int.ofNat_lt.2 hplain.2⟩
    split at h
    · rename_i hnegative
      simp only [Bool.and_eq_true, decide_eq_true_eq] at hnegative
      have hle : ((Decimal.natOfDigits whole : Nat) : Int) ≤ (Nat.pow 2 63 : Nat) :=
        Int.ofNat_le.2 hnegative.2
      obtain rfl := Except.ok.inj h
      exact ⟨by omega, by omega⟩
    · exact hdouble _ _ h
  · exact hdouble _ _ h

theorem writable_wordToken (expected : List Char) {value : Json} (h : value.Writable)
    (cs : List Char) : (wordToken expected value cs).1.Writable := by
  unfold wordToken
  split
  · exact h
  · trivial

/-- Every token of a text is writable. -/
theorem writable_tokenAt (cs : List Char) : (tokenAt cs).1.Writable := by
  unfold tokenAt
  split
  case h_8 => split <;> trivial
  case h_9 | h_10 | h_11 =>
    refine writable_wordToken _ ?_ _
    trivial
  case h_12 =>
    split
    · split
      · rename_i negative whole fraction exponent n _
        cases hvalue : numberValue negative whole fraction exponent with
        | ok j => exact writable_numberValue hvalue
        | error f => trivial
      · trivial
    · trivial
  all_goals trivial

theorem writable_tokensAfter : ∀ (cs : List Char) (done : List Token) (skip : Nat),
    (∀ t ∈ done, t.Writable) → ∀ t ∈ tokensAfter done skip cs, t.Writable
  | [], done, _, h, t, ht => h t (List.mem_reverse.1 ht)
  | c :: cs, done, skip + 1, h, t, ht => writable_tokensAfter cs done skip h t ht
  | c :: cs, done, 0, h, t, ht => by
    have htoken := writable_tokenAt (c :: cs)
    unfold tokensAfter at ht
    simp only at ht
    split at ht
    · exact writable_tokensAfter cs done 0 h t ht
    split at ht
    · rename_i next n hnext
      rw [hnext] at htoken
      exact writable_tokensAfter cs (next :: done) (n - 1) (List.forall_mem_cons.2 ⟨htoken, h⟩) t ht
    · rename_i next hnext
      rw [hnext] at htoken
      exact List.forall_mem_cons.2 ⟨htoken, h⟩ t (List.mem_reverse.1 ht)

/-! ## Steps of the reader -/

/-- What an open array or object holds so far is writable. -/
def Frame.Writable : Frame → Prop
  | .array _ items => ∀ j ∈ items, j.Writable
  | .object _ entries _ => ∀ e ∈ entries, e.2.Writable

/-- All that the reader holds is writable. -/
structure Reading.Writable (r : Reading) : Prop where
  frames : ∀ f ∈ r.frames, f.Writable
  finished : ∀ j, r.phase = .finished j → j.Writable

variable {frames : List Frame} {r r' : Reading}

theorem writable_supply {j : Json} (hframes : ∀ f ∈ frames, f.Writable) (hj : j.Writable) :
    (supply frames j).Writable := by
  unfold supply
  split
  · refine ⟨nofun, ?_⟩
    rintro i ⟨⟩
    exact hj
  · obtain ⟨hitems, hrest⟩ := List.forall_mem_cons.1 hframes
    exact ⟨List.forall_mem_cons.2 ⟨List.forall_mem_cons.2 ⟨hj, hitems⟩, hrest⟩, nofun⟩
  · obtain ⟨hentries, hrest⟩ := List.forall_mem_cons.1 hframes
    split
    · exact ⟨List.forall_mem_cons.2 ⟨hentries, hrest⟩, nofun⟩
    · exact ⟨List.forall_mem_cons.2 ⟨List.forall_mem_cons.2 ⟨hj, hentries⟩, hrest⟩, nofun⟩

theorem writable_close {b : Bracket} (hframes : ∀ f ∈ frames, f.Writable)
    (h : close frames b = .ok r) : r.Writable := by
  unfold close at h
  simp only at h
  split at h
  · rename_i s items rest
    obtain ⟨hitems, hrest⟩ := List.forall_mem_cons.1 hframes
    split at h
    · obtain rfl := Except.ok.inj h
      refine writable_supply hrest ((writableItems_iff _).2 fun j hj => ?_)
      exact hitems j (List.mem_reverse.1 hj)
    · exact nomatch h
  · rename_i s entries key rest
    obtain ⟨hentries, hrest⟩ := List.forall_mem_cons.1 hframes
    split at h
    · obtain rfl := Except.ok.inj h
      refine writable_supply hrest ((writableEntries_iff _).2 fun e he => ?_)
      exact hentries e (List.mem_reverse.1 he)
    · exact nomatch h
  · exact nomatch h

theorem writable_begin {limit : Nat} {s : Shape} {b : Bracket} (hr : r.Writable)
    (h : begin limit r s b = .ok r') : r'.Writable := by
  have hempty : ∀ f : Frame, (f = .array s [] ∨ f = .object s [] "") → f.Writable := by
    rintro f (rfl | rfl) <;> exact nofun
  unfold begin at h
  split at h
  · exact nomatch h
  split at h
  · exact nomatch h
  split at h
  · obtain rfl := Except.ok.inj h
    exact ⟨List.forall_mem_cons.2 ⟨hempty _ (.inr rfl), hr.frames⟩, nofun⟩
  · split at h
    · obtain rfl := Except.ok.inj h
      exact ⟨List.forall_mem_cons.2 ⟨hempty _ (.inl rfl), hr.frames⟩, nofun⟩
    · obtain rfl := Except.ok.inj h
      exact ⟨List.forall_mem_cons.2 ⟨hempty _ (.inl rfl), hr.frames⟩, nofun⟩

theorem writable_takeScalar {s : Shape} {isString : Bool} {kept : Except Fault Json}
    {passed : Except Fault Unit} (hr : r.Writable) (ht : (Token.scalar isString kept passed).Writable)
    (h : takeScalar r s kept passed = .ok r') : r'.Writable := by
  unfold takeScalar at h
  split at h
  · cases passed with
    | error f => exact nomatch h
    | ok _ =>
      obtain rfl := Except.ok.inj h
      exact writable_supply hr.frames trivial
  split at h
  · exact nomatch h
  split at h
  · obtain rfl := Except.ok.inj h
    exact writable_supply hr.frames ht
  · exact nomatch h

theorem writable_takeKey {kept : Except Fault Json} {passed : Except Fault Unit}
    (hframes : ∀ f ∈ frames, f.Writable) (h : takeKey frames kept passed = .ok r) : r.Writable := by
  unfold takeKey at h
  split at h
  · rename_i s entries key rest
    obtain ⟨hentries, hrest⟩ := List.forall_mem_cons.1 hframes
    split at h
    · cases passed with
      | error f => exact nomatch h
      | ok _ =>
        obtain rfl := Except.ok.inj h
        exact ⟨List.forall_mem_cons.2 ⟨hentries, hrest⟩, nofun⟩
    split at h
    · exact nomatch h
    · split at h
      · exact nomatch h
      · obtain rfl := Except.ok.inj h
        exact ⟨List.forall_mem_cons.2 ⟨hentries, hrest⟩, nofun⟩
    · exact nomatch h
  · exact nomatch h

/-- A step keeps all that the reader holds writable. -/
theorem writable_step {limit : Nat} {t : Token} (hr : r.Writable) (ht : t.Writable)
    (h : step limit r t = .ok r') : r'.Writable := by
  unfold step at h
  split at h
  · exact writable_begin hr h
  · exact writable_takeScalar hr ht h
  · exact writable_close hr.frames h
  · exact writable_takeKey hr.frames h
  · exact writable_close hr.frames h
  · split at h
    · rename_i hframes
      obtain rfl := Except.ok.inj h
      exact ⟨hframes ▸ hr.frames, nofun⟩
    · exact nomatch h
  · split at h
    · split at h
      · obtain rfl := Except.ok.inj h
        exact ⟨hr.frames, nofun⟩
      · exact nomatch h
    · obtain rfl := Except.ok.inj h
      exact ⟨hr.frames, nofun⟩
    · exact nomatch h
  · exact writable_close hr.frames h
  · exact nomatch h

/-! ## A whole text -/

theorem writable_foldlM {limit : Nat} {ts : List Token} {r r' : Reading} (hr : r.Writable)
    (hts : ∀ t ∈ ts, t.Writable) (h : ts.foldlM (step limit) r = .ok r') : r'.Writable := by
  have hread := foldlM_prefix (fun (done : List Token) r => (∀ t ∈ done, t.Writable) → r.Writable)
    (fun done r t r' hread hstep hts => by
      obtain ⟨hdone, ht⟩ := List.forall_mem_append.1 hts
      exact writable_step (hread hdone) (ht t (List.mem_singleton_self t)) hstep)
    ts [] r r' (fun _ => hr) h
  exact hread hts

/-- Every document that is read can be written. -/
theorem writable_of_read {shape : Shape} {text : String} {j : Json}
    (h : read shape text = .ok j) : j.Writable := by
  unfold read readWithin at h
  split at h
  · exact nomatch h
  · rename_i hread
    obtain rfl := Except.ok.inj h
    have htokens := writable_tokensAfter text.toList [] 0 nofun
    have hstart : Reading.Writable ⟨[], .value shape false⟩ := ⟨nofun, nofun⟩
    exact (writable_foldlM hstart htokens hread).finished _ rfl
  · exact nomatch h

end FormBuilder.Json
