/-
How the tokens of a formula are written, and that a source is cut into what is written in it: white
space and the lexemes of the tokens, each at its token's position, to the end of the source or to the
first place where no lexeme stands.

Every text splits in this way, and the tokenizer follows the split from its beginning, lexeme by
lexeme. So it finds no other tokens, and fails only where the split ends in a fault.
-/
import FormBuilder.Proofs.Formula.Numeral

namespace FormBuilder.Formula

open Decimal (isDigit AllDigits IsMark Numeral nearest unsigned? unsigned?_textWith unsigned?_point)

/-! ## Lexemes -/

/-- The operators and parentheses, which stand for themselves. -/
def symbols : List (Char × Token) :=
  [('+', .plus), ('-', .minus), ('*', .star), ('/', .slash), ('(', .leftParen), (')', .rightParen)]

/-- How a token is written where `after` follows: a symbol as itself, a reference as its id between
braces, and a number as a literal that could not be longer there, which is nearest to the number. -/
inductive IsLexeme : Token → List Char → List Char → Prop where
  | symbol {c t after} (h : (c, t) ∈ symbols) : IsLexeme t [c] after
  | field {id after} (hne : id ≠ "") (hbrace : '\x7d' ∉ id.toList) :
    IsLexeme (.field id) ('\x7b' :: (id.toList ++ ['\x7d'])) after
  | number {l : Numeral} {mark after} (hmark : IsMark mark) (hl : l.IsLiteral)
    (hlongest : Longest (l.textWith mark) after) :
    IsLexeme (.number (nearest l.digits l.place)) (l.textWith mark) after

def BeginsNone (c : Char) : Prop := ∀ t lexeme after, IsLexeme t lexeme after → c ∉ lexeme.head?

/-- What is wrong at a position where a text begins with neither white space nor a lexeme. -/
inductive Fault : Error → Nat → List Char → Prop where
  | character {position c cs} (hblank : Text.isBlank c = false) (hc : BeginsNone c) :
    Fault (.unexpectedCharacter c position) position (c :: cs)
  | unterminated {position cs} (h : '\x7d' ∉ cs) :
    Fault (.unterminatedReference position) position ('\x7b' :: cs)
  | empty {position cs} : Fault (.emptyReference position) position ('\x7b' :: '\x7d' :: cs)
  | number {position} {l : Numeral} {mark after} (hmark : IsMark mark) (hl : l.IsShape)
    (hlongest : Longest (l.textWith mark) after) (hpoint : l.significand = ['.']) :
    Fault (.invalidNumber (String.ofList (l.textWith mark))) position (l.textWith mark ++ after)

/-- `Splits position cs ts last rest`: from the position on, the text `cs` is white space and the
lexemes of the tokens `ts`, each at the position of its token, up to the position `last`, where `rest`
follows. -/
inductive Splits : Nat → List Char → List Placed → Nat → List Char → Prop where
  | done {position rest} : Splits position rest [] position rest
  | blank {position c cs ts last rest} (hc : Text.isBlank c = true)
    (h : Splits (position + 1) cs ts last rest) : Splits position (c :: cs) ts last rest
  | lexeme {position t text cs ts last rest} (ht : IsLexeme t text cs)
    (h : Splits (position + text.length) cs ts last rest) :
    Splits position (text ++ cs) (⟨t, position⟩ :: ts) last rest

/-! ## One lexeme -/

section Token

variable {c : Char} {cs : List Char} {t : Token} {position : Nat}

theorem symbol?_eq_some_iff : symbol? c = some t ↔ (c, t) ∈ symbols := by
  constructor
  · intro h
    unfold symbol? at h
    split at h <;> cases h <;> simp [symbols]
  · intro h
    simp only [symbols, List.mem_cons, Prod.mk.injEq, List.not_mem_nil, or_false] at h
    rcases h with ⟨rfl, rfl⟩ | ⟨rfl, rfl⟩ | ⟨rfl, rfl⟩ | ⟨rfl, rfl⟩ | ⟨rfl, rfl⟩ | ⟨rfl, rfl⟩ <;> rfl

theorem isBlank_symbol (h : symbol? c = some t) : Text.isBlank c = false := by
  unfold symbol? at h
  split at h <;> first | decide | cases h

theorem isBlank_digit (h : isDigit c = true) : Text.isBlank c = false := by
  unfold isDigit at h
  simp only [Bool.and_eq_true, decide_eq_true_eq, Char.le_def, UInt32.le_iff_toNat_le] at h
  have hlow : 48 ≤ c.toNat := h.1
  have hhigh : c.toNat ≤ 57 := h.2
  unfold Text.isBlank
  simp
  omega

theorem symbol?_digit (h : isDigit c = true) : symbol? c = none := by
  unfold symbol?
  split <;> first | rfl | exact absurd h (by decide)

/-- Where a number begins, the tokenizer reads the longest one. -/
theorem tokenAt_number (hc : isDigit c = true ∨ c = '.') (position : Nat) (cs : List Char) :
    Text.isBlank c = false ∧ tokenAt position c cs =
      match unsigned? (numeral (c :: cs)) with
      | some x => .ok (.number x, (numeral (c :: cs)).length)
      | none => .error (.invalidNumber (String.ofList (numeral (c :: cs)))) := by
  rcases hc with hc | rfl
  · have hbrace : c ≠ '\x7b' := by
      rintro rfl
      exact absurd hc (by decide)
    refine ⟨isBlank_digit hc, ?_⟩
    rw [tokenAt, symbol?_digit hc]
    exact (if_neg (by simpa using hbrace)).trans (if_pos (by simp [hc]))
  · exact ⟨by decide, rfl⟩

theorem tokenAt_field {id : List Char} (hbrace : '\x7d' ∉ id) (hne : id ≠ []) (position : Nat)
    (after : List Char) : tokenAt position '\x7b' (id ++ '\x7d' :: after)
      = .ok (.field (String.ofList id), id.length + 2) := by
  have htake : (id ++ '\x7d' :: after).takeWhile (fun c => !decide (c = '\x7d')) = id := by
    rw [List.takeWhile_append_of_pos]
    · simp
    · intro c hc
      have hother : c ≠ '\x7d' := fun h => hbrace (h ▸ hc)
      simpa using hother
  have hsymbol : symbol? '\x7b' = none := rfl
  simp [tokenAt, hsymbol, htake, hne]

/-- A lexeme is taken as its token. -/
theorem tokenAt_of_isLexeme {text after : List Char} (h : IsLexeme t (c :: text) after)
    (position : Nat) : Text.isBlank c = false
      ∧ tokenAt position c (text ++ after) = .ok (t, text.length + 1) := by
  generalize htext : c :: text = lexeme at h
  cases h with
  | symbol h =>
    cases htext
    have hsymbol := symbol?_eq_some_iff.2 h
    exact ⟨isBlank_symbol hsymbol, by simp [tokenAt, hsymbol]⟩
  | @field id _ hne hbrace =>
    cases htext
    have hid : id.toList ≠ [] := by simpa using hne
    refine ⟨by decide, ?_⟩
    simpa using tokenAt_field hbrace hid position after
  | @number l mark _ hmark hl hlongest =>
    obtain ⟨d, ds, hhead, hd⟩ := hl.head mark
    obtain ⟨rfl, rfl⟩ := List.cons.inj (htext.trans hhead)
    have hnumeral := numeral_of_longest ⟨l, mark, hmark, hl.isShape, rfl⟩ hlongest
    have hread := unsigned?_textWith hl hmark
    obtain ⟨hblank, htoken⟩ := tokenAt_number hd position (text ++ after)
    rw [← htext, List.cons_append] at hnumeral
    rw [hnumeral, htext, hread, ← htext] at htoken
    exact ⟨hblank, htoken⟩

/-- A character begins no lexeme when it is no symbol, no brace that opens, no digit and no point. -/
theorem beginsNone_iff : BeginsNone c
    ↔ symbol? c = none ∧ c ≠ '\x7b' ∧ isDigit c = false ∧ c ≠ '.' := by
  constructor
  · intro hc
    refine ⟨?_, ?_, ?_, ?_⟩
    · rw [Option.eq_none_iff_forall_ne_some]
      intro t h
      exact hc t [c] [] (.symbol (symbol?_eq_some_iff.1 h)) rfl
    · rintro rfl
      have ha : "a" ≠ "" := by decide
      exact hc _ _ [] (.field ha (by decide)) rfl
    · rw [← Bool.not_eq_true]
      intro h
      -- a digit alone is a number, and so is a point with a digit behind it
      have hl : Numeral.IsLiteral ⟨[c], none, none⟩ :=
        ⟨by simpa [AllDigits] using h, by simp [AllDigits, Numeral.fractionDigits], .inl (by simp),
          by simp⟩
      exact hc _ [c] [] (.number (.inl rfl) hl (longest_nil _)) rfl
    · rintro rfl
      have hzero : AllDigits ['0'] := by simp [AllDigits]; decide
      have hl : Numeral.IsLiteral ⟨[], some ['0'], none⟩ :=
        ⟨by simp [AllDigits], hzero, .inr (by decide), by simp⟩
      exact hc _ ['.', '0'] [] (.number (.inl rfl) hl (longest_nil _)) rfl
  · rintro ⟨hsymbol, hbrace, hdigit, hpoint⟩ t lexeme after h hc
    cases h with
    | symbol h =>
      cases hc
      rw [symbol?_eq_some_iff.2 h] at hsymbol
      cases hsymbol
    | field =>
      cases hc
      exact hbrace rfl
    | @number l mark _ hmark hl =>
      obtain ⟨d, ds, hhead, hd⟩ := hl.head mark
      rw [hhead] at hc
      cases hc
      rcases hd with hd | hd
      · rw [hd] at hdigit
        cases hdigit
      · exact hpoint hd

/-- A fault is found where it is. -/
theorem tokenAt_of_fault {e : Error} (h : Fault e position (c :: cs)) :
    Text.isBlank c = false ∧ tokenAt position c cs = .error e := by
  have hsymbol : symbol? '\x7b' = none := rfl
  generalize htext : c :: cs = text at h
  cases h with
  | character hblank hc =>
    cases htext
    obtain ⟨hnone, hbrace, hdigit, hpoint⟩ := beginsNone_iff.1 hc
    exact ⟨hblank, by simp [tokenAt, hnone, hbrace, hdigit, hpoint]⟩
  | unterminated h =>
    cases htext
    have htake : cs.takeWhile (fun c => !decide (c = '\x7d')) = cs :=
      List.takeWhile_eq_self_iff.2 fun d hd => by simpa using ne_of_mem_of_not_mem hd h
    exact ⟨by decide, by simp [tokenAt, hsymbol, htake]⟩
  | empty =>
    cases htext
    exact ⟨by decide, by simp [tokenAt, hsymbol]⟩
  | @number _ l mark after hmark hl hlongest hpoint =>
    obtain ⟨hwhole, hfraction⟩ := hl.of_significand_point hpoint
    have hnumeral := numeral_of_longest ⟨l, mark, hmark, hl, rfl⟩ hlongest
    have hnone := unsigned?_point hmark hwhole hfraction
    have hhead : c = '.' := by
      rw [l.textWith_eq, hpoint] at htext
      exact (List.cons.inj htext).1
    obtain ⟨hblank, htoken⟩ := tokenAt_number (.inr hhead) position cs
    rw [htext, hnumeral, hnone] at htoken
    exact ⟨hblank, htoken⟩

theorem exists_isLexeme_number (hc : isDigit c = true ∨ c = '.') (position : Nat) (cs : List Char) :
    (∃ t d text after, c :: cs = d :: text ++ after ∧ IsLexeme t (d :: text) after)
      ∨ ∃ e, Fault e position (c :: cs) := by
  obtain ⟨rest, hcs, hlongest⟩ := longest_numeral (c :: cs)
  obtain ⟨-, l, mark, hmark, hl, htext⟩ := numeral_spec (c :: cs)
  rw [htext] at hcs hlongest
  by_cases hdigits : l.whole ≠ [] ∨ l.fractionDigits ≠ []
  · have hliteral : l.IsLiteral := ⟨hl.whole, hl.fraction, hdigits, hl.exponent⟩
    obtain ⟨d, ds, hhead, -⟩ := hliteral.head mark
    have hlexeme := IsLexeme.number hmark hliteral hlongest
    rw [hhead] at hlexeme hcs
    exact .inl ⟨_, d, ds, rest, hcs, hlexeme⟩
  · -- without a digit on either side of the point the number is the fault
    rw [not_or, not_not, not_not] at hdigits
    obtain ⟨hwhole, hfraction⟩ := hdigits
    obtain ⟨ds, hhead⟩ := numeral_cons hc cs
    rw [htext] at hhead
    have hpoint := significand_of_no_digit hmark hwhole hfraction hhead hc
    rw [hcs]
    exact .inr ⟨_, .number hmark hl hlongest hpoint⟩

/-- A text that does not begin with white space begins with a lexeme or with a fault. -/
theorem exists_isLexeme_or_fault (hblank : Text.isBlank c = false) (position : Nat) (cs : List Char) :
    (∃ t d text after, c :: cs = d :: text ++ after ∧ IsLexeme t (d :: text) after)
      ∨ ∃ e, Fault e position (c :: cs) := by
  cases hsymbol : symbol? c with
  | some t => exact .inl ⟨t, c, [], cs, rfl, .symbol (symbol?_eq_some_iff.1 hsymbol)⟩
  | none =>
    by_cases hbrace : c = '\x7b'
    · subst hbrace
      by_cases hclose : '\x7d' ∈ cs
      · obtain ⟨id, after, rfl, hid⟩ := List.eq_append_cons_of_mem hclose
        cases id with
        | nil => exact .inr ⟨_, .empty⟩
        | cons d ds =>
          have hfield : IsLexeme (.field (String.ofList (d :: ds)))
              ('\x7b' :: ((String.ofList (d :: ds)).toList ++ ['\x7d'])) after :=
            .field (by simp) (by simpa using hid)
          rw [String.toList_ofList] at hfield
          exact .inl ⟨_, _, _, after, by simp, hfield⟩
      · exact .inr ⟨_, .unterminated hclose⟩
    · by_cases hnumber : isDigit c = true ∨ c = '.'
      · exact exists_isLexeme_number hnumber position cs
      · rw [not_or, Bool.not_eq_true] at hnumber
        exact .inr ⟨_, .character hblank (beginsNone_iff.2 ⟨hsymbol, hbrace, hnumber.1, hnumber.2⟩)⟩

end Token

/-! ## The whole text -/

section Splits

variable {position last : Nat} {cs rest : List Char} {ts : List Placed}

theorem tokensAfter_skip (done : List Placed) (rest : List Char) :
    ∀ (cs : List Char) (position : Nat), tokensAfter done cs.length position (cs ++ rest)
      = tokensAfter done 0 (position + cs.length) rest
  | [], _ => rfl
  | c :: cs, position => by
    rw [List.cons_append, List.length_cons, tokensAfter, tokensAfter_skip done rest cs]
    congr 1
    omega

theorem IsLexeme.ne_nil {t : Token} {text after : List Char} (h : IsLexeme t text after) : text ≠ [] := by
  cases h with
  | symbol | field => exact List.cons_ne_nil _ _
  | @number l mark _ hmark hl =>
    obtain ⟨c, cs, hhead, -⟩ := hl.head mark
    rw [hhead]
    exact List.cons_ne_nil _ _

/-- A lexeme is taken as its token, with all its characters. -/
theorem tokensAfter_of_isLexeme {t : Token} {text : List Char} (h : IsLexeme t text rest)
    (done : List Placed) (position : Nat) : tokensAfter done 0 position (text ++ rest)
      = tokensAfter (⟨t, position⟩ :: done) 0 (position + text.length) rest := by
  obtain ⟨c, text, rfl⟩ := List.exists_cons_of_ne_nil h.ne_nil
  obtain ⟨hblank, htoken⟩ := tokenAt_of_isLexeme h position
  rw [List.cons_append, tokensAfter, if_neg (by simp [hblank]), htoken]
  dsimp only
  rw [Nat.add_sub_cancel, tokensAfter_skip, List.length_cons]
  congr 1
  omega

/-- The tokenizer follows a split of the text. -/
theorem tokensAfter_of_splits (h : Splits position cs ts last rest) (done : List Placed) :
    tokensAfter done 0 position cs = tokensAfter (ts.reverse ++ done) 0 last rest := by
  induction h generalizing done with
  | done => rfl
  | blank hc _ ih => rw [tokensAfter, if_pos hc, ih]
  | lexeme ht _ ih =>
    rw [tokensAfter_of_isLexeme ht, ih, List.reverse_cons, List.append_assoc]
    rfl

theorem Fault.ne_nil {e : Error} (h : Fault e position cs) : cs ≠ [] := by
  cases h with
  | character | unterminated | empty => exact List.cons_ne_nil _ _
  | @number _ l mark after _ _ _ hpoint =>
    rw [l.textWith_eq, hpoint]
    exact List.cons_ne_nil _ _

theorem tokensAfter_of_fault {e : Error} (h : Fault e position cs) (done : List Placed) :
    tokensAfter done 0 position cs = .error e := by
  obtain ⟨c, cs, rfl⟩ := List.exists_cons_of_ne_nil h.ne_nil
  obtain ⟨hblank, htoken⟩ := tokenAt_of_fault h
  rw [tokensAfter, if_neg (by simp [hblank]), htoken]

/-- Every text splits into white space and lexemes, to its end or to a fault. -/
theorem exists_splits (position : Nat) (cs : List Char) :
    ∃ ts last rest, Splits position cs ts last rest ∧ (rest = [] ∨ ∃ e, Fault e last rest) := by
  induction hn : cs.length using Nat.strong_induction_on generalizing position cs with
  | _ n ih =>
    subst hn
    cases cs with
    | nil => exact ⟨[], position, [], .done, .inl rfl⟩
    | cons c cs =>
      cases hblank : Text.isBlank c with
      | true =>
        obtain ⟨ts, last, rest, h, hend⟩ := ih _ (Nat.lt_succ_self _) (position + 1) cs rfl
        exact ⟨ts, last, rest, .blank hblank h, hend⟩
      | false =>
        rcases exists_isLexeme_or_fault hblank position cs with
          ⟨t, d, text, after, hcs, ht⟩ | hfault
        · -- a lexeme takes at least one character, so what is behind it is shorter
          have hlength : after.length < (c :: cs).length := by
            rw [hcs, List.cons_append, List.length_cons, List.length_append]
            omega
          obtain ⟨ts, last, rest, h, hend⟩ := ih _ hlength (position + (d :: text).length) after rfl
          rw [hcs]
          exact ⟨⟨t, position⟩ :: ts, last, rest, .lexeme ht h, hend⟩
        · exact ⟨[], position, c :: cs, .done, .inr hfault⟩

/-- The positions increase from token to token. -/
theorem Splits.increasing (h : Splits position cs ts last rest) :
    (∀ t ∈ ts, position ≤ t.position) ∧ ts.Pairwise (·.position < ·.position) := by
  induction h with
  | done => exact ⟨nofun, .nil⟩
  | blank _ _ ih =>
    obtain ⟨hlow, hpairwise⟩ := ih
    refine ⟨fun t ht => ?_, hpairwise⟩
    have := hlow t ht
    omega
  | @lexeme position t text cs ts last rest ht _ ih =>
    obtain ⟨hlow, hpairwise⟩ := ih
    have hlength := List.length_pos_iff.2 ht.ne_nil
    have hbehind : ∀ u ∈ ts, position < u.position := by
      intro u hu
      have := hlow u hu
      omega
    refine ⟨?_, .cons hbehind hpairwise⟩
    rintro u (_ | ⟨_, hu⟩)
    · exact Nat.le_refl _
    · exact Nat.le_of_lt (hbehind u hu)

/-- Every token of a split is written as a lexeme. -/
theorem Splits.isLexeme (h : Splits position cs ts last rest) :
    ∀ t ∈ ts, ∃ text after, IsLexeme t.token text after := by
  induction h with
  | done => exact nofun
  | blank _ _ ih => exact ih
  | lexeme ht _ ih =>
    rintro u (_ | ⟨_, hu⟩)
    · exact ⟨_, _, ht⟩
    · exact ih u hu

end Splits

/-! ## The tokenizer -/

theorem tokenize_of_splits {s : String} {ts : List Placed} {last : Nat}
    (h : Splits 0 s.toList ts last []) : tokenize s = .ok ts := by
  rw [tokenize, tokensAfter_of_splits h, tokensAfter, List.append_nil, List.reverse_reverse]

theorem tokenize_of_fault {s : String} {ts : List Placed} {last : Nat} {rest : List Char} {e : Error}
    (h : Splits 0 s.toList ts last rest) (he : Fault e last rest) : tokenize s = .error e := by
  rw [tokenize, tokensAfter_of_splits h, tokensAfter_of_fault he]

theorem splits_of_tokenize {s : String} {ts : List Placed} (h : tokenize s = .ok ts) :
    ∃ last, Splits 0 s.toList ts last [] := by
  obtain ⟨us, last, rest, hsplits, rfl | ⟨e, he⟩⟩ := exists_splits 0 s.toList
  · rw [tokenize_of_splits hsplits] at h
    cases h
    exact ⟨last, hsplits⟩
  · rw [tokenize_of_fault hsplits he] at h
    cases h

theorem fault_of_tokenize {s : String} {e : Error} (h : tokenize s = .error e) :
    ∃ ts last rest, Splits 0 s.toList ts last rest ∧ Fault e last rest := by
  obtain ⟨ts, last, rest, hsplits, rfl | ⟨e', he⟩⟩ := exists_splits 0 s.toList
  · rw [tokenize_of_splits hsplits] at h
    cases h
  · rw [tokenize_of_fault hsplits he] at h
    cases h
    exact ⟨ts, last, rest, hsplits, he⟩

theorem increasing_of_tokenize {s : String} {ts : List Placed} (h : tokenize s = .ok ts) :
    ts.Pairwise (·.position < ·.position) := by
  obtain ⟨last, hsplits⟩ := splits_of_tokenize h
  exact hsplits.increasing.2

/-- The tokens of a source are the ones it is written with: it splits into white space and their
lexemes, each at the position of its token. There are none where the source splits only up to a fault,
which is then the error. -/
theorem tokenize_iff_splits (s : String) :
    (∀ ts, tokenize s = .ok ts ↔ ∃ last, Splits 0 s.toList ts last []) ∧
    ∀ e, tokenize s = .error e
      ↔ ∃ ts last rest, Splits 0 s.toList ts last rest ∧ Fault e last rest := by
  constructor
  · intro ts
    constructor
    · exact splits_of_tokenize
    · rintro ⟨last, h⟩
      exact tokenize_of_splits h
  · intro e
    constructor
    · exact fault_of_tokenize
    · rintro ⟨ts, last, rest, h, he⟩
      exact tokenize_of_fault h he

/-- A mark without the digits of an exponent belongs to no number, and begins no lexeme. -/
example : tokenize "2 * 1.e+" = .error (.unexpectedCharacter 'e' 6) := rfl

end FormBuilder.Formula
