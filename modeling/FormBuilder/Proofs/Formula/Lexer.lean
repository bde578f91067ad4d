/-
Cutting formulas into tokens: the tokenizer cuts the text of an expression into the expression's
tokens, and whatever it cuts is of a form that can be written again.
-/
import FormBuilder.Proofs.Decimal.Literal
import FormBuilder.Proofs.Formula.Lexeme
import FormBuilder.Proofs.Formula.Shown

namespace FormBuilder.Formula

open Decimal (isNegative isFinite)
open Json (Stops)

/-! ## Cutting -/

/-- Whatever follows that does not continue a number, the text is cut into the tokens. -/
def Cuts (cs : List Char) (ts : List Token) : Prop :=
  ∀ rest, Stops rest → ∀ done position, ∃ placed : List Placed, placed.map Placed.token = ts ∧
    tokensAfter done 0 position (cs ++ rest)
      = tokensAfter (placed.reverse ++ done) 0 (position + cs.length) rest

section

variable {c : Char} {cs ds : List Char} {t : Token} {ts us : List Token}

/-- A lexeme whatever follows is cut whatever follows. -/
theorem cuts_of_isLexeme (h : ∀ rest, Stops rest → IsLexeme t cs rest) : Cuts cs [t] := by
  intro rest hrest done position
  exact ⟨[⟨t, position⟩], rfl, tokensAfter_of_isLexeme (h rest hrest) done position⟩

theorem Cuts.symbol (h : Cuts cs ts) (hc : symbol? c = some t) : Cuts (c :: cs) (t :: ts) := by
  intro rest hrest done position
  have ht : IsLexeme t [c] (cs ++ rest) := .symbol (symbol?_eq_some_iff.1 hc)
  have hlexeme := tokensAfter_of_isLexeme ht done position
  obtain ⟨placed, hplaced, hrun⟩ := h rest hrest (⟨t, position⟩ :: done) (position + 1)
  rw [List.cons_append, List.nil_append, List.length_singleton, hrun] at hlexeme
  refine ⟨⟨t, position⟩ :: placed, by simp [hplaced], ?_⟩
  rw [List.cons_append, hlexeme, List.reverse_cons, List.append_assoc, List.length_cons,
    List.singleton_append]
  congr 1
  omega

theorem Cuts.blank (h : Cuts cs ts) : Cuts (' ' :: cs) ts := by
  intro rest hrest done position
  obtain ⟨placed, hplaced, hrun⟩ := h rest hrest done (position + 1)
  refine ⟨placed, hplaced, ?_⟩
  rw [List.cons_append, tokensAfter, if_pos (by decide), hrun, List.length_cons]
  congr 1
  omega

theorem Cuts.append (h : Cuts cs ts) (h' : Cuts ds us) (hstops : ∀ rest, Stops (ds ++ rest)) :
    Cuts (cs ++ ds) (ts ++ us) := by
  intro rest hrest done position
  obtain ⟨placed, hplaced, hrun⟩ := h (ds ++ rest) (hstops rest) done position
  obtain ⟨placed', hplaced', hrun'⟩ := h' rest hrest (placed.reverse ++ done) (position + cs.length)
  refine ⟨placed ++ placed', by simp [hplaced, hplaced'], ?_⟩
  rw [List.append_assoc, hrun, hrun', List.length_append]
  simp only [List.reverse_append, List.append_assoc]
  congr 1
  omega

theorem cuts_nil : Cuts [] [] := fun _ _ _ _ => ⟨[], rfl, rfl⟩

end

/-- A text that is cut to its end has the tokens. -/
theorem Cuts.tokenize {s : String} {ts : List Token} (h : Cuts s.toList ts) :
    ∃ placed, tokenize s = .ok placed ∧ placed.map Placed.token = ts := by
  obtain ⟨placed, hplaced, hrun⟩ := h [] nofun [] 0
  refine ⟨placed, ?_, hplaced⟩
  rw [List.append_nil, List.append_nil] at hrun
  rw [Formula.tokenize, hrun, tokensAfter, List.reverse_reverse]

/-! ## Operands -/

/-- What a token may hold to be written into a formula: a finite number without a sign, and an id
that ends where its braces end. -/
def Token.Writable : Token → Prop
  | .number x => isFinite x = true ∧ isNegative x = false
  | .field id => id ≠ "" ∧ '\x7d' ∉ id.toList
  | _ => True

/-- A finite number that is not negative is cut as that number. -/
theorem cuts_number {x : Float} (hfinite : isFinite x = true) (hsign : isNegative x = false) :
    Cuts (formatNumber x).toList [.number x] := by
  obtain ⟨l, htext, hl, hvalue⟩ := Decimal.exists_numeral_formatNumber hfinite
  rw [hsign] at htext hvalue
  rw [htext, if_neg (by simp), List.nil_append, l.text_eq]
  have hx : Decimal.nearest l.digits l.place = x := hvalue
  have hliteral := hl.isLiteral
  rw [← hx]
  exact cuts_of_isLexeme fun rest hrest =>
    .number (.inl rfl) hliteral (longest_of_stops hliteral.isShape (.inl rfl) hrest)

/-- An id without a closing brace is cut to its end. -/
theorem cuts_field {id : String} (hne : id ≠ "") (hbrace : '\x7d' ∉ id.toList) :
    Cuts (braced id).toList [.field id] := by
  have htext : (braced id).toList = '\x7b' :: (id.toList ++ ['\x7d']) := by
    simp [braced]
  rw [htext]
  exact cuts_of_isLexeme fun rest _ => .field hne hbrace

/-! ## Texts -/

theorem cuts_parenthesized {s : String} {ts : List Token} (h : Cuts s.toList ts) (wrap : Bool) :
    Cuts (Expr.parenthesized wrap s).toList (wrapped wrap ts) := by
  cases wrap with
  | false => exact h
  | true =>
    have hright : Cuts [')'] [.rightParen] := cuts_nil.symbol rfl
    have htext : (Expr.parenthesized true s).toList = '(' :: (s.toList ++ [')']) := by
      simp [Expr.parenthesized]
    rw [htext]
    refine Cuts.symbol (h.append hright ?_) rfl
    rintro rest c ⟨⟩
    decide

/-- An operator stands between blanks. -/
theorem cuts_operator {l r op : String} {c : Char} {t : Token} {ts us : List Token}
    (hl : Cuts l.toList ts) (hr : Cuts r.toList us) (hop : op.toList = [' ', c, ' '])
    (hc : symbol? c = some t) :
    Cuts (l ++ op ++ r).toList (ts ++ t :: us) := by
  have htext : (l ++ op ++ r).toList = l.toList ++ (' ' :: c :: ' ' :: r.toList) := by
    simp [hop]
  rw [htext]
  refine hl.append (hr.blank.symbol hc).blank ?_
  rintro rest c ⟨⟩
  decide

namespace Expr

/-- The numbers and field references from left to right. -/
def operands : Expr → List Token
  | .sum l r | .subtract l r | .multiply l r | .divide l r => l.operands ++ r.operands
  | .negate e => e.operands
  | .number x => [.number x]
  | .field id => [.field id]

/-- Every number literal is finite. -/
def Finite (e : Expr) : Prop := ∀ x, Token.number x ∈ e.operands → isFinite x = true

/-- The text of an expression is cut into the tokens of the expression. -/
theorem cuts_textIn {e : Expr} (h : ∀ t ∈ e.operands, t.Writable) (outer : Nat) :
    Cuts (e.textIn outer).toList (e.tokensIn outer) := by
  induction e generalizing outer with
  | sum l r hl hr =>
    obtain ⟨hwl, hwr⟩ := List.forall_mem_append.1 h
    rw [textIn, tokensIn]
    exact cuts_parenthesized (cuts_operator (hl hwl 1) (hr hwr 1) rfl rfl) _
  | subtract l r hl hr =>
    obtain ⟨hwl, hwr⟩ := List.forall_mem_append.1 h
    rw [textIn, tokensIn]
    exact cuts_parenthesized (cuts_operator (hl hwl 1) (hr hwr 2) rfl rfl) _
  | multiply l r hl hr =>
    obtain ⟨hwl, hwr⟩ := List.forall_mem_append.1 h
    rw [textIn, tokensIn]
    exact cuts_parenthesized (cuts_operator (hl hwl 2) (hr hwr 2) rfl rfl) _
  | divide l r hl hr =>
    obtain ⟨hwl, hwr⟩ := List.forall_mem_append.1 h
    rw [textIn, tokensIn]
    exact cuts_parenthesized (cuts_operator (hl hwl 2) (hr hwr 3) rfl rfl) _
  | negate e ih =>
    have htext : ("-" ++ textIn 3 e).toList = '-' :: (textIn 3 e).toList := by simp
    rw [textIn, tokensIn]
    refine cuts_parenthesized ?_ _
    rw [htext]
    exact (ih h 3).symbol rfl
  | number x =>
    obtain ⟨hfinite, hsign⟩ := h _ (List.mem_singleton_self _)
    rw [textIn, tokensIn]
    exact cuts_parenthesized (cuts_number hfinite hsign) _
  | field id =>
    obtain ⟨hne, hbrace⟩ := h _ (List.mem_singleton_self _)
    rw [textIn, tokensIn]
    exact cuts_parenthesized (cuts_field hne hbrace) _

end Expr

/-! ## What is cut can be written -/

/-- What the tokens of a source hold: what can be written, and infinities. -/
def Token.Lexical (t : Token) : Prop :=
  match t with
  | .number x => isNegative x = false
  | _ => t.Writable

theorem IsLexeme.lexical {t : Token} {text after : List Char} (h : IsLexeme t text after) :
    t.Lexical := by
  cases h with
  | symbol h =>
    simp only [symbols, List.mem_cons, Prod.mk.injEq, List.not_mem_nil, or_false] at h
    rcases h with ⟨-, rfl⟩ | ⟨-, rfl⟩ | ⟨-, rfl⟩ | ⟨-, rfl⟩ | ⟨-, rfl⟩ | ⟨-, rfl⟩ <;> trivial
  | field hne hbrace => exact ⟨hne, hbrace⟩
  | number hmark hl => exact Decimal.isNegative_of_unsigned? (Decimal.unsigned?_textWith hl hmark)

theorem lexical_tokenize {s : String} {placed : List Placed} (h : tokenize s = .ok placed) :
    ∀ t ∈ placed.map Placed.token, t.Lexical := by
  intro t ht
  obtain ⟨p, hp, rfl⟩ := List.mem_map.1 ht
  obtain ⟨last, hsplits⟩ := splits_of_tokenize h
  obtain ⟨text, after, hlexeme⟩ := hsplits.isLexeme p hp
  exact hlexeme.lexical

theorem SumOp.operands_build (op : SumOp) (l r : Expr) :
    (op.build l r).operands = l.operands ++ r.operands := by
  cases op <;> rfl

theorem ProductOp.operands_build (op : ProductOp) (l r : Expr) :
    (op.build l r).operands = l.operands ++ r.operands := by
  cases op <;> rfl

/-- The operands of an expression are among the tokens that it stands for. -/
theorem Derives.operands_sublist {p : Phrase} {ts : List Token} {e : Expr} {d : Nat}
    (h : Derives p ts e d) : e.operands.Sublist ts := by
  induction h with
  | number | field => exact .refl _
  | parens _ ih => exact .cons _ (ih.trans (List.sublist_append_left _ _))
  | sign s _ ih => cases s <;> exact .cons _ ih
  | primary _ ih | unary _ ih | term _ ih => exact ih
  | product op _ _ ihl ihr =>
    rw [op.operands_build]
    exact ihl.append (.cons _ ihr)
  | sum op _ _ ihl ihr =>
    rw [op.operands_build]
    exact ihl.append (.cons _ ihr)

/-- The operands of a parsed expression can be written again where they are finite. -/
theorem writable_operands {s : String} {placed : List Placed} {e : Expr} {d : Nat}
    (htokens : tokenize s = .ok placed) (h : Derives .expression (placed.map Placed.token) e d)
    (hfinite : e.Finite) : ∀ t ∈ e.operands, t.Writable := by
  intro t ht
  have hlexical := lexical_tokenize htokens t (h.operands_sublist.subset ht)
  cases t with
  | number x => exact ⟨hfinite x ht, hlexical⟩
  | _ => exact hlexical

end FormBuilder.Formula
