/-
The text of a document, spread over lines, is cut into the tokens of that document: every blank is
passed over, every string is read back through its escapes, and every number ends where it was
written to its end.
-/
import FormBuilder.Proofs.Json.Number
import FormBuilder.Proofs.Json.Reader
import FormBuilder.Proofs.Json.Writable

namespace FormBuilder.Json

/-! ## Escapes -/

theorem keptString_skip (done : List Char) (length : Nat) : ∀ cs rest : List Char,
    keptString done cs.length length (cs ++ rest) = keptString done 0 length rest
  | [], _ => rfl
  | c :: cs, rest => by
    rw [List.cons_append, List.length_cons]
    show keptString done cs.length length (cs ++ rest) = _
    exact keptString_skip done length cs rest

/-- An escape that stands for a character is read as that character. -/
theorem keptString_of_escape {c : Char} (cs : List Char) {done rest : List Char} {length : Nat}
    (h : escape (cs ++ rest) = .ok (c, cs.length)) :
    keptString done 0 length ('\\' :: cs ++ rest)
      = keptString (c :: done) 0 (length + ('\\' :: cs).length) rest := by
  rw [List.cons_append]
  conv_lhs => unfold keptString
  rw [if_neg (by decide), if_pos (by decide), h]
  simp only
  rw [keptString_skip, Nat.add_assoc]
  rfl

theorem utf8Size_foldl_le (n : Nat) : ∀ cs : List Char,
    n ≤ cs.foldl (fun n c => n + c.utf8Size) n
  | [] => Nat.le_refl n
  | c :: cs => Nat.le_trans (Nat.le_add_right ..) (utf8Size_foldl_le (n + c.utf8Size) cs)

theorem hexFour_append {a b c d : Char} {rest : List Char}
    (hall : ([a, b, c, d].all fun x => (Text.hexDigit? x).isSome) = true) :
    hexFour (a :: b :: c :: d :: rest) = .ok (Text.hexValue [a, b, c, d]) := by
  have hsize : ¬ ((a :: b :: c :: d :: rest).foldl (fun n c => n + c.utf8Size) 0) < 4 := by
    have h := utf8Size_foldl_le (0 + a.utf8Size + b.utf8Size + c.utf8Size + d.utf8Size) rest
    have ha := a.utf8Size_pos
    have hb := b.utf8Size_pos
    have hc := c.utf8Size_pos
    have hd := d.utf8Size_pos
    simp only [List.foldl_cons] at h ⊢
    omega
  unfold hexFour
  rw [if_neg hsize]
  simp only [List.take_succ_cons, List.take_zero, hall, Bool.and_true]
  rfl

/-- The escape of a control character holds its code in four digits. -/
theorem controlEscape_spec : ∀ n < 32, ∃ a b c d, controlEscape (Char.ofNat n) = ['\\', 'u', a, b, c, d]
    ∧ ([a, b, c, d].all fun x => (Text.hexDigit? x).isSome) = true
    ∧ Text.hexValue [a, b, c, d] = n := by
  have hcheck : ∀ n < 32, (controlEscape (Char.ofNat n)).length = 6
      ∧ (controlEscape (Char.ofNat n)).take 2 = ['\\', 'u']
      ∧ (((controlEscape (Char.ofNat n)).drop 2).all fun x => (Text.hexDigit? x).isSome) = true
      ∧ Text.hexValue ((controlEscape (Char.ofNat n)).drop 2) = n := by
    decide
  intro n hn
  obtain ⟨hlength, htake, hall, hvalue⟩ := hcheck n hn
  match hcs : controlEscape (Char.ofNat n), hlength with
  | [x, y, a, b, c, d], _ =>
    rw [hcs] at htake hall hvalue
    obtain ⟨rfl, rfl, -⟩ : x = '\\' ∧ y = 'u' ∧ True := by simpa using htake
    exact ⟨a, b, c, d, rfl, hall, hvalue⟩

theorem keptString_plain {c : Char} {done rest : List Char} {length : Nat} (hquote : c ≠ '"')
    (hbackslash : c ≠ '\\') (hcontrol : ¬ c.toNat < 32) :
    keptString done 0 length (c :: rest) = keptString (c :: done) 0 (length + 1) rest := by
  conv_lhs => unfold keptString
  simp [hquote, hbackslash, hcontrol]

theorem keptString_control {c : Char} {done rest : List Char} {length : Nat} (h : c.toNat < 32) :
    keptString done 0 length (controlEscape c ++ rest)
      = keptString (c :: done) 0 (length + (controlEscape c).length) rest := by
  obtain ⟨x, y, z, w, htext, hall, hvalue⟩ := controlEscape_spec c.toNat h
  rw [Char.ofNat_toNat] at htext
  rw [htext]
  refine keptString_of_escape ['u', x, y, z, w] ?_
  have hlead : isLeadingSurrogate c.toNat = false := by
    unfold isLeadingSurrogate
    simp
    omega
  have htrail : isTrailingSurrogate c.toNat = false := by
    unfold isTrailingSurrogate
    simp
    omega
  unfold escape
  simp only [List.cons_append, List.nil_append, hexFour_append hall, hvalue]
  show (if isTrailingSurrogate c.toNat = true then _ else _) = _
  rw [htrail, hlead, Char.ofNat_toNat]
  rfl

/-- A character is read back from its escape. -/
theorem keptString_escapeChar (c : Char) (done rest : List Char) (length : Nat) :
    keptString done 0 length (escapeChar c ++ rest)
      = keptString (c :: done) 0 (length + (escapeChar c).length) rest := by
  -- one case for each branch of the writer; the named escapes come before the numbered ones
  have hnat : ∀ n, c.toNat = n → c = Char.ofNat n := fun n h => by rw [← h, Char.ofNat_toNat]
  unfold escapeChar
  simp only [beq_iff_eq]
  split
  · rename_i h
    subst h
    exact keptString_of_escape ['"'] rfl
  rename_i hquote
  split
  · rename_i h
    subst h
    exact keptString_of_escape ['\\'] rfl
  rename_i hbackslash
  split
  · rename_i h
    exact keptString_of_escape ['n'] (h ▸ rfl)
  split
  · rename_i h
    exact keptString_of_escape ['r'] (h ▸ rfl)
  split
  · rename_i h
    exact keptString_of_escape ['t'] (h ▸ rfl)
  split
  · rename_i h
    exact keptString_of_escape ['b'] (hnat 8 h ▸ rfl)
  split
  · rename_i h
    exact keptString_of_escape ['f'] (hnat 12 h ▸ rfl)
  split
  · rename_i h
    exact keptString_control h
  · rename_i hcontrol
    exact keptString_plain hquote hbackslash hcontrol

/-! ## Strings -/

theorem keptString_flatMap (rest : List Char) : ∀ (cs done : List Char) (length : Nat),
    keptString done 0 length (cs.flatMap escapeChar ++ '"' :: rest)
      = .ok (String.ofList (done.reverse ++ cs), length + (cs.flatMap escapeChar).length + 1)
  | [], done, length => by
    rw [List.flatMap_nil, List.nil_append, List.append_nil]
    rfl
  | c :: cs, done, length => by
    rw [List.flatMap_cons, List.append_assoc, keptString_escapeChar,
      keptString_flatMap rest cs (c :: done), List.reverse_cons, List.append_assoc,
      List.length_append, Nat.add_assoc length]
    rfl

/-- A string is read back as it was written. -/
theorem tokenAt_quote (s : String) (rest : List Char) :
    tokenAt ((quote s).toList ++ rest)
      = (.scalar true (.ok (.string s)) (.ok ()), some (quote s).toList.length) := by
  have htext : (quote s).toList = '"' :: (s.toList.flatMap escapeChar ++ ['"']) := by
    unfold quote
    simp
  have hkept := keptString_flatMap rest s.toList [] 1
  rw [List.reverse_nil, List.nil_append, String.ofList_toList] at hkept
  have happend : '"' :: (s.toList.flatMap escapeChar ++ ['"']) ++ rest
      = '"' :: (s.toList.flatMap escapeChar ++ '"' :: rest) := by
    simp
  rw [htext, happend]
  unfold tokenAt
  simp only [hkept]
  simp
  omega

/-! ## Cutting -/

/-- A blank. -/
theorem tokensAfter_space {done : List Token} {c : Char} (h : isSpace c = true) (rest : List Char) :
    tokensAfter done 0 (c :: rest) = tokensAfter done 0 rest := by
  conv_lhs => unfold tokensAfter
  simp only [h, if_true]

theorem tokensAfter_spaces {done : List Token} (rest : List Char) :
    ∀ cs : List Char, (∀ c ∈ cs, isSpace c = true) →
      tokensAfter done 0 (cs ++ rest) = tokensAfter done 0 rest
  | [], _ => rfl
  | c :: cs, h => by
    rw [List.cons_append, tokensAfter_space (h c (List.mem_cons_self ..)),
      tokensAfter_spaces rest cs fun d hd => h d (List.mem_cons_of_mem _ hd)]

theorem tokensAfter_newLine {done : List Token} (level : Nat) (rest : List Char) :
    tokensAfter done 0 ((newLine level).toList ++ rest) = tokensAfter done 0 rest := by
  refine tokensAfter_spaces rest _ fun c hc => ?_
  unfold newLine at hc
  rw [String.toList_ofList] at hc
  rcases List.mem_cons.1 hc with rfl | hc
  · rfl
  · rw [List.eq_of_mem_replicate hc]
    rfl

theorem tokensAfter_skip {done : List Token} (rest : List Char) : ∀ cs : List Char,
    tokensAfter done cs.length (cs ++ rest) = tokensAfter done 0 rest
  | [] => rfl
  | c :: cs => by
    rw [List.cons_append, List.length_cons]
    show tokensAfter done cs.length (cs ++ rest) = _
    exact tokensAfter_skip rest cs

/-- No token begins at a blank. -/
theorem tokenAt_space {c : Char} (h : isSpace c = true) (cs : List Char) :
    tokenAt (c :: cs) = (.stray, none) := by
  unfold isSpace at h
  simp only [Bool.or_eq_true, beq_iff_eq] at h
  rcases h with ((rfl | rfl) | rfl) | rfl <;> rfl

/-- A token and the text behind it. -/
theorem tokensAfter_token (cs : List Char) {done : List Token} {t : Token} {rest : List Char}
    (hne : cs ≠ []) (h : tokenAt (cs ++ rest) = (t, some cs.length)) :
    tokensAfter done 0 (cs ++ rest) = tokensAfter (t :: done) 0 rest := by
  cases cs with
  | nil => exact absurd rfl hne
  | cons c cs =>
    rw [List.cons_append] at h ⊢
    have hspace : isSpace c = false := by
      rw [Bool.eq_false_iff]
      intro hspace
      rw [tokenAt_space hspace] at h
      exact nomatch congrArg Prod.snd h
    conv_lhs => unfold tokensAfter
    simp only [hspace, Bool.false_eq_true, if_false, h]
    exact tokensAfter_skip rest cs

/-! ## Documents -/

theorem stops_nil : Stops [] := nofun

theorem stops_comma (rest : List Char) : Stops (",".toList ++ rest) := by
  rintro c ⟨⟩
  decide

theorem stops_newLine (level : Nat) (rest : List Char) : Stops ((newLine level).toList ++ rest) := by
  unfold newLine
  rw [String.toList_ofList]
  rintro c ⟨⟩
  decide

theorem ne_nil_of_tokenAt {cs : List Char} {t : Token} {n : Nat}
    (h : tokenAt (cs ++ []) = (t, some n)) : cs ≠ [] := by
  rintro rfl
  exact nomatch congrArg Prod.snd h

/-- A bracket, comma or colon. -/
theorem tokensAfter_mark {done : List Token} {t : Token} {c : Char} {rest : List Char} (s : String)
    (hs : s.toList = [c]) (h : tokenAt (c :: rest) = (t, some 1)) :
    tokensAfter done 0 (s.toList ++ rest) = tokensAfter (t :: done) 0 rest := by
  rw [hs]
  exact tokensAfter_token [c] (by simp) h

/-- The key of an entry and the colon behind it. -/
theorem tokensAfter_key (done : List Token) (k : String) (rest : List Char) :
    tokensAfter done 0 ((quote k).toList ++ (": ".toList ++ rest))
      = tokensAfter (.colon :: .scalar true (.ok (.string k)) (.ok ()) :: done) 0 rest := by
  rw [tokensAfter_token _ (ne_nil_of_tokenAt (tokenAt_quote k [])) (tokenAt_quote k _)]
  have hcolon : ": ".toList ++ rest = ":".toList ++ ' ' :: rest := rfl
  rw [hcolon, tokensAfter_mark ":" rfl rfl]
  exact tokensAfter_space rfl rest

mutual

/-- The text of a document at a nesting level is cut into its tokens. -/
theorem tokensAfter_prettyAt : ∀ (j : Json) (level : Nat) (done : List Token) (rest : List Char),
    j.Writable → Stops rest →
    tokensAfter done 0 ((prettyAt level j).toList ++ rest)
      = tokensAfter (j.elements.reverse ++ done) 0 rest
  | .null, _, done, rest, _, _ => tokensAfter_token "null".toList (by decide) rfl
  | .bool true, _, done, rest, _, _ => tokensAfter_token "true".toList (by decide) rfl
  | .bool false, _, done, rest, _, _ => tokensAfter_token "false".toList (by decide) rfl
  | .integer n, _, done, rest, h, hrest =>
    tokensAfter_token _ (ne_nil_of_tokenAt (tokenAt_integer h.1 h.2 stops_nil))
      (tokenAt_integer h.1 h.2 hrest)
  | .float x, _, done, rest, h, hrest =>
    tokensAfter_token _ (ne_nil_of_tokenAt (tokenAt_floatText h stops_nil)) (tokenAt_floatText h hrest)
  | .string s, _, done, rest, _, _ =>
    tokensAfter_token _ (ne_nil_of_tokenAt (tokenAt_quote s [])) (tokenAt_quote s rest)
  | .array [], level, done, rest, _, _ => by
    have htext : (prettyAt level (.array [])).toList ++ rest
        = "[".toList ++ ("]".toList ++ rest) := by
      rw [prettyAt]
      rfl
    rw [htext, tokensAfter_mark "[" rfl rfl, tokensAfter_mark "]" rfl rfl]
    simp [elements, itemElements]
  | .array (j :: js), level, done, rest, h, hrest => by
    rw [prettyAt, elements]
    · -- the line break and the indentation before the closing bracket are no tokens
      simp only [String.toList_append, List.append_assoc]
      rw [tokensAfter_mark "[" rfl rfl,
        tokensAfter_prettyItems (j :: js) _ _ _ h (stops_newLine _ _), tokensAfter_newLine,
        tokensAfter_mark "]" rfl rfl]
      simp
    · exact nofun
  | .object [], level, done, rest, _, _ => by
    have htext : (prettyAt level (.object [])).toList ++ rest
        = "\x7b".toList ++ ("\x7d".toList ++ rest) := by
      rw [prettyAt]
      rfl
    rw [htext, tokensAfter_mark "\x7b" rfl rfl, tokensAfter_mark "\x7d" rfl rfl]
    simp [elements, entryElements]
  | .object (e :: es), level, done, rest, h, hrest => by
    rw [prettyAt, elements]
    · simp only [String.toList_append, List.append_assoc]
      rw [tokensAfter_mark "\x7b" rfl rfl,
        tokensAfter_prettyEntries (e :: es) _ _ _ h (stops_newLine _ _), tokensAfter_newLine,
        tokensAfter_mark "\x7d" rfl rfl]
      simp
    · exact nofun

theorem tokensAfter_prettyItems : ∀ (js : List Json) (level : Nat) (done : List Token)
    (rest : List Char), WritableItems js → Stops rest →
    tokensAfter done 0 ((prettyItems level js).toList ++ rest)
      = tokensAfter ((itemElements js).reverse ++ done) 0 rest
  | [], _, _, _, _, _ => rfl
  | [j], level, done, rest, h, hrest => by
    rw [prettyItems, itemElements, String.toList_append, List.append_assoc, tokensAfter_newLine]
    exact tokensAfter_prettyAt j level done rest h.1 hrest
  | j :: j' :: js, level, done, rest, h, hrest => by
    rw [prettyItems, itemElements]
    · simp only [String.toList_append, List.append_assoc]
      rw [tokensAfter_newLine, tokensAfter_prettyAt j level done _ h.1 (stops_comma _),
        tokensAfter_mark "," rfl rfl, tokensAfter_prettyItems (j' :: js) level _ rest h.2 hrest]
      simp
    · exact nofun
    · exact nofun

theorem tokensAfter_prettyEntries : ∀ (es : List (String × Json)) (level : Nat) (done : List Token)
    (rest : List Char), WritableEntries es → Stops rest →
    tokensAfter done 0 ((prettyEntries level es).toList ++ rest)
      = tokensAfter ((entryElements es).reverse ++ done) 0 rest
  | [], _, _, _, _, _ => rfl
  | [(k, j)], level, done, rest, h, hrest => by
    rw [prettyEntries, entryElements]
    simp only [String.toList_append, List.append_assoc]
    rw [tokensAfter_newLine, tokensAfter_key]
    refine (tokensAfter_prettyAt j level _ rest h.1 hrest).trans ?_
    simp
  | (k, j) :: e :: es, level, done, rest, h, hrest => by
    rw [prettyEntries, entryElements]
    · simp only [String.toList_append, List.append_assoc]
      rw [tokensAfter_newLine, tokensAfter_key,
        tokensAfter_prettyAt j level _ _ h.1 (stops_comma _),
        tokensAfter_mark "," rfl rfl, tokensAfter_prettyEntries (e :: es) level _ rest h.2 hrest]
      simp
    · exact nofun
    · exact nofun

end

/-- The text of a document that a text can hold is cut into the tokens of the document. -/
theorem tokens_pretty (j : Json) (h : j.Writable) : tokens j.pretty = j.elements := by
  have htokens := tokensAfter_prettyAt j 0 [] [] h stops_nil
  rw [List.append_nil, List.append_nil] at htokens
  unfold tokens pretty
  rw [htokens]
  show (j.elements.reverse).reverse = _
  rw [List.reverse_reverse]

end FormBuilder.Json
