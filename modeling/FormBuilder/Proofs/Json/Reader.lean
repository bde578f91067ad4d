/-
The reader on the tokens of a document that has the shape: it takes the document as it stands when
that is nested within the limit, and refuses it as malformed when it is nested deeper.
-/
import FormBuilder.Json.Reader

namespace FormBuilder.Json

/-! ## The tokens of a document -/

mutual

/-- The tokens that a text of the document is cut into. -/
def elements : Json → List Token
  | .null => [.scalar false (.ok .null) (.ok ())]
  | .bool b => [.scalar false (.ok (.bool b)) (.ok ())]
  | .integer n => [.scalar false (.ok (.integer n)) (.ok ())]
  | .float x => [.scalar false (.ok (.float x)) (.ok ())]
  | .string s => [.scalar true (.ok (.string s)) (.ok ())]
  | .array items => .opening .square :: (itemElements items ++ [.closing .square])
  | .object entries => .opening .curly :: (entryElements entries ++ [.closing .curly])

def itemElements : List Json → List Token
  | [] => []
  | [j] => elements j
  | j :: js => elements j ++ .comma :: itemElements js

def entryElements : List (String × Json) → List Token
  | [] => []
  | [(k, j)] => .scalar true (.ok (.string k)) (.ok ()) :: .colon :: elements j
  | (k, j) :: es =>
    .scalar true (.ok (.string k)) (.ok ()) :: .colon :: (elements j ++ .comma :: entryElements es)

end

/-! ## Documents of a shape -/

namespace Shape

mutual

/-- A reader of the shape keeps the document with everything inside: nothing in it is refused, and
nothing is passed over. -/
def Keeps (s : Shape) : Json → Prop
  | .array items =>
    s.isSkipped = false ∧ s.opens .square = true ∧ KeepsItems s 0 items ∧ s.fits (.array items) = true
  | .object entries =>
    s.isSkipped = false ∧ s.opens .curly = true ∧ KeepsEntries s entries
      ∧ s.fits (.object entries) = true
  | .null => s.isSkipped = false ∧ s.fits .null = true
  | .bool b => s.isSkipped = false ∧ s.fits (.bool b) = true
  | .integer n => s.isSkipped = false ∧ s.fits (.integer n) = true
  | .float x => s.isSkipped = false ∧ s.fits (.float x) = true
  | .string t => s.isSkipped = false ∧ s.fits (.string t) = true

/-- The items of an array from an index on. -/
def KeepsItems (s : Shape) (index : Nat) : List Json → Prop
  | [] => True
  | j :: js => (∃ item, s.item? index = some item ∧ item.Keeps j) ∧ KeepsItems s (index + 1) js

/-- The entries of an object, where no key is repeated that must occur once. -/
def KeepsEntries (s : Shape) : List (String × Json) → Prop
  | [] => True
  | (k, j) :: es =>
    (s.member k).Keeps j ∧ (s.single k = true → ∀ e ∈ es, e.1 ≠ k) ∧ KeepsEntries s es

end

theorem Keeps.not_skipped {s : Shape} {j : Json} (h : s.Keeps j) : s.isSkipped = false := by
  cases j with
  | null | bool _ | integer _ | float _ | string _ | array _ | object _ => exact h.1

theorem Keeps.fits {s : Shape} {j : Json} (h : s.Keeps j) : s.fits j = true := by
  cases j with
  | null | bool _ | integer _ | float _ | string _ => exact h.2
  | array _ | object _ => exact h.2.2.2

end Shape

/-! ## Single steps -/

variable {limit : Nat} {s : Shape} {frames : List Frame}

/-- The arrays and objects that are open. -/
def openFrames (frames : List Frame) : Nat := (frames.filter fun f => !f.shape.isSkipped).length

theorem openFrames_cons {f : Frame} (h : f.shape.isSkipped = false) :
    openFrames (f :: frames) = openFrames frames + 1 := by
  unfold openFrames
  rw [List.filter_cons, h]
  rfl

theorem step_scalar {mayClose isString : Bool} {j : Json} (hskip : s.isSkipped = false)
    (hfits : s.fits j = true) :
    step limit ⟨frames, .value s mayClose⟩ (.scalar isString (.ok j) (.ok ()))
      = .ok (supply frames j) := by
  unfold step takeScalar
  simp [hskip, hfits]

/-- The outcome of reading a part of a document: where the reader gets to, unless the part is
nested deeper than the arrays and objects around it leave room for. -/
def within (limit : Nat) (frames : List Frame) (depth : Nat) (r : Reading) : Except Fault Reading :=
  if openFrames frames + depth ≤ limit then .ok r else .error .malformed

theorem within_of_le {depth : Nat} {r : Reading} (h : openFrames frames + depth ≤ limit) :
    within limit frames depth r = .ok r := if_pos h

theorem within_of_lt {depth : Nat} {r : Reading} (h : limit < openFrames frames + depth) :
    within limit frames depth r = .error .malformed := if_neg (Nat.not_le.2 h)

theorem within_cons {f : Frame} {depth : Nat} {r : Reading} (h : f.shape.isSkipped = false) :
    within limit (f :: frames) depth r = within limit frames (depth + 1) r := by
  unfold within
  rw [openFrames_cons h, Nat.add_assoc, Nat.add_comm 1]

/-- A part inside one more array or object, for which there is room. -/
theorem within_frame {f : Frame} {depth : Nat} {r : Reading} {outcome : Except Fault Reading}
    (hskip : f.shape.isSkipped = false) (hroom : openFrames frames < limit)
    (h : openFrames (f :: frames) ≤ limit → outcome = within limit (f :: frames) depth r) :
    outcome = within limit frames (depth + 1) r := by
  rw [← within_cons hskip]
  exact h (Nat.le_trans (Nat.le_of_eq (openFrames_cons hskip)) hroom)

/-- One part and then another one at the same place. -/
theorem within_bind {a b d : Nat} {r r' : Reading} {rest : Reading → Except Fault Reading}
    (hd : d = max a b) (h : openFrames frames + a ≤ limit → rest r = within limit frames b r') :
    within limit frames a r >>= rest = within limit frames d r' := by
  by_cases ha : openFrames frames + a ≤ limit
  · rw [within_of_le ha]
    refine (h ha).trans ?_
    by_cases hb : openFrames frames + b ≤ limit
    · rw [within_of_le hb, within_of_le (by omega)]
    · rw [within_of_lt (by omega), within_of_lt (by omega)]
  · rw [within_of_lt (by omega), within_of_lt (by omega)]
    rfl

/-! ## Beginnings and ends -/

/-- What has to come next in a new array. -/
def firstPhase (s : Shape) : Phase :=
  match s.item? 0 with
  | some item => .value item true
  | none => .separator

/-- Where the reader is behind the beginning of an array or an object. -/
def opened (s : Shape) (frames : List Frame) : Bracket → Reading
  | .square => ⟨.array s [] :: frames, firstPhase s⟩
  | .curly => ⟨.object s [] "" :: frames, .key true⟩

theorem step_opening {b : Bracket} {mayClose : Bool} (hskip : s.isSkipped = false)
    (hopens : s.opens b = true) :
    step limit ⟨frames, .value s mayClose⟩ (.opening b) = within limit frames 1 (opened s frames b) := by
  show begin limit ⟨frames, .value s mayClose⟩ s b = _
  unfold begin Reading.openCount
  simp only [hskip, hopens, Bool.not_true, Bool.not_false, Bool.true_and, decide_eq_true_eq,
    Bool.false_eq_true, if_false]
  split
  · rename_i hfull
    exact (within_of_lt (Nat.lt_succ_of_le hfull)).symm
  · rename_i hroom
    rw [within_of_le (Nat.lt_of_not_le hroom)]
    cases b with
    | curly => rfl
    | square =>
      unfold opened firstPhase
      cases s.item? 0 <;> rfl

theorem close_array {items : List Json} (hfits : s.fits (.array items) = true) :
    close (.array s items.reverse :: frames) .square = .ok (supply frames (.array items)) := by
  unfold close
  simp [hfits]

theorem close_object {entries : List (String × Json)} (key : String)
    (hfits : s.fits (.object entries) = true) :
    close (.object s entries.reverse key :: frames) .curly
      = .ok (supply frames (.object entries)) := by
  unfold close
  simp [hfits]

/-! ## Between beginning and end -/

theorem supply_array (items : List Json) (j : Json) :
    supply (.array s items :: frames) j = ⟨.array s (j :: items) :: frames, .separator⟩ := rfl

theorem supply_object (entries : List (String × Json)) {key : String} (j : Json)
    (hskip : (s.member key).isSkipped = false) :
    supply (.object s entries key :: frames) j
      = ⟨.object s ((key, j) :: entries) key :: frames, .separator⟩ := by
  unfold supply
  simp [hskip]

theorem step_key {entries : List (String × Json)} {old key : String} {mayClose : Bool}
    (hskip : s.isSkipped = false) (hnew : s.single key = true → ∀ e ∈ entries, e.1 ≠ key) :
    step limit ⟨.object s entries old :: frames, .key mayClose⟩
        (.scalar true (.ok (.string key)) (.ok ()))
      = .ok ⟨.object s entries key :: frames, .colon⟩ := by
  have hcheck : (s.single key && (entries.lookup key).isSome) = false := by
    -- only a key that may stand once is looked up among the entries read
    cases hs : s.single key with
    | false => rfl
    | true =>
      have hnone : entries.lookup key = none := by
        rw [List.lookup_eq_none_iff]
        intro e he
        simpa using fun h => hnew hs e he h.symm
      rw [hnone]
      rfl
  unfold step takeKey
  simp [hskip, hcheck]

theorem step_colon {entries : List (String × Json)} {key : String} :
    step limit ⟨.object s entries key :: frames, .colon⟩ .colon
      = .ok ⟨.object s entries key :: frames, .value (s.member key) false⟩ := rfl

theorem step_comma_array (items : List Json) {item : Shape} (h : s.item? items.length = some item) :
    step limit ⟨.array s items :: frames, .separator⟩ .comma
      = .ok ⟨.array s items :: frames, .value item false⟩ := by
  unfold step
  simp [h]

theorem step_comma_object {entries : List (String × Json)} {key : String} :
    step limit ⟨.object s entries key :: frames, .separator⟩ .comma
      = .ok ⟨.object s entries key :: frames, .key false⟩ := rfl

/-! ## A whole document -/

theorem foldlM_step_of {r r' : Reading} {t : Token} {ts : List Token}
    (h : step limit r t = .ok r') :
    (t :: ts).foldlM (step limit) r = ts.foldlM (step limit) r' := by
  rw [List.foldlM_cons, h]
  rfl

mutual

/-- Reading a document of the shape where a value has to stand. -/
theorem foldlM_elements : ∀ (j : Json) (s : Shape) (frames : List Frame) (mayClose : Bool),
    s.Keeps j → openFrames frames ≤ limit →
    (elements j).foldlM (step limit) ⟨frames, .value s mayClose⟩
      = within limit frames j.depth (supply frames j)
  | .null, s, frames, mayClose, h, hlimit | .bool _, s, frames, mayClose, h, hlimit
  | .integer _, s, frames, mayClose, h, hlimit | .float _, s, frames, mayClose, h, hlimit
  | .string _, s, frames, mayClose, h, hlimit => by
    rw [elements, List.foldlM_cons, step_scalar h.1 h.2]
    exact (within_of_le hlimit).symm
  | .array [], s, frames, mayClose, ⟨hskip, hopens, _, hfits⟩, hlimit => by
    rw [elements, itemElements, List.foldlM_cons, step_opening hskip hopens]
    refine within_bind (Nat.max_self 1).symm fun hroom => ?_
    have hclose : step limit ⟨.array s [] :: frames, firstPhase s⟩ (.closing .square)
        = .ok (supply frames (.array [])) := by
      unfold firstPhase
      cases s.item? 0 <;> exact close_array hfits
    exact (foldlM_step_of hclose).trans (within_of_le hroom).symm
  | .array (j :: js), s, frames, mayClose, ⟨hskip, hopens, hitems, hfits⟩, hlimit => by
    -- the opening bracket takes one level, which the items and the closing bracket share
    obtain ⟨⟨item, hitem, -⟩, -⟩ := id hitems
    have hfirst : firstPhase s = .value item true := by rw [firstPhase, hitem]
    rw [elements, List.foldlM_cons, step_opening hskip hopens, opened, hfirst, depth]
    refine within_bind (Nat.max_eq_right (Nat.le_add_left ..)).symm fun hroom => ?_
    rw [List.foldlM_append, foldlM_itemElements j js s frames [] item true hskip hitem hitems hroom]
    refine within_bind (Nat.max_self _).symm fun hdeep => ?_
    rw [List.append_nil]
    have hclose : step limit ⟨.array s (j :: js).reverse :: frames, .separator⟩ (.closing .square)
        = .ok (supply frames (.array (j :: js))) := close_array hfits
    exact (foldlM_step_of hclose).trans (within_of_le hdeep).symm
  | .object [], s, frames, mayClose, ⟨hskip, hopens, _, hfits⟩, hlimit => by
    rw [elements, entryElements, List.foldlM_cons, step_opening hskip hopens]
    refine within_bind (Nat.max_self 1).symm fun hroom => ?_
    have hclose : step limit ⟨.object s [] "" :: frames, .key true⟩ (.closing .curly)
        = .ok (supply frames (.object [])) := close_object "" hfits
    exact (foldlM_step_of hclose).trans (within_of_le hroom).symm
  | .object ((k, j) :: es), s, frames, mayClose, ⟨hskip, hopens, hentries, hfits⟩, hlimit => by
    rw [elements, List.foldlM_cons, step_opening hskip hopens, opened, depth]
    refine within_bind (Nat.max_eq_right (Nat.le_add_left ..)).symm fun hroom => ?_
    obtain ⟨last, hread⟩ := foldlM_entryElements k j es s frames [] "" true hskip hentries
      (fun _ _ _ d hd => nomatch hd) hroom
    rw [List.foldlM_append, hread]
    refine within_bind (Nat.max_self _).symm fun hdeep => ?_
    rw [List.append_nil]
    have hclose : step limit ⟨.object s ((k, j) :: es).reverse last :: frames, .separator⟩
        (.closing .curly) = .ok (supply frames (.object ((k, j) :: es))) := close_object last hfits
    exact (foldlM_step_of hclose).trans (within_of_le hdeep).symm
termination_by j => sizeOf j

/-- Reading the items of an array from one on. -/
theorem foldlM_itemElements : ∀ (j : Json) (js : List Json) (s : Shape) (frames : List Frame)
    (done : List Json) (item : Shape) (mayClose : Bool), s.isSkipped = false →
    s.item? done.length = some item → s.KeepsItems done.length (j :: js) →
    openFrames frames < limit →
    (itemElements (j :: js)).foldlM (step limit) ⟨.array s done :: frames, .value item mayClose⟩
      = within limit frames (depthItems (j :: js) + 1)
          ⟨.array s ((j :: js).reverse ++ done) :: frames, .separator⟩
  | j, [], s, frames, done, item, mayClose, hskip, hitem, h, hlimit => by
    obtain ⟨⟨item', hitem', hj⟩, -⟩ := h
    obtain rfl : item = item' := Option.some.inj (hitem.symm.trans hitem')
    have hfirst := within_frame (f := .array s done) hskip hlimit
      (foldlM_elements j item _ mayClose hj)
    rw [itemElements, hfirst, supply_array, depthItems, depthItems, Nat.max_zero]
    rfl
  | j, j' :: js, s, frames, done, item, mayClose, hskip, hitem, h, hlimit => by
    obtain ⟨⟨item', hitem', hj⟩, hjs⟩ := h
    obtain ⟨⟨next, hnext, -⟩, -⟩ := id hjs
    obtain rfl : item = item' := Option.some.inj (hitem.symm.trans hitem')
    have hfirst := within_frame (f := .array s done) hskip hlimit
      (foldlM_elements j item _ mayClose hj)
    have hrest := foldlM_itemElements j' js s frames (j :: done) next false hskip hnext hjs hlimit
    rw [itemElements, List.foldlM_append, hfirst, supply_array, depthItems]
    · refine within_bind (Nat.add_max_add_right ..).symm fun _ => ?_
      rw [foldlM_step_of (step_comma_array (j :: done) hnext), hrest, List.reverse_cons (a := j),
        List.append_assoc]
      rfl
    · exact nofun
termination_by j js => sizeOf (j :: js)

/-- Reading the entries of an object from one on. -/
theorem foldlM_entryElements : ∀ (k : String) (j : Json) (es : List (String × Json)) (s : Shape)
    (frames : List Frame) (done : List (String × Json)) (old : String) (mayClose : Bool),
    s.isSkipped = false → s.KeepsEntries ((k, j) :: es) →
    (∀ e ∈ (k, j) :: es, s.single e.1 = true → ∀ d ∈ done, d.1 ≠ e.1) →
    openFrames frames < limit →
    ∃ last, (entryElements ((k, j) :: es)).foldlM (step limit)
        ⟨.object s done old :: frames, .key mayClose⟩
      = within limit frames (depthEntries ((k, j) :: es) + 1)
          ⟨.object s (((k, j) :: es).reverse ++ done) last :: frames, .separator⟩
  | k, j, [], s, frames, done, old, mayClose, hskip, ⟨hj, _, _⟩, hnew, hlimit => by
    have hfirst := within_frame (f := .object s done k) hskip hlimit
      (foldlM_elements j _ _ false hj)
    refine ⟨k, ?_⟩
    rw [entryElements, foldlM_step_of (step_key hskip (hnew (k, j) (List.mem_cons_self ..))),
      foldlM_step_of step_colon, hfirst, supply_object done j hj.not_skipped, depthEntries,
      depthEntries, Nat.max_zero]
    rfl
  | k, j, (k', j') :: es, s, frames, done, old, mayClose, hskip, ⟨hj, hsingle, hes⟩, hnew, hlimit => by
    have hfirst := within_frame (f := .object s done k) hskip hlimit
      (foldlM_elements j _ _ false hj)
    -- a key that must occur once is neither among the entries before nor this one
    have hnew' : ∀ e ∈ (k', j') :: es, s.single e.1 = true → ∀ d ∈ (k, j) :: done, d.1 ≠ e.1 := by
      intro e he hs d hd
      rcases List.mem_cons.1 hd with rfl | hd
      · intro hkey
        have hkey' : e.1 = k := hkey.symm
        rw [hkey'] at hs
        exact hsingle hs e he hkey'
      · exact hnew e (List.mem_cons_of_mem _ he) hs d hd
    obtain ⟨last, hrest⟩ :=
      foldlM_entryElements k' j' es s frames ((k, j) :: done) k false hskip hes hnew' hlimit
    refine ⟨last, ?_⟩
    rw [entryElements, foldlM_step_of (step_key hskip (hnew (k, j) (List.mem_cons_self ..)))]
    · rw [foldlM_step_of step_colon, List.foldlM_append, hfirst,
        supply_object done j hj.not_skipped, depthEntries]
      refine within_bind (Nat.add_max_add_right ..).symm fun _ => ?_
      rw [foldlM_step_of step_comma_object, hrest, List.reverse_cons (a := (k, j)),
        List.append_assoc]
      rfl
    · exact nofun
termination_by k j es => sizeOf ((k, j) :: es)

end

/-- A text that is cut into the tokens of a document of the shape is read as that document, unless
the document is nested deeper than the limit: then the text is refused. -/
theorem readWithin_of_tokens {text : String} {j : Json} (htokens : tokens text = elements j)
    (h : s.Keeps j) :
    readWithin limit s text = if j.depth ≤ limit then .ok j else .error .malformed := by
  unfold readWithin
  rw [htokens, foldlM_elements j s [] false h (Nat.zero_le limit), within]
  have hzero : openFrames [] + j.depth = j.depth := Nat.zero_add _
  rw [hzero]
  by_cases hdeep : j.depth ≤ limit
  · rw [if_pos hdeep, if_pos hdeep]
    rfl
  · rw [if_neg hdeep, if_neg hdeep]

end FormBuilder.Json
