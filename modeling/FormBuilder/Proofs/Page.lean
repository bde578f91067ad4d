/-
Pages split the top-level fields of a form faithfully: a field that is no page break and no progress
tracker stands on one page, the one that as many breaks come before, and all pages together hold these
fields in their order. A pass over the fields that closes one page after the other, and keeps the labels
of the steps beside them, comes to the same pages and labels.
-/
import FormBuilder.Page
import FormBuilder.Proofs.Tree.Outline

namespace FormBuilder

/-- The field stands on some page. -/
def Field.isPlaced (f : Field) : Bool := f.type != .pageBreak && f.type != .progressTracker

theorem Field.isPlaced_iff {f : Field} :
    f.isPlaced = true ↔ f.type ≠ .pageBreak ∧ f.type ≠ .progressTracker := by
  simp [isPlaced]

/-- A field ends a page, is not shown on any, or stands on one. -/
theorem Field.placement (f : Field) :
    f.type = .pageBreak ∨ f.type = .progressTracker ∨ f.isPlaced = true := by
  rw [isPlaced_iff]
  by_cases hbreak : f.type = .pageBreak
  · exact .inl hbreak
  · by_cases htracker : f.type = .progressTracker
    · exact .inr (.inl htracker)
    · exact .inr (.inr ⟨hbreak, htracker⟩)

@[simp] theorem Field.type_shell (f : Field) : f.shell.type = f.type := by
  cases f <;> rfl

@[simp] theorem Field.label_shell (f : Field) : f.shell.label = f.label := by
  cases f <;> rfl

/-! ## Splitting -/

namespace Page

theorem addFirst_ne_nil (f : Field) {ps : List Page} (h : ps ≠ []) : addFirst f ps ≠ [] := by
  cases ps with
  | nil => exact absurd rfl h
  | cons p ps => simp [addFirst]

theorem split_ne_nil (label : String) (fs : List Field) : split label fs ≠ [] := by
  induction fs generalizing label with
  | nil => simp [split]
  | cons f fs ih =>
    unfold split
    split
    · simp
    · exact ih label
    · exact addFirst_ne_nil f (ih label)

section Cons

variable {f : Field}

theorem split_pageBreak (h : f.type = .pageBreak) (fs : List Field) (label : String) :
    split label (f :: fs) = ⟨label, []⟩ :: split f.label fs := by
  rw [split, h]

theorem split_progressTracker (h : f.type = .progressTracker) (fs : List Field) (label : String) :
    split label (f :: fs) = split label fs := by
  rw [split, h]

theorem split_placed (h : f.isPlaced = true) (fs : List Field) (label : String) :
    split label (f :: fs) = addFirst f (split label fs) := by
  obtain ⟨hbreak, htracker⟩ := Field.isPlaced_iff.1 h
  rw [split]
  split
  · contradiction
  · contradiction
  · rfl

end Cons

/-- The page, counted from zero, of what stands at an index: as many page breaks stand before it. -/
def ofIndex (fs : List Field) (index : Nat) : Nat :=
  (fs.take index).countP fun f => f.type == .pageBreak

/-- The fields that stand on a page. -/
def content (fs : List Field) (k : Nat) : List Field :=
  (fs.zipIdx.filter fun p => ofIndex fs p.2 == k && p.1.isPlaced).map (·.1)

theorem content_cons (f : Field) (fs : List Field) (k : Nat) : content (f :: fs) k =
    (if 0 == k && f.isPlaced then [f] else []) ++
      (fs.zipIdx.filter fun p =>
        ofIndex fs p.2 + (if f.type == .pageBreak then 1 else 0) == k && p.1.isPlaced).map (·.1) := by
  have hrest : ((fs.zipIdx 1).filter fun p => ofIndex (f :: fs) p.2 == k && p.1.isPlaced).map (·.1)
      = (fs.zipIdx.filter fun p =>
        ofIndex fs p.2 + (if f.type == .pageBreak then 1 else 0) == k && p.1.isPlaced).map (·.1) := by
    rw [List.zipIdx_succ, List.filter_map, List.map_map]
    simp [Function.comp_def, ofIndex, List.countP_cons]
  have hfirst : ofIndex (f :: fs) 0 = 0 := rfl
  rw [content, List.zipIdx_cons, List.filter_cons, hfirst, ← hrest]
  cases 0 == k && f.isPlaced <;> rfl

theorem content_cons_pageBreak {f : Field} (h : f.type = .pageBreak) (fs : List Field) :
    content (f :: fs) 0 = [] ∧ ∀ k, content (f :: fs) (k + 1) = content fs k := by
  constructor
  · rw [content_cons]
    simp [Field.isPlaced, h]
  · intro k
    rw [content_cons]
    simp [content, h]

theorem content_cons_progressTracker {f : Field} (h : f.type = .progressTracker) (fs : List Field)
    (k : Nat) : content (f :: fs) k = content fs k := by
  rw [content_cons]
  simp [content, Field.isPlaced, h]

theorem content_cons_placed {f : Field} (h : f.isPlaced = true) (fs : List Field) :
    content (f :: fs) 0 = f :: content fs 0 ∧ ∀ k, content (f :: fs) (k + 1) = content fs (k + 1) := by
  have hbreak := (Field.isPlaced_iff.1 h).1
  constructor
  · rw [content_cons]
    simp [content, h, hbreak]
  · intro k
    rw [content_cons]
    simp [content, hbreak]

/-- Splitting puts every field on the page of its index. -/
theorem fields_of_split (fs : List Field) (label : String) (k : Nat) {page : Page}
    (h : (split label fs)[k]? = some page) : page.fields = content fs k := by
  induction fs generalizing label k page with
  | nil =>
    cases k with
    | zero => cases h; rfl
    | succ k => cases h
  | cons f fs ih =>
    rcases f.placement with hbreak | htracker | hplaced
    · rw [split_pageBreak hbreak] at h
      cases k with
      | zero =>
        cases h
        exact (content_cons_pageBreak hbreak fs).1.symm
      | succ k => rw [(content_cons_pageBreak hbreak fs).2, ih f.label k h]
    · rw [split_progressTracker htracker] at h
      rw [content_cons_progressTracker htracker, ih label k h]
    · -- the field goes in front of the first page, and all others stay as they are
      obtain ⟨first, later, hsplit⟩ := List.exists_cons_of_ne_nil (split_ne_nil label fs)
      rw [split_placed hplaced, hsplit, addFirst] at h
      cases k with
      | zero =>
        cases h
        have hfirst := ih label 0 (congrArg (·[0]?) hsplit)
        rw [(content_cons_placed hplaced fs).1, ← hfirst]
      | succ k => rw [(content_cons_placed hplaced fs).2, ih label (k + 1) (hsplit ▸ h)]

@[simp]
theorem labels_addFirst (f : Field) (ps : List Page) :
    (addFirst f ps).map (·.label) = ps.map (·.label) := by
  cases ps <;> rfl

theorem flatMap_fields_addFirst (f : Field) {ps : List Page} (h : ps ≠ []) :
    (addFirst f ps).flatMap (·.fields) = f :: ps.flatMap (·.fields) := by
  cases ps with
  | nil => exact absurd rfl h
  | cons p ps => rfl

theorem labels_split (fs : List Field) (label : String) : (split label fs).map (·.label)
    = label :: (fs.filter (·.type == .pageBreak)).map (·.label) := by
  induction fs generalizing label with
  | nil => rfl
  | cons f fs ih =>
    rcases f.placement with hbreak | htracker | hplaced
    · simp [split_pageBreak hbreak, ih, hbreak]
    · simp [split_progressTracker htracker, ih, htracker]
    · simp [split_placed hplaced, ih, (Field.isPlaced_iff.1 hplaced).1]

theorem flatMap_fields_split (fs : List Field) (label : String) :
    (split label fs).flatMap (·.fields) = fs.filter (·.isPlaced) := by
  induction fs generalizing label with
  | nil => rfl
  | cons f fs ih =>
    rcases f.placement with hbreak | htracker | hplaced
    · simp [split_pageBreak hbreak, ih, Field.isPlaced, hbreak]
    · simp [split_progressTracker htracker, ih, Field.isPlaced, htracker]
    · rw [split_placed hplaced, flatMap_fields_addFirst f (split_ne_nil label fs), ih,
        List.filter_cons_of_pos hplaced]

/-- The page with each of its fields changed. -/
def mapFields (change : Field → Field) (p : Page) : Page := { p with fields := p.fields.map change }

theorem addFirst_map (change : Field → Field) (f : Field) (ps : List Page) :
    addFirst (change f) (ps.map (mapFields change)) = (addFirst f ps).map (mapFields change) := by
  cases ps <;> rfl

/-- Of the fields themselves only the types and the labels count. -/
theorem split_map {change : Field → Field} (htype : ∀ f, (change f).type = f.type)
    (hlabel : ∀ f, (change f).label = f.label) (fs : List Field) (label : String) :
    split label (fs.map change) = (split label fs).map (mapFields change) := by
  induction fs generalizing label with
  | nil => rfl
  | cons f fs ih =>
    rw [List.map_cons]
    rcases f.placement with hbreak | htracker | hplaced
    · rw [split_pageBreak hbreak, split_pageBreak ((htype f).trans hbreak), hlabel, ih]
      rfl
    · rw [split_progressTracker htracker, split_progressTracker ((htype f).trans htracker), ih]
    · have hchanged : (change f).isPlaced = true := by rwa [Field.isPlaced, htype]
      rw [split_placed hplaced, split_placed hchanged, ih, addFirst_map]

/-- Fields that are put in front one by one come before those of the first page. -/
theorem foldr_addFirst (fs : List Field) (p : Page) (ps : List Page) :
    fs.foldr addFirst (p :: ps) = { p with fields := fs ++ p.fields } :: ps := by
  induction fs with
  | nil => rfl
  | cons f fs ih => rw [List.foldr_cons, ih]; rfl

end Page

/-! ## One pass over the fields -/

/-- A pass that has come to some field: the pages closed so far, the open one, the labels of the steps
up to it, and whether a progress tracker has been met. -/
structure Page.Pass where
  closed : List Page
  current : Page
  stepLabels : List String
  hasTracker : Bool

namespace Page.Pass

def start : Pass := ⟨[], ⟨firstStepLabel, []⟩, [firstStepLabel], false⟩

def visit (p : Pass) (f : Field) : Pass :=
  match f.type with
  | .pageBreak => { p with
      closed := p.closed ++ [p.current], current := ⟨f.label, []⟩, stepLabels := p.stepLabels ++ [f.label] }
  | .progressTracker => { p with hasTracker := true }
  | _ => { p with current.fields := p.current.fields ++ [f] }

/-- The pages, the labels of the steps, and whether there is a progress tracker. -/
def finish (p : Pass) : List Page × List String × Bool :=
  (p.closed ++ [p.current], p.stepLabels ++ [lastStepLabel], p.hasTracker)

/-- What the pass comes to when the rest of the fields follows. -/
def outcome (p : Pass) (rest : List Field) : List Page × List String × Bool :=
  (p.closed ++ p.current.fields.foldr addFirst (split p.current.label rest),
    p.stepLabels ++ (rest.filter (·.type == .pageBreak)).map (·.label) ++ [lastStepLabel],
    p.hasTracker || rest.any (·.type == .progressTracker))

theorem outcome_nil (p : Pass) : p.outcome [] = p.finish := by
  rw [outcome, split, foldr_addFirst]
  simp [finish]

/-- The outcome does not change along the pass. -/
theorem outcome_visit (p : Pass) (f : Field) (rest : List Field) :
    (p.visit f).outcome rest = p.outcome (f :: rest) := by
  rcases f.placement with hbreak | htracker | hplaced
  · have hvisit : p.visit f = { p with
        closed := p.closed ++ [p.current], current := ⟨f.label, []⟩
        stepLabels := p.stepLabels ++ [f.label] } := by rw [visit, hbreak]
    rw [hvisit, outcome, outcome, split_pageBreak hbreak, foldr_addFirst, List.any_cons, hbreak]
    simp [hbreak, Bool.false_or, show (FieldType.pageBreak == .progressTracker) = false from rfl]
  · have hvisit : p.visit f = { p with hasTracker := true } := by rw [visit, htracker]
    rw [hvisit, outcome, outcome, split_progressTracker htracker]
    simp [htracker]
  · obtain ⟨hbreak, htracker⟩ := Field.isPlaced_iff.1 hplaced
    have hvisit : p.visit f = { p with current.fields := p.current.fields ++ [f] } := by
      rw [visit]
      split <;> first | contradiction | rfl
    rw [hvisit, outcome, outcome, split_placed hplaced, List.foldr_append, List.any_cons,
      beq_eq_false_iff_ne.2 htracker]
    simp [hbreak]

theorem finish_foldl_visit (fs : List Field) (p : Pass) :
    (fs.foldl visit p).finish = p.outcome fs := by
  induction fs generalizing p with
  | nil => rw [List.foldl_nil, outcome_nil]
  | cons f fs ih => rw [List.foldl_cons, ih, outcome_visit]

end Page.Pass

namespace Pagination

variable (fields : List Field)

theorem labels_ofFields : (ofFields fields).pages.map (·.label)
    = firstStepLabel :: (fields.filter (·.type == .pageBreak)).map (·.label) :=
  Page.labels_split fields firstStepLabel

theorem count_ofFields :
    (ofFields fields).count = (fields.filter (·.type == .pageBreak)).length + 1 := by
  have hlength := congrArg List.length (labels_ofFields fields)
  rwa [List.length_map, List.length_cons, List.length_map] at hlength

theorem finish_visits : (fields.foldl Page.Pass.visit .start).finish
    = ((ofFields fields).pages, (ofFields fields).stepLabels, (ofFields fields).hasTracker) := by
  rw [Page.Pass.finish_foldl_visit, stepLabels, labels_ofFields]
  rfl

/-- A page is there for as many breaks as there are, and its fields are those that have come after as
many. -/
theorem page?_ofFields (k : Nat) : ((ofFields fields).page? k).map (·.fields)
    = if k ≤ (fields.filter (·.type == .pageBreak)).length then some (Page.content fields k)
      else none := by
  have hcount := count_ofFields fields
  cases hpage : (ofFields fields).page? k with
  | none =>
    have hle : (ofFields fields).count ≤ k := List.getElem?_eq_none_iff.1 hpage
    rw [if_neg (by omega)]
    rfl
  | some page =>
    have hlt : k < (ofFields fields).count := (List.getElem?_eq_some_iff.1 hpage).1
    rw [if_pos (by omega)]
    exact congrArg some (Page.fields_of_split fields firstStepLabel k hpage)

theorem hasTracker_ofFields :
    (ofFields fields).hasTracker = true ↔ ∃ f ∈ fields, f.type = .progressTracker := by
  simp [ofFields]

theorem isMultiPage_ofFields :
    (ofFields fields).isMultiPage = true ↔ ∃ f ∈ fields, f.type = .pageBreak := by
  rw [isMultiPage, count_ofFields, decide_eq_true_eq, Nat.lt_add_one_iff, Nat.one_le_iff_ne_zero,
    Ne, List.length_eq_zero_iff, List.filter_eq_nil_iff]
  simp

theorem progress?_isSome (p : Pagination) (current : Nat) :
    (p.progress? current).isSome = (p.hasTracker && p.isMultiPage) := by
  rw [progress?]
  cases p.hasTracker && p.isMultiPage <;> rfl

/-- Beyond the last page the progress is that of the last page. -/
theorem progress?_eq_some {p : Pagination} {current : Nat} {shown : Progress}
    (h : p.progress? current = some shown) :
    shown.step = min current (p.count - 1) ∧ shown.total = p.count ∧
      (p.page? shown.step).map (·.label) = some shown.label := by
  rw [progress?] at h
  split at h
  · rename_i hpages
    have hmulti : 1 < p.count := by
      simpa [isMultiPage] using (Bool.and_eq_true_iff.1 hpages).2
    cases h
    refine ⟨rfl, rfl, ?_⟩
    have hlt : min current (p.count - 1) < (p.pages.map (·.label)).length := by
      rw [List.length_map]
      show _ < p.count
      omega
    rw [page?, ← List.getElem?_map, stepLabels, List.getElem?_append_left hlt,
      List.getElem?_eq_getElem hlt, Option.getD_some]
  · cases h

/-- What is inside containers changes nothing but what stands on the pages. -/
theorem ofFields_congr {fields fields' : List Field}
    (h : fields'.map Field.shell = fields.map Field.shell) :
    (ofFields fields').stepLabels = (ofFields fields).stepLabels ∧
      (ofFields fields').progress? = (ofFields fields).progress? ∧
      (ofFields fields').pages.map (Page.mapFields Field.shell)
        = (ofFields fields).pages.map (Page.mapFields Field.shell) := by
  have hpages : ∀ fs, (ofFields (fs.map Field.shell)).pages
      = (ofFields fs).pages.map (Page.mapFields Field.shell) := fun fs =>
    Page.split_map Field.type_shell Field.label_shell fs firstStepLabel
  have htracker : ∀ fs, (ofFields (fs.map Field.shell)).hasTracker = (ofFields fs).hasTracker := by
    intro fs
    simp [ofFields, Function.comp_def]
  have hlabels : ∀ fs, (ofFields (fs.map Field.shell)).stepLabels = (ofFields fs).stepLabels := by
    intro fs
    simp [stepLabels, hpages, Page.mapFields, Function.comp_def]
  have hcount : ∀ fs, (ofFields (fs.map Field.shell)).count = (ofFields fs).count := by
    intro fs
    rw [count, hpages, List.length_map]
    rfl
  have hprogress : ∀ fs, (ofFields (fs.map Field.shell)).progress? = (ofFields fs).progress? := by
    intro fs
    funext current
    rw [progress?, progress?, isMultiPage, isMultiPage, htracker, hcount, hlabels]
  refine ⟨?_, ?_, ?_⟩
  · rw [← hlabels fields', h, hlabels]
  · rw [← hprogress fields', h, hprogress]
  · rw [← hpages fields', h, hpages]

/-- How the top-level fields of a form are split. One pass over them finds the pages, the labels of the
steps and the progress tracker. There is one page more than there are breaks, each with the fields that
come after as many breaks; together the pages hold every field but breaks and trackers, in their order,
and each but the first is labelled by the break in front of it. Progress is shown if there is a tracker,
wherever it stands, and a break. What stands inside containers has no part in this. -/
theorem ofFields_splits_at_breaks (fields : List Field) :
    let p := ofFields fields
    let breaks := fields.filter (·.type == .pageBreak)
    (fields.foldl Page.Pass.visit .start).finish = (p.pages, p.stepLabels, p.hasTracker) ∧
    p.count = breaks.length + 1 ∧
    (∀ k, (p.page? k).map (·.fields)
      = if k ≤ breaks.length then some (Page.content fields k) else none) ∧
    p.pages.flatMap (·.fields) = fields.filter (·.isPlaced) ∧
    p.pages.map (·.label) = "Start" :: breaks.map (·.label) ∧
    p.stepLabels = p.pages.map (·.label) ++ ["Submit"] ∧
    (∀ current,
      ((p.progress? current).isSome ↔
        (∃ f ∈ fields, f.type = .progressTracker) ∧ ∃ f ∈ fields, f.type = .pageBreak) ∧
      ∀ shown ∈ p.progress? current, shown.step = min current breaks.length ∧
        shown.total = p.count ∧ (p.page? shown.step).map (·.label) = some shown.label) ∧
    ∀ fields' : List Field, fields'.map Field.shell = fields.map Field.shell →
      (ofFields fields').stepLabels = p.stepLabels ∧ (ofFields fields').progress? = p.progress? ∧
      (ofFields fields').pages.map (Page.mapFields Field.shell)
        = p.pages.map (Page.mapFields Field.shell) := by
  intro p breaks
  have hcount : p.count = breaks.length + 1 := count_ofFields fields
  refine ⟨finish_visits fields, hcount, page?_ofFields fields,
    Page.flatMap_fields_split fields firstStepLabel, labels_ofFields fields, rfl, ?_,
    fun fields' => ofFields_congr⟩
  intro current
  constructor
  · rw [progress?_isSome, Bool.and_eq_true, hasTracker_ofFields, isMultiPage_ofFields]
  · intro shown hshown
    obtain ⟨hstep, htotal, hlabel⟩ := progress?_eq_some (Option.mem_def.1 hshown)
    rw [hcount, Nat.add_sub_cancel] at hstep
    exact ⟨hstep, htotal, hlabel⟩

end Pagination

end FormBuilder
