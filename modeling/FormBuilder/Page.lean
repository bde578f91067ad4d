/-
Pages: the top-level fields of a form split at its page breaks, and the position of a respondent.
-/
import FormBuilder.Field.Basic

namespace FormBuilder

structure Page where
  label : String
  fields : List Field

/-! ## Splitting -/

def firstStepLabel : String := "Start"

def lastStepLabel : String := "Submit"

/-- Puts a field in front of the first page. -/
def Page.addFirst (f : Field) : List Page → List Page
  | [] => []
  | p :: ps => { p with fields := f :: p.fields } :: ps

/-- The pages of the fields, the first of them with a label. A page break begins a page of its own
label; progress trackers stand on no page. -/
def Page.split (label : String) : List Field → List Page
  | [] => [⟨label, []⟩]
  | f :: fs =>
    match f.type with
    | .pageBreak => ⟨label, []⟩ :: split f.label fs
    | .progressTracker => split label fs
    | _ => addFirst f (split label fs)

structure Pagination where
  pages : List Page
  hasTracker : Bool

/-- How far a respondent has come. -/
structure Progress where
  /-- Counted from zero. -/
  step : Nat
  total : Nat
  label : String

namespace Pagination

def ofFields (fields : List Field) : Pagination :=
  ⟨Page.split firstStepLabel fields, fields.any fun f => f.type == .progressTracker⟩

def count (p : Pagination) : Nat := p.pages.length

def isMultiPage (p : Pagination) : Bool := 1 < p.count

def page? (p : Pagination) (index : Nat) : Option Page := p.pages[index]?

/-- The labels of the pages and of the last step, which sends the form. -/
def stepLabels (p : Pagination) : List String := p.pages.map (·.label) ++ [lastStepLabel]

/-- The progress on a page; none without a progress tracker or with one page only. -/
def progress? (p : Pagination) (current : Nat) : Option Progress :=
  if p.hasTracker && p.isMultiPage then
    let step := min current (p.count - 1)
    some ⟨step, p.count, p.stepLabels[step]?.getD ""⟩
  else none

end Pagination

namespace Progress

def title (p : Progress) : String :=
  "Step " ++ toString (p.step + 1) ++ " of " ++ toString p.total

/-- The part of the way that lies behind. -/
def fraction (p : Progress) : Float :=
  if p.total = 0 then 0.0 else Float.ofNat p.step / Float.ofNat p.total

end Progress

/-! ## Navigation -/

/-- The current page, counted from zero, of a form of at least one page. -/
structure Navigator where
  current : Nat
  pages : Nat
  deriving DecidableEq, Repr

namespace Navigator

def ofPages (pages : Nat) : Navigator := ⟨0, max pages 1⟩

def canGoBack (n : Navigator) : Bool := 0 < n.current

def canGoNext (n : Navigator) : Bool := n.current + 1 < n.pages

def isLast (n : Navigator) : Bool := !n.canGoNext

def next (n : Navigator) : Navigator :=
  if n.canGoNext then { n with current := n.current + 1 } else n

def previous (n : Navigator) : Navigator := { n with current := n.current - 1 }

/-- Goes back to the first page when the number of pages has changed. -/
def resize (pages : Nat) (n : Navigator) : Navigator :=
  if max pages 1 = n.pages then n else ofPages pages

end Navigator

end FormBuilder
