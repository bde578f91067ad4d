/-
Regular expressions that are searched for in a text. A search only asks whether there is a match, so
groups do not capture and repetition is neither greedy nor lazy.
-/
import FormBuilder.Text.Blank
import FormBuilder.Text.Letter
import FormBuilder.Text.Case

namespace FormBuilder

/-- A set of characters. -/
abbrev CharSet := Char → Bool

namespace CharSet

def none : CharSet := fun _ => false

def all : CharSet := fun _ => true

def range (low high : Char) : CharSet := fun c => low ≤ c && c ≤ high

def single (c : Char) : CharSet := fun d => d == c

def union (s t : CharSet) : CharSet := fun c => s c || t c

def inter (s t : CharSet) : CharSet := fun c => s c && t c

def diff (s t : CharSet) : CharSet := fun c => s c && !t c

def symmDiff (s t : CharSet) : CharSet := fun c => s c != t c

def compl (s : CharSet) : CharSet := fun c => !s c

/-- Whether the set holds a character of U+0080 to U+00FF. -/
def beyondPlain (s : CharSet) : Bool := (List.range 128).any fun n => s (Char.ofNat (n + 128))

end CharSet

/-- A condition on a position between two characters. -/
inductive Look where
  | textStart | textEnd | lineStart | lineEnd
  /-- Lines end with a line feed, a carriage return or both in this order. -/
  | lineStartPair | lineEndPair
  | boundary (word : CharSet)
  | noBoundary (word : CharSet)
  | wordStart (word : CharSet)
  | wordEnd (word : CharSet)
  | wordStartHalf (word : CharSet)
  | wordEndHalf (word : CharSet)

inductive Pattern where
  | empty
  | set (s : CharSet)
  | look (l : Look)
  | sequence (p q : Pattern)
  | either (p q : Pattern)
  /-- At least `least` times, and at most `least + more` times where `more` is given. -/
  | repeated (p : Pattern) (least : Nat) (more : Option Nat)

/-! ## Positions -/

/-- Whether the condition holds between two characters, where a text begins and ends with none. -/
def Look.holds (before after : Option Char) : Look → Bool
  | .textStart => before.isNone
  | .textEnd => after.isNone
  | .lineStart => before.isNone || before == some '\n'
  | .lineEnd => after.isNone || after == some '\n'
  | .lineStartPair =>
    before.isNone || before == some '\n' || (before == some '\r' && after != some '\n')
  | .lineEndPair =>
    after.isNone || after == some '\r' || (after == some '\n' && before != some '\r')
  | .boundary w => before.any w != after.any w
  | .noBoundary w => before.any w == after.any w
  | .wordStart w => !before.any w && after.any w
  | .wordEnd w => before.any w && !after.any w
  | .wordStartHalf w => !before.any w
  | .wordEndHalf w => !after.any w

/-- A text and how its characters are reached by position. -/
abbrev Text.Chars := Array Char

/-- The character before a position. -/
def charBefore (text : Text.Chars) : Nat → Option Char
  | 0 => none
  | i + 1 => text[i]?

/-- Merges two ascending lists without repeats into one. -/
def mergePositions : List Nat → List Nat → List Nat
  | [], ys => ys
  | xs, [] => xs
  | x :: xs, y :: ys =>
    if x < y then x :: mergePositions xs (y :: ys)
    else if y < x then y :: mergePositions (x :: xs) ys
    else x :: mergePositions xs ys
termination_by xs ys => xs.length + ys.length

namespace Pattern

/-- Applies a step up to `n` times, and not again once nothing is left. -/
def iterate (step : List Nat → List Nat) : Nat → List Nat → List Nat
  | 0, xs => xs
  | n + 1, xs => if xs.isEmpty then [] else iterate step n (step xs)

/-- What up to `n` steps reach beside the positions `reached`, of which the positions `latest` are
those that the step before reached for the first time. -/
def spread (step : List Nat → List Nat) : Nat → (reached latest : List Nat) → List Nat
  | 0, reached, _ => reached
  | n + 1, reached, latest =>
    let new := (step latest).filter fun i => !reached.contains i
    if new.isEmpty then reached else spread step n (mergePositions reached new) new

/-- The positions at which matches end that begin at one of the positions `starts`. -/
def ends (text : Text.Chars) : Pattern → (starts : List Nat) → List Nat
  | .empty, starts => starts
  | .set s, starts => starts.filterMap fun i => if text[i]?.any s then some (i + 1) else none
  | .look l, starts => starts.filter fun i => l.holds (charBefore text i) text[i]?
  | .sequence p q, starts => ends text q (ends text p starts)
  | .either p q, starts => mergePositions (ends text p starts) (ends text q starts)
  | .repeated p least more, starts =>
    let least := iterate (ends text p) least starts
    spread (ends text p) (more.getD (text.size + 1)) least least

/-- Whether the pattern matches somewhere in a text. -/
def occursIn (p : Pattern) (text : String) : Bool :=
  let chars := text.toList.toArray
  !(p.ends chars (List.range (chars.size + 1))).isEmpty

/-! ## Size -/

/-- How many single steps the pattern has when its counted repetitions are written out. -/
def size : Pattern → Nat
  | .empty => 0
  | .set _ | .look _ => 1
  | .sequence p q => p.size + q.size
  | .either p q => p.size + q.size + 1
  | .repeated p least more => p.size * (least + more.getD 1) + 1

/-- Patterns of a larger size are refused. -/
def sizeLimit : Nat := Nat.pow 2 18

end Pattern

end FormBuilder
