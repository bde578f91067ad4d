/-
The parts of written patterns that stand for one character, one set of characters or one condition:
flags, escapes and the names of character sets.
-/
import FormBuilder.Pattern.Basic

namespace FormBuilder.Pattern

/-! ## Flags -/

/-- How the text of a pattern is read from some point on. -/
structure Flags where
  caseless : Bool := false
  multiLine : Bool := false
  dotAll : Bool := false
  /-- Lines may also end with a carriage return. -/
  pairedLines : Bool := false
  /-- Named sets hold ASCII characters only. -/
  plain : Bool := false
  /-- White space and comments in the pattern mean nothing. -/
  verbose : Bool := false

/-- Switches the flag of a letter on or off. -/
def Flags.set (f : Flags) (letter : Char) (on : Bool) : Option Flags :=
  match letter with
  | 'i' => some { f with caseless := on }
  | 'm' => some { f with multiLine := on }
  | 's' => some { f with dotAll := on }
  | 'R' => some { f with pairedLines := on }
  | 'u' => some { f with plain := !on }
  | 'x' => some { f with verbose := on }
  | 'U' => some f
  | _ => none

/-- Skips white space and comments, which run from a number sign to the end of the line. -/
def skipVerbose (comment : Bool) : List Char → List Char
  | [] => []
  | c :: cs =>
    if comment then skipVerbose (c != '\n') cs
    else if c == '#' then skipVerbose true cs
    else if Text.isBlank c then skipVerbose false cs
    else c :: cs

def Flags.skip (f : Flags) (cs : List Char) : List Char :=
  if f.verbose then skipVerbose false cs else cs

/-- The sets of characters of a word, as the flags have it. -/
def Flags.wordSet (f : Flags) : CharSet :=
  if f.plain then fun c => Text.isPlainLetter c || Text.isPlainDigit c || c == '_' else Text.isWord

def Flags.digitSet (f : Flags) : CharSet :=
  if f.plain then Text.isPlainDigit else Text.isDecimalDigit

def Flags.blankSet (f : Flags) : CharSet :=
  if f.plain then fun c => Text.isBlank c && c.toNat < 128 else Text.isBlank

def swapPlainCase (c : Char) : Char :=
  if 'a' ≤ c && c ≤ 'z' then Char.ofNat (c.toNat - 32)
  else if 'A' ≤ c && c ≤ 'Z' then Char.ofNat (c.toNat + 32)
  else c

/-- The set with everything that differs from a member in case only, if the flags ask for it. -/
def Flags.fold (f : Flags) (s : CharSet) : CharSet :=
  if !f.caseless then s
  else if f.plain then fun c => s c || s (swapPlainCase c)
  else fun c => (Text.caseVariants c).any s

def Flags.foldThenNegate (f : Flags) (negated : Bool) (s : CharSet) : CharSet :=
  if negated then (f.fold s).compl else f.fold s

/-- The set that a dot stands for. -/
def Flags.dotSet (f : Flags) : CharSet :=
  if f.dotAll then .all
  else if f.pairedLines then fun c => c != '\n' && c != '\r'
  else fun c => c != '\n'

/-! ## Named sets -/

/-- The ASCII sets that are named between colons. -/
def plainSet? : String → Option CharSet
  | "alnum" => some fun c => Text.isPlainLetter c || Text.isPlainDigit c
  | "alpha" => some Text.isPlainLetter
  | "ascii" => some fun c => c.toNat < 128
  | "blank" => some fun c => c == '\t' || c == ' '
  | "cntrl" => some fun c => c.toNat < 32 || c.toNat == 127
  | "digit" => some Text.isPlainDigit
  | "graph" => some (.range '!' '~')
  | "lower" => some (.range 'a' 'z')
  | "print" => some (.range ' ' '~')
  | "punct" => some fun c =>
      '!' ≤ c && c ≤ '~' && !(Text.isPlainLetter c || Text.isPlainDigit c)
  | "space" => some fun c => c == ' ' || ('\t' ≤ c && c ≤ '\r')
  | "upper" => some (.range 'A' 'Z')
  | "word" => some fun c => Text.isPlainLetter c || Text.isPlainDigit c || c == '_'
  | "xdigit" => some fun c => (Text.hexDigit? c).isSome
  | _ => none

/-- The name of a property in the spelling that names are compared in: without blanks, hyphens and
underscores, in lower case, and without a leading `is`. -/
def propertyName (cs : List Char) : String :=
  let kept := (cs.filter fun c => c != ' ' && c != '-' && c != '_').map fun c =>
    if 'A' ≤ c && c ≤ 'Z' then Char.ofNat (c.toNat + 32) else c
  match kept with
  | 'i' :: 's' :: rest => String.ofList rest
  | _ => String.ofList kept

/-- The set of characters with a property. -/
def propertySet? : String → Option CharSet
  | "l" | "letter" => some Text.isLetter
  | "lu" | "uppercaseletter" => some Text.isUppercase
  | "m" | "mark" | "combiningmark" => some Text.markTable.contains
  | "n" | "number" => some Text.isNumeric
  | "nd" | "decimalnumber" | "digit" => some Text.isDecimalDigit
  | "pc" | "connectorpunctuation" => some Text.connectorTable.contains
  | "alphabetic" | "alpha" => some Text.isAlphabetic
  | "whitespace" | "wspace" | "space" => some Text.isBlank
  | "cased" => some Text.isCased
  | "caseignorable" | "ci" => some Text.isCaseIgnorable
  | "any" => some .all
  | "ascii" => some fun c => c.toNat < 128
  | _ => none

/-! ## Escapes -/

/-- What an escape stands for. -/
inductive Atom where
  | literal (c : Char)
  | set (s : CharSet)
  | look (l : Look)

/-- The character with a code point, unless it is no code point of a character. -/
def charOfNat? (n : Nat) : Option Char :=
  if h : n.isValidChar then some (Char.ofNatAux n h) else none

/-- Exactly `n` hexadecimal digits. -/
def hexDigits? (f : Flags) : Nat → (value : Nat) → List Char → Option (Nat × List Char)
  | 0, value, cs => some (value, cs)
  | n + 1, value, c :: cs =>
    (Text.hexDigit? c).bind fun d => hexDigits? f n (16 * value + d) (f.skip cs)
  | _, _, [] => none

/-- Everything up to a closing brace, with what stands behind the brace. -/
def untilBrace (f : Flags) : Nat → List Char → Option (List Char × List Char)
  | fuel + 1, c :: cs =>
    if c == '}' then some ([], cs)
    else (untilBrace f fuel (f.skip cs)).map fun (inner, rest) => (c :: inner, rest)
  | _, _ => none

/-- A code point after `\x`, `\u` or `\U`: a fixed count of digits, or digits between braces. -/
def codePoint? (f : Flags) (digits : Nat) (cs : List Char) : Option (Char × List Char) :=
  match f.skip cs with
  | '{' :: cs => do
    let (inner, rest) ← untilBrace f cs.length (f.skip cs)
    let ds ← inner.mapM Text.hexDigit?
    guard !ds.isEmpty
    let c ← charOfNat? (ds.foldl (fun n d => 16 * n + d) 0)
    return (c, f.skip rest)
  | cs => do
    let (n, rest) ← hexDigits? f digits 0 cs
    return (← charOfNat? n, rest)

/-- The set of a property after `\p` or `\P`: a name between braces, or one letter. -/
def property? (f : Flags) (negated : Bool) (cs : List Char) : Option (CharSet × List Char) := do
  let (name, rest) ← match f.skip cs with
    | '{' :: cs => untilBrace f cs.length (f.skip cs)
    | '\\' :: _ | [] => none
    | c :: cs => some ([c], f.skip cs)
  guard !f.plain
  let s ← propertySet? (propertyName name)
  return (f.foldThenNegate negated s, rest)

/-- The condition that a name between braces behind `\b` stands for. -/
def namedBoundary? (word : CharSet) : String → Option Look
  | "start" => some (.wordStart word)
  | "end" => some (.wordEnd word)
  | "start-half" => some (.wordStartHalf word)
  | "end-half" => some (.wordEndHalf word)
  | _ => none

/-- What stands behind `\b`: a name between braces, or nothing of it. -/
def boundary? (f : Flags) (cs : List Char) : Option (Look × List Char) :=
  let isNameChar (c : Char) : Bool := Text.isPlainLetter c || c == '-'
  match cs with
  | '{' :: inner =>
    match f.skip inner with
    | [] => none
    | c :: rest =>
      if isNameChar c then do
        let (name, rest) ← untilBrace f (rest.length + 1) (c :: rest)
        return (← namedBoundary? f.wordSet (String.ofList name), rest)
      else some (.boundary f.wordSet, cs)
  | cs => some (.boundary f.wordSet, cs)

/-- Characters that stand for themselves behind a backslash. -/
def isEscapable (c : Char) : Bool :=
  c.toNat < 128 && !Text.isPlainLetter c && !Text.isPlainDigit c && c != '<' && c != '>'

/-- Reads what stands behind a backslash. -/
def escape? (f : Flags) : List Char → Option (Atom × List Char)
  | [] => none
  | c :: cs =>
    let literal (d : Char) : Option (Atom × List Char) := some (.literal d, cs)
    let named (s : CharSet) : Option (Atom × List Char) := some (.set s, cs)
    let look (l : Look) : Option (Atom × List Char) := some (.look l, cs)
    match c with
    | 'x' => (codePoint? f 2 cs).map fun (d, rest) => (.literal d, rest)
    | 'u' => (codePoint? f 4 cs).map fun (d, rest) => (.literal d, rest)
    | 'U' => (codePoint? f 8 cs).map fun (d, rest) => (.literal d, rest)
    | 'p' => (property? f false cs).map fun (s, rest) => (.set s, rest)
    | 'P' => (property? f true cs).map fun (s, rest) => (.set s, rest)
    | 'd' => named f.digitSet
    | 'D' => named f.digitSet.compl
    | 's' => named f.blankSet
    | 'S' => named f.blankSet.compl
    | 'w' => named f.wordSet
    | 'W' => named f.wordSet.compl
    | 'a' => literal '\x07'
    | 'f' => literal '\x0c'
    | 't' => literal '\t'
    | 'n' => literal '\n'
    | 'r' => literal '\r'
    | 'v' => literal '\x0b'
    | 'A' => look .textStart
    | 'z' => look .textEnd
    | 'b' => (boundary? f cs).map fun (l, rest) => (.look l, rest)
    | 'B' => look (.noBoundary f.wordSet)
    | '<' => look (.wordStart f.wordSet)
    | '>' => look (.wordEnd f.wordSet)
    | c => if isEscapable c then literal c else none

end FormBuilder.Pattern
