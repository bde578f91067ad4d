/-
What the command line answers: the lines that it prints, its messages, and why it failed where it
did.
-/
import FormBuilder.Command.Arguments
import FormBuilder.Field.Palette
import FormBuilder.Formula.Calculation
import FormBuilder.Run
import FormBuilder.Value.Inspect
import FormBuilder.Workspace.Library

namespace FormBuilder.Command

/-- What the command line finds around it. -/
structure Surroundings where
  file : String → FileContent
  /-- The directory that the environment names for snapshots. -/
  directory : Option String
  /-- An id for a form that has none. -/
  freshId : String

/-- Why a request cannot be answered. -/
structure Failure where
  message : String
  /-- More about the cause, where the message ends with a colon. -/
  reason : Option String := none

structure Output where
  /-- The text that is printed. -/
  text : String := ""
  /-- The lines on the side, warnings and messages, in their order. -/
  notes : List String := []
  failure : Option Failure := none
  /-- Whether the time that the answer took is told. -/
  timed : Bool := false

/-! ## Layout -/

def line (s : String) : String := s ++ "\n"

/-- A text with blanks behind it up to a width. -/
def column (width : Nat) (s : String) : String :=
  s ++ String.ofList (List.replicate (width - s.length) ' ')

def yesNo (b : Bool) : String := if b then "true" else "false"

def failing (message : String) (reason : Option String) : Output :=
  { failure := some { message, reason } }

/-! ## The palette -/

/-- One line for each control, and the name of a category before its first one. -/
def paletteLines (current : Option Category) : List Control → List String
  | [] => []
  | c :: cs =>
    let heading := if current = some c.category then [] else ["\n" ++ c.category.name]
    heading ++ ("  " ++ column 22 c.key ++ " " ++ c.label) :: paletteLines (some c.category) cs

def paletteOutput : Output :=
  { text := String.join ((paletteLines none Palette.controls).map line) ++ "\n" }

/-! ## Files -/

def readFailure (path reason : String) : Failure :=
  ⟨"Failed to read '" ++ path ++ "': ", some reason⟩

def readText (here : Surroundings) (path : String) : Except Failure String :=
  match here.file path with
  | .text s => .ok s
  | .missing => .error (readFailure path "no such file")
  | .unreadable => .error (readFailure path "the file cannot be read")

def faultText : Json.Fault → String
  | .malformed => "the text is not JSON"
  | .truncated => "the text ends too early"
  | .mismatched => "the text is JSON of another shape"

/-- A form of fields that belong to no form yet. It is not kept, so it bears no real time. -/
def looseForm (id : String) (fields : List Field) : SavedForm :=
  { SavedForm.new id "org_default" ⟨0, 0, 0⟩ with tree := ⟨fields⟩ }

/-- Reads a saved form, or a list of fields, which becomes a new form of the default
organization. -/
def formOfText (here : Surroundings) (text : String) : Except Failure SavedForm :=
  match (Json.read SavedForm.shape text).toOption.bind SavedForm.ofJson? with
  | some f => .ok f
  | none =>
    match Json.read (.list Field.shape) text with
    | .error fault => .error ⟨"Failed to parse form JSON: ", some (faultText fault)⟩
    | .ok j =>
      match Json.list? Field.ofJson? j with
      | none => .error ⟨"Failed to parse form JSON: ", some (faultText .mismatched)⟩
      | some fields => .ok (looseForm here.freshId fields)

/-- Reads the file of input values, in ascending order of their fields. -/
def readValues (here : Surroundings) : Option String → Except Failure (List (String × Value))
  | none => .ok []
  | some path => do
    let text ← readText here path
    match Json.read .table text with
    | .error fault => throw ⟨"Failed to parse values JSON: ", some (faultText fault)⟩
    | .ok j => return (Value.mapOfJson? j).getD []

/-! ## Evaluation -/

/-- The least level of the messages that are told. -/
def leastLevel (verbosity : Nat) : Log.Level :=
  match verbosity with
  | 0 => .warn
  | 1 => .info
  | _ => .debug

def notesOf (level : Log.Level) (entries : Log.Entries) : List String :=
  (Log.atLeast level entries).map Log.Entry.line

def stateHeader : String :=
  column 38 "Id" ++ " " ++ column 22 "Type" ++ " " ++ column 8 "Visible" ++ " "
    ++ column 10 "Read-only" ++ " Value"

def stateLine (f : Field) (s : FieldState) : String :=
  column 38 f.id ++ " " ++ column 22 f.type.name ++ " " ++ column 8 (yesNo s.isVisible) ++ " "
    ++ column 10 (yesNo s.isReadOnly) ++ " " ++ ((s.value.map Value.inspect).getD "<unset>")

/-- What a run shows of a form. -/
def runText (f : SavedForm) (r : Run) : String :=
  let pages := r.tree.pagination
  let states := f.tree.flatten.filterMap fun g => (r.state.get? g.id).map (stateLine g)
  let progress := match r.progress? with
    | some p => [p.title ++ ": " ++ p.label]
    | none => []
  let views := r.views.map fun v => "  [" ++ v.kind.name ++ "] " ++ v.field.label
  let issues := if r.issues.isEmpty then ["\nCurrent page validates."]
    else "\n--- Validation Issues ---" :: r.issues.map fun i => "  -> " ++ i.text
  String.join (List.map line (
    ["\nForm: " ++ f.name ++ " (" ++ f.id ++ ")",
      "Fields: " ++ toString f.tree.size ++ " (" ++ toString f.tree.fields.length
        ++ " at top level)",
      "\n--- Field State ---", stateHeader]
    ++ states
    ++ ["\n--- Pagination ---", "Pages: " ++ toString pages.count,
      "Steps: " ++ " -> ".intercalate pages.stepLabels]
    ++ progress
    ++ ["\n--- Page " ++ toString (r.navigator.current + 1) ++ " of " ++ toString pages.count
      ++ " ---"]
    ++ views ++ issues))

/-- Enters values one after the other, and collects the messages. -/
def enterAll (r : Run) : List (String × Value) → Run × Log.Entries
  | [] => (r, [])
  | (id, v) :: rest =>
    let r := r.enter id v
    let (last, log) := enterAll r rest
    (last, r.stateLog ++ log)

/-- Goes on by a number of pages, or to the last page. -/
def turnPages (r : Run) (pages : Nat) : Run :=
  let n := r.navigator
  { r with navigator := { n with current := min (n.current + pages) (n.pages - 1) } }

def evaluateOutput (here : Surroundings) (level : Log.Level) (form : String)
    (values : Option String) (params : QueryParams) (page : Nat) : Output :=
  match (readText here form).bind (formOfText here) with
  | .error e => { failure := some e }
  | .ok f =>
    let duplicates := f.tree.duplicateIds
    let warning := if duplicates.isEmpty then []
      else ["Warning: duplicate field ids: " ++ ", ".intercalate duplicates]
    let start := Run.start f params
    let notes := warning ++ notesOf level (Run.startLog f params)
    match readValues here values with
    | .error e => { notes, failure := some e }
    | .ok entries =>
      let (entered, log) := enterAll start entries
      let r := turnPages entered page
      { text := runText f r
        notes := notes ++ notesOf level (log ++ r.issuesLog)
        timed := true }

/-! ## Formulas -/

def formulaOutput (here : Surroundings) (expression : String) (values : Option String)
    (currency : Bool) : Output :=
  match Formula.parse expression with
  | .error e => failing ("Failed to parse formula: " ++ e.message) none
  | .ok e =>
    match readValues here values with
    | .error e => { failure := some e }
    | .ok entries =>
      let references := if e.references.isEmpty then []
        else ["References: " ++ ", ".intercalate e.references]
      let formatting := if currency then Formatting.currency else Formatting.plain
      { text := String.join (List.map line (
          ["Normalized: " ++ e.text] ++ references
            ++ ["Result:     " ++ formatting.show (e.eval (.ofList entries))])) }

/-! ## Saved forms -/

def formLine (f : SavedForm) : String :=
  "  -> " ++ f.name ++ " (" ++ f.id ++ ") - " ++ toString f.tree.size ++ " fields, saved "
    ++ f.savedAt.display

/-- The reason that a failure of a store does not give itself. -/
def storeReason : StoreError → String
  | .io _ => "the file cannot be read"
  | .unreadable _ => "the text is JSON of another shape"

/-- Where the snapshot of a request lies: what the request says goes before the environment. -/
def storeConfig (here : Option String) (directory key : Option String) : StoreConfig :=
  let config := StoreConfig.ofEnvironment here
  { directory := directory.getD config.directory, key := key.getD config.key }

def formsOutput (here : Surroundings) (level : Log.Level) (directory key : Option String)
    (user : String) : Output :=
  let config := storeConfig here.directory directory key
  let text := line ("Snapshot: " ++ config.path)
  let disk : Disk := { file := here.file config.path }
  let notes := notesOf level (Library.openLog (.file config) disk)
  match Library.openOn (.file config) disk with
  | .error e =>
    { text, notes, failure := some ⟨"Failed to open workspace: " ++ e.message, some (storeReason e)⟩ }
  | .ok lib =>
    match lib.workspace.identity? user with
    | none => { text, notes, failure := some ⟨"Unknown user '" ++ user ++ "'", none⟩ }
    | some who =>
      match lib.list who with
      | .error e => { text, notes, failure := some ⟨"Failed to list forms: " ++ e.message, none⟩ }
      | .ok forms =>
        let lines := if forms.isEmpty then ["  -> No forms saved"] else forms.map formLine
        { text := text ++ String.join
            (List.map line (("Organization: " ++ who.organizationId) :: lines))
          notes }

/-! ## Answers -/

def answer (here : Surroundings) (i : Invocation) : Output :=
  let level := leastLevel i.verbosity
  match i.request with
  | .palette => paletteOutput
  | .evaluate form values params page => evaluateOutput here level form values params page
  | .formula expression values currency => formulaOutput here expression values currency
  | .forms directory key user => formsOutput here level directory key user

/-- The files that an answer may read. -/
def Request.files (environment : Option String) : Request → List String
  | .palette => []
  | .evaluate form values _ _ => form :: values.toList
  | .formula _ values _ => values.toList
  | .forms directory key _ => [(storeConfig environment directory key).path]

namespace Output

/-- The printed text, with the time that the answer took. -/
def stdout (elapsed : String) (o : Output) : String :=
  if o.timed then o.text ++ "\nTotal Execution: " ++ elapsed ++ "\n\n" else o.text

/-- The text on the side. -/
def stderr (o : Output) : String :=
  String.join (o.notes.map line) ++
    match o.failure with
    | some f => "\nError: " ++ f.message ++ f.reason.getD "" ++ "\n"
    | none => ""

def exitCode (o : Output) : Nat := if o.failure.isSome then 1 else 0

end Output

/-- The exit code of arguments that are used wrongly. -/
def usageExitCode : Nat := 2

end FormBuilder.Command
