/-
Where a workspace is kept. A store keeps the last workspace that it accepted as one snapshot; it may
refuse to read or to write.
-/
import FormBuilder.Workspace.Json
import FormBuilder.Json.Reader
import FormBuilder.Json.Writer
import FormBuilder.Log

namespace FormBuilder

/-! ## Stores -/

/-- Why a store refuses. -/
inductive StoreError where
  | io (path : String)
  /-- There is a snapshot, but it holds no workspace. -/
  | unreadable (path : String)
  deriving DecidableEq, Repr

/-- The name of the cause. -/
def StoreError.kind : StoreError → String
  | .io _ => "Io"
  | .unreadable _ => "Unreadable"

def StoreError.path : StoreError → String
  | .io path | .unreadable path => path

def StoreError.message : StoreError → String
  | .io path => "I/O error on '" ++ path ++ "': "
  | .unreadable path => "Snapshot '" ++ path ++ "' is not a valid workspace: "

/-- A way to keep a snapshot in a state of type `σ`. -/
structure Store (σ : Type) where
  /-- The snapshot, or nothing when none was kept yet. -/
  load : σ → Except StoreError (Option Workspace)
  /-- Keeps a workspace instead of the last one. -/
  save : σ → Workspace → Except StoreError σ
  loadLog : σ → Log.Entries := fun _ => []
  /-- The messages of a workspace that was accepted. -/
  savedLog : σ → Log.Entries := fun _ => []

/-! ## Memory -/

/-- A snapshot in memory, and how often one was kept. -/
structure Memory where
  snapshot : Option Workspace
  saves : Nat := 0

def Store.memory : Store Memory where
  load m := .ok m.snapshot
  save m w := .ok ⟨some w, m.saves + 1⟩

/-! ## Files -/

/-- The directory and the name of the file of a snapshot. -/
structure StoreConfig where
  directory : String := "."
  key : String := "formSculptor_db"
  deriving DecidableEq, Repr

namespace StoreConfig

/-- The variable of the environment that names the directory. -/
def directoryVariable : String := "FORMSCULPTOR_DATA_DIR"

/-- The configuration with the directory of the environment, unless that is empty or not there. -/
def ofEnvironment (setting : Option String) : StoreConfig :=
  match setting with
  | some d => if d.isEmpty then {} else { directory := d }
  | none => {}

/-- A path inside a directory; an absolute path stands for itself. -/
def join (directory path : String) : String :=
  if path.startsWith "/" || directory.isEmpty then path
  else if directory.endsWith "/" then directory ++ path
  else directory ++ "/" ++ path

/-- The file of the snapshot. -/
def path (c : StoreConfig) : String := join c.directory (c.key ++ ".json")

end StoreConfig

/-- What stands at a path. -/
inductive FileContent where
  | missing
  /-- There is something, but it cannot be read. -/
  | unreadable
  | text (s : String)
  deriving DecidableEq, Repr

/-- The workspace of a file. -/
def FileContent.workspace? (path : String) : FileContent → Except StoreError (Option Workspace)
  | .missing => .ok none
  | .unreadable => .error (.io path)
  | .text s =>
    match (Json.read Workspace.shape s).toOption.bind Workspace.ofJson? with
    | some w => .ok (some w)
    | none => .error (.unreadable path)

/-- The text of the file of a workspace. -/
def Workspace.fileText (w : Workspace) : String := w.toJson.pretty

/-- The part of a file system that a store sees: the file of its snapshot, and whether the file can
be written. -/
structure Disk where
  file : FileContent
  writable : Bool := true

/-- Keeps a snapshot in the file of a configuration. -/
def Store.file (c : StoreConfig) : Store Disk where
  load d := d.file.workspace? c.path
  save d w := if d.writable then .ok { d with file := .text w.fileText } else .error (.io c.path)
  loadLog d :=
    match d.file with
    | .missing => [Log.debug ("No snapshot at '" ++ c.path ++ "'")]
    | _ => []
  savedLog _ := [Log.info ("Saved snapshot to '" ++ c.path ++ "'")]

end FormBuilder
