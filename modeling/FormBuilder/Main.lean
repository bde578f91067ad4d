/-
The command line program.
-/
import FormBuilder.Command.Output

namespace FormBuilder.Command

/-- Reads what stands at a path. -/
def readContent (path : String) : IO FileContent :=
  try
    return .text (← IO.FS.readFile path)
  catch
    | .noFileOrDirectory .. => return .missing
    | _ => return .unreadable

def randomHex (count : Nat) : IO String := do
  let digits ← (List.range count).mapM fun _ => IO.rand 0 15
  return String.ofList (digits.map Nat.digitChar)

/-- A random id of five groups of digits. -/
def randomId : IO String := do
  let variant ← IO.rand 8 11
  return (← randomHex 8) ++ "-" ++ (← randomHex 4) ++ "-4" ++ (← randomHex 3) ++ "-"
    ++ String.ofList [Nat.digitChar variant] ++ (← randomHex 3) ++ "-" ++ (← randomHex 12)

def usage : String :=
  "usage: formbuilder [-v] palette | evaluate FORM [--values FILE] [-p NAME=VALUE] [--page N]\n"
    ++ "  | formula EXPRESSION [--values FILE] [--currency]\n"
    ++ "  | forms [--data-dir DIR] [--storage-key KEY] [--user ID]"

/-- Answers an invocation on the files that it names. -/
def runInvocation (i : Invocation) : IO UInt32 := do
  let started ← IO.monoMsNow
  let directory ← IO.getEnv StoreConfig.directoryVariable
  let contents ← (i.request.files directory).mapM fun path => return (path, ← readContent path)
  let freshId ← randomId
  let output := answer
    { file := fun path => (contents.lookup path).getD .missing, directory, freshId } i
  IO.eprint output.stderr
  let elapsed := toString ((← IO.monoMsNow) - started) ++ "ms"
  IO.print (output.stdout elapsed)
  return output.exitCode.toUInt32

end FormBuilder.Command

def main (args : List String) : IO UInt32 :=
  match FormBuilder.Command.invocation? args with
  | some i => FormBuilder.Command.runInvocation i
  | none => do
    IO.eprintln FormBuilder.Command.usage
    return FormBuilder.Command.usageExitCode.toUInt32
