import Stencil.CommandLine.Command

/-!
# The program

Runs the command on the files of the system. What it has to say goes to the output, and why it
failed goes to the error stream.
-/

namespace Stencil

/-- Why the system refuses a request about a file. -/
def FileError.ofSystem : IO.Error → FileError
  | .noFileOrDirectory _ _ _ => .missing
  | .alreadyExists _ _ _ => .taken
  | .inappropriateType _ 21 _ => .isFolder
  | .inappropriateType _ _ _ => .notFolder
  | .invalidArgument _ 22 _ => .zeroInPath
  | other => .refused (toString other)

/-- A request to the system, whose error is kept as a value. -/
def attempt {α : Type} (request : IO α) : IO (Except FileError α) := do
  match ← request.toBaseIO with
  | .ok value => return .ok value
  | .error error => return .error (.ofSystem error)

instance : FileAccess IO where
  kind? path := do
    if path.text.isEmpty then return none
    match ← attempt ((← IO.currentDir) / path.text).metadata with
    | .error _ => return none
    | .ok found =>
      match found.type with
      | .dir => return some .folder
      | .file => return some .file
      | _ => return none
  read path :=
    if path.text.isEmpty then return .error .missing else attempt (IO.FS.readBinFile path.text)
  write path content :=
    if path.text.isEmpty then return .error .missing
    else attempt (IO.FS.writeBinFile path.text content)
  makeFolder path :=
    if path.text.isEmpty then return .error .missing else attempt (IO.FS.createDir path.text)
  names path := do
    match ← attempt ((← IO.currentDir) / path.text).readDir with
    | .error error => return .error error
    | .ok entries =>
      let found := entries.toList.map fun entry => entry.fileName
      return .ok ((found.mergeSort fun first second => first ≤ second).map .ok)

/-- Say how a run of the program ended. -/
def report : CommandLine.Ending → IO Unit
  | .done said => unless said.isEmpty do IO.println said
  | .failed message => IO.eprintln message
  | .misused reason => IO.eprintln reason

end Stencil

/-- Run the program with the arguments it was given. -/
def main (arguments : List String) : IO UInt32 := do
  let home := (← IO.getEnv "HOME").getD ""
  let ending ← (Stencil.CommandLine.command ⟨home⟩ arguments : IO Stencil.CommandLine.Ending)
  Stencil.report ending
  return ending.code
