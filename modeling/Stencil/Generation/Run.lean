import Stencil.Evaluation.Globals
import Stencil.Generation.Documents
import Stencil.Generation.Metadata
import Stencil.Json.Reader

/-!
# Runs

A run has its configuration and the global data. It renders templates, to a text or to an output
file, and copies folders. Metadata comes before global data of the same name, and a later entry
before an earlier one.
-/

namespace Stencil

/-- A run of the generator. -/
structure Run where
  /-- What the run was told. -/
  config : Config
  /-- The global data. -/
  globals : Store

namespace Run

variable {m : Type → Type} [Monad m] [FileAccess m]

/-- The run of a configuration, with the data read from its file. -/
def load (config : Config) : Generation m Run := do
  let path := config.dataPath
  let source ← Generation.ofFiles (fun error => .ofData path.text error.message)
    (FileAccess.readText path)
  match Json.parse? source with
  | none => throw (.ofData path.text "Invalid JSON: the text is no JSON document")
  | some document =>
    match Store.ofJson document with
    | .error failure => throw failure
    | .ok globals => return ⟨config, globals⟩

/-- The parsed template at a path. -/
def document (run : Run) (path : Path) : Generation m Document :=
  Generation.document run.config.delimiters path

/-- The global data with metadata in a scope of its own. -/
def store (run : Run) (metadata : List Metadata) : Store :=
  run.globals.push.setAll (metadata.map fun entry => (entry.key, .string entry.value))

/-- The text of the template at a path. -/
def renderFile (run : Run) (path : Path) (metadata : List Metadata) : Generation m String := do
  let document ← run.document path
  match document.render run.config.depthLimit (run.store metadata) with
  | .ok text => return text
  | .error failure => throw failure

/-- The text of the entry template, which is the driving script. -/
def renderEntry (run : Run) : Generation m String := run.renderFile run.config.entryPath []

/-- Write a text to a file, whose folders are made when they are missing. -/
def writeOutput (path : Path) (text : String) : Generation m Unit := do
  match path.parent? with
  | some folder =>
    if !folder.text.isEmpty then
      Generation.ofFiles (fun error => .ofOutput folder.text error.message)
        (FileAccess.makeFolders folder)
  | none => pure ()
  Generation.ofFiles (fun error => .ofOutput path.text error.message)
    (ExceptT.mk (FileAccess.write path text.toUTF8))

/-- Render a template to an output file. -/
def renderTemplate (run : Run) (template output : String) (metadata : List Metadata) :
    Generation m Unit := do
  let text ← run.renderFile (run.config.resolve template) metadata
  writeOutput (run.config.resolve output) text

/-- Copy the named files from one folder into another; what is no file is passed over. A name that
cannot be read ends it. -/
def copyFiles (source target : Path) : List (Except FileError String) → Generation m Unit
  | [] => return
  | .error error :: _ => throw (.ofOutput source.text error.message)
  | .ok name :: rest => do
    let file := source.join ⟨name⟩
    if ← Generation.ask (FileAccess.isFile file) then
      let copy := target.join ⟨name⟩
      Generation.ofFiles (fun error => .ofOutput copy.text error.message)
        (FileAccess.copyFile file copy)
    copyFiles source target rest

/-- Copy the files that stand directly in one folder into another, which is made when it is
missing. A source that is no folder changes nothing. -/
def copyFolder (run : Run) (source target : String) : Generation m Unit := do
  let folder := run.config.resolve source
  if ← Generation.ask (FileAccess.isFolder folder) then
    let copy := run.config.resolve target
    Generation.ofFiles (fun error => .ofOutput copy.text error.message)
      (FileAccess.makeFolders copy)
    let names ← Generation.ofFiles (fun error => .ofOutput folder.text error.message)
      (ExceptT.mk (FileAccess.names folder))
    copyFiles folder copy names

end Run

end Stencil
