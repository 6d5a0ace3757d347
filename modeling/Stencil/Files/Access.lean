import Stencil.Files.Path

/-!
# Access to files

What a generation asks of the place where files are, and the operations made of these requests:
reading a text, making a folder with all folders around it, and copying a file.
-/

namespace Stencil

/-- Why a request about a file fails. -/
inductive FileError where
  /-- Nothing has that name. -/
  | missing
  /-- Something has that name already. -/
  | taken
  /-- A file stands where a folder is needed. -/
  | notFolder
  /-- A folder stands where a file is needed. -/
  | isFolder
  /-- The bytes are no text. -/
  | notText
  /-- A name has more bytes than a name may have. -/
  | longName
  /-- A path has the character of code zero in it. -/
  | zeroInPath
  /-- The system refuses, for a reason of its own. -/
  | refused (reason : String)
deriving DecidableEq, Repr

/-- What messages say of a file error. -/
def FileError.message : FileError → String
  | missing => "No such file or directory (os error 2)"
  | taken => "File exists (os error 17)"
  | notFolder => "Not a directory (os error 20)"
  | isFolder => "Is a directory (os error 21)"
  | notText => "stream did not contain valid UTF-8"
  | longName => "File name too long (os error 36)"
  | zeroInPath => "file name contained an unexpected NUL byte"
  | refused reason => reason

/-- What a path may lead to. -/
inductive FileKind where
  /-- A folder. -/
  | folder
  /-- A file. -/
  | file
deriving DecidableEq, Repr

/-- The requests about files that a computation can make. -/
class FileAccess (m : Type → Type) where
  /-- What a path leads to, if anything. -/
  kind? (path : Path) : m (Option FileKind)
  /-- The bytes of a file. -/
  read (path : Path) : m (Except FileError ByteArray)
  /-- Make a file hold some bytes and nothing else; it may be new. -/
  write (path : Path) (content : ByteArray) : m (Except FileError Unit)
  /-- Make one new folder. -/
  makeFolder (path : Path) : m (Except FileError Unit)
  /-- The names inside a folder, in order. Opening the folder may fail, and so may coming to the
  next name. -/
  names (path : Path) : m (Except FileError (List (Except FileError String)))

namespace FileAccess

variable {m : Type → Type} [Monad m] [FileAccess m]

/-- Whether a path leads to a folder. -/
def isFolder (path : Path) : m Bool := return (← kind? path) = some .folder

/-- Whether a path leads to a file. -/
def isFile (path : Path) : m Bool := return (← kind? path) = some .file

/-- The text of a file, without a byte-order mark in front. -/
def readText (path : Path) : ExceptT FileError m String := do
  let content ← ExceptT.mk (read path)
  match String.fromUTF8? content with
  | none => throw .notText
  | some text =>
    match text.toList with
    | '\ufeff' :: rest => return String.ofList rest
    | _ => return text

/-- Make a folder where it may stand already. -/
def ensureFolder (path : Path) : ExceptT FileError m Unit := ExceptT.mk do
  match ← makeFolder path with
  | .ok () => return .ok ()
  | .error error => return if ← isFolder path then .ok () else .error error

/-- Make a folder and the folders around it that are missing, for paths of a bounded length. -/
def makeFoldersWithin : Nat → Path → ExceptT FileError m Unit
  | 0, _ => return
  | length + 1, path => do
    if path.text.isEmpty then return
    match ← ExceptT.lift (makeFolder path) with
    | .ok () => return
    | .error .missing =>
      match path.parent? with
      | none => throw .missing
      | some parent =>
        makeFoldersWithin length parent
        ensureFolder path
    | .error error => if ← ExceptT.lift (isFolder path) then return else throw error

/-- Make a folder and the folders around it that are missing. -/
def makeFolders (path : Path) : ExceptT FileError m Unit :=
  makeFoldersWithin (path.text.length + 1) path

/-- Copy a file. The target is emptied before the source is read. -/
def copyFile (source target : Path) : ExceptT FileError m Unit := do
  let _ ← ExceptT.mk (read source)
  ExceptT.mk (write target ByteArray.empty)
  let content ← ExceptT.mk (read source)
  ExceptT.mk (write target content)

end FileAccess

end Stencil
