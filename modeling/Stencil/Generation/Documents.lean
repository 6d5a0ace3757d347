import Stencil.Failure
import Stencil.Files.Access
import Stencil.Generation.Config
import Stencil.Template.Outline

/-!
# Parsed templates

A generation reads and parses a template once. Afterwards the template is known by the components
of its path, whatever happens to the file. A template that cannot be read or parsed is not kept.
-/

namespace Stencil

/-- The templates parsed so far, by the components of their paths. -/
abbrev DocumentCache := List (List PathComponent × Document)

namespace DocumentCache

/-- The document of a path. -/
def find? (cache : DocumentCache) (path : Path) : Option Document := cache.lookup path.components

/-- The cache with one more document. -/
def add (cache : DocumentCache) (path : Path) (document : Document) : DocumentCache :=
  (path.components, document) :: cache

/-- A document that was added is found by every path with the same components. -/
theorem find?_add_of_components_eq (cache : DocumentCache) {path other : Path}
    (document : Document) (same : other.components = path.components) :
    (cache.add path document).find? other = some document := by
  simp [find?, add, same]

/-- Adding a document does not change what paths with other components find. -/
theorem find?_add_of_components_ne (cache : DocumentCache) {path other : Path}
    (document : Document) (different : other.components ≠ path.components) :
    (cache.add path document).find? other = cache.find? other := by
  have unequal : (other.components == path.components) = false := by simpa using different
  simp only [find?, add, List.lookup_cons, unequal]

end DocumentCache

/-- A computation of a generation: it may fail, parses templates and uses files. -/
abbrev Generation (m : Type → Type) (α : Type) := ExceptT Failure (StateT DocumentCache m) α

namespace Generation

variable {m : Type → Type} [Monad m] [FileAccess m]

/-- A computation on files that does not fail. -/
def ask {α : Type} (computation : m α) : Generation m α := ExceptT.lift (StateT.lift computation)

/-- A computation on files, whose error becomes a failure. -/
def ofFiles {α : Type} (failure : FileError → Failure) (computation : ExceptT FileError m α) :
    Generation m α := do
  match ← ask computation.run with
  | .ok value => return value
  | .error error => throw (failure error)

/-- The parsed template at a path. -/
def document (delimiters : Delimiters) (path : Path) : Generation m Document := do
  match (← get).find? path with
  | some known => return known
  | none =>
    let source ← ofFiles (fun error => .ofTemplate path.text error.message)
      (FileAccess.readText path)
    match Document.parse delimiters source with
    | .error error => throw error.failure
    | .ok parsed =>
      modify fun cache => cache.add path parsed
      return parsed

/-- Whether two paths lead to one and the same parsed template. -/
def sameDocument (delimiters : Delimiters) (first second : Path) : Generation m Bool := do
  let _ ← document delimiters first
  let _ ← document delimiters second
  return first.components = second.components

end Generation

end Stencil
