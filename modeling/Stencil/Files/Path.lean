import Stencil.Text.Search

/-!
# Paths

A path is the text that names a file: names between slashes, from the root when it starts with a
slash and from the working folder otherwise. Joining keeps texts as they are. Two paths are the
same when their components are: a doubled slash, a slash at the end and a dot that does not stand
first make no difference.
-/

namespace Stencil

/-- The text that names a file. -/
structure Path where
  /-- The text. -/
  text : String
deriving DecidableEq, Repr, Inhabited

/-- A step of a path. -/
inductive PathComponent where
  /-- The root folder, first in a path that starts with a slash. -/
  | root
  /-- The working folder, written out as a first dot. -/
  | here
  /-- The folder around. -/
  | parent
  /-- A name. -/
  | name (text : String)
deriving DecidableEq, Repr

namespace Path

/-- The pieces between the slashes of a text. -/
def splitSlashes : List Char → List (List Char)
  | [] => [[]]
  | character :: rest =>
    if character = '/' then [] :: splitSlashes rest
    else match splitSlashes rest with
      | [] => [[character]]
      | piece :: pieces => (character :: piece) :: pieces

/-- Pieces with slashes between them. -/
def joinSlashes : List (List Char) → List Char
  | [] => []
  | [piece] => piece
  | piece :: pieces => piece ++ '/' :: joinSlashes pieces

/-- The pieces between the slashes of a path. -/
def pieces (path : Path) : List String := (splitSlashes path.text.toList).map String.ofList

/-- Whether a path starts at the root. -/
def isAbsolute (path : Path) : Bool := path.text.toList.head? = some '/'

/-- A path seen from another one. An absolute path stays as it is; otherwise a slash comes between
the two texts unless the first is empty or ends in one. -/
def join (base path : Path) : Path :=
  if path.isAbsolute then path
  else
    let between := match base.text.toList.getLast? with
      | none => ""
      | some last => if last = '/' then "" else "/"
    ⟨base.text ++ between ++ path.text⟩

/-- The part of a text in front of its pieces: a slash for the root, or a first dot. -/
def splitStart : List Char → List Char × List Char
  | '/' :: rest => (['/'], rest)
  | ['.'] => (['.'], [])
  | '.' :: '/' :: rest => (['.'], '/' :: rest)
  | text => ([], text)

/-- Whether a piece names nothing. -/
def isIdle (piece : List Char) : Bool := piece = [] || piece = ['.']

/-- Pieces without those at the end that name nothing. -/
def trimIdle (pieces : List (List Char)) : List (List Char) :=
  (pieces.reverse.dropWhile isIdle).reverse

/-- The component that the start of a path is. -/
def startComponents : List Char → List PathComponent
  | ['/'] => [.root]
  | ['.'] => [.here]
  | _ => []

/-- The component of a piece that names something. -/
def pieceComponent (piece : List Char) : PathComponent :=
  if piece = ['.', '.'] then .parent else .name (String.ofList piece)

/-- The components of a path. -/
def components (path : Path) : List PathComponent :=
  let (start, rest) := splitStart path.text.toList
  startComponents start ++
    ((splitSlashes rest).filter fun piece => !isIdle piece).map pieceComponent

/-- The path without its last component; none for the root and for the empty path. -/
def parent? (path : Path) : Option Path :=
  let (start, rest) := splitStart path.text.toList
  match trimIdle (splitSlashes rest) with
  | [] => if start = ['.'] then some ⟨""⟩ else none
  | pieces => some ⟨String.ofList (start ++ joinSlashes (trimIdle pieces.dropLast))⟩

/-- Where the home folder of the user is. -/
def expandHome (home : Path) (raw : String) : Path :=
  match Text.dropPrefix? ['~', '/'] raw.toList with
  | some rest => home.join ⟨String.ofList rest⟩
  | none => ⟨raw⟩

/-- A path as it is written, seen from a base folder. A text that starts with `~/` starts at the
home folder. -/
def resolve (home base : Path) (raw : String) : Path := base.join (expandHome home raw)

/-- A text has a piece. -/
theorem splitSlashes_ne_nil (text : List Char) : splitSlashes text ≠ [] := by
  cases text with
  | nil => simp [splitSlashes]
  | cons character rest =>
    unfold splitSlashes
    split
    · simp
    · split <;> simp

end Path

end Stencil
