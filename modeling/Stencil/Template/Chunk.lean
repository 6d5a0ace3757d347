import Stencil.Template.SyntaxError
import Stencil.Text.Search

/-!
# Chunks

A template is cut into literal text and tags. A tag runs from the opening marker to the first
closing marker outside quotes; a comment, which starts with a number sign, and a tag with a quote
that never ends run to the first closing marker of all.
-/

namespace Stencil

/-- A piece of a template. -/
inductive Chunk where
  /-- Literal text. -/
  | text (content : List Char)
  /-- A tag: what stands between its markers, and where that starts. -/
  | tag (content : List Char) (position : Position)
deriving DecidableEq, Repr

namespace Chunk

/-- Where a scan for the closing marker stands. -/
inductive Quoting where
  /-- Outside quotes. -/
  | outside
  /-- Between quotes of one kind. -/
  | inside (quote : Char)
  /-- Between quotes, behind a backslash. -/
  | escaped (quote : Char)
deriving DecidableEq, Repr

/-- The scan after one more character. -/
def Quoting.next : Quoting → Char → Quoting
  | outside, character =>
    if character = '"' || character = '\'' then inside character else outside
  | inside quote, character =>
    if character = '\\' then escaped quote else if character = quote then outside else inside quote
  | escaped quote, _ => inside quote

/-- What stands before the first marker outside quotes, and what stands after it. -/
def splitOutside? (marker : List Char) : Quoting → List Char → Option (List Char × List Char)
  | _, [] => none
  | quoting, character :: rest =>
    match if quoting = .outside then Text.dropPrefix? marker (character :: rest) else none with
    | some after => some ([], after)
    | none =>
      (splitOutside? marker (quoting.next character) rest).map fun (before, after) =>
        (character :: before, after)

/-- Whether the content of a tag is a comment. -/
def isComment (content : List Char) : Bool := (Text.trimStart content).head? = some '#'

/-- The content of a tag and what follows its closing marker, from behind its opening marker. -/
def splitTag? (closing : List Char) (text : List Char) : Option (List Char × List Char) :=
  if isComment text then Text.splitFirst? closing text
  else match splitOutside? closing .outside text with
    | some split => some split
    | none => Text.splitFirst? closing text

/-- A text as a chunk, unless it is empty. -/
def ofText : List Char → List Chunk
  | [] => []
  | content => [.text content]

/-- The chunks of a text that starts at a position. -/
def splitFrom (delimiters : Delimiters) (position : Position) (source : List Char) :
    Except SyntaxError (List Chunk) :=
  match Text.splitFirst? delimiters.opening.toList source with
  | none => .ok (ofText source)
  | some (before, after) =>
    let tagPosition := position.advance before
    let contentPosition := tagPosition.advance delimiters.opening.toList
    match splitTag? delimiters.closing.toList after with
    | none => .error ⟨.unterminatedTag delimiters.closing, tagPosition⟩
    | some (content, rest) =>
      if rest.length < source.length then do
        let next := (contentPosition.advance content).advance delimiters.closing.toList
        let chunks ← splitFrom delimiters next rest
        .ok (ofText before ++ .tag content contentPosition :: chunks)
      else .ok (ofText before ++ [.tag content contentPosition])
termination_by source.length

/-- The chunks of a template. -/
def split (delimiters : Delimiters) (source : String) : Except SyntaxError (List Chunk) :=
  splitFrom delimiters .origin source.toList

end Chunk

end Stencil
