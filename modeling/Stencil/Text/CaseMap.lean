import Stencil.Text.CaseTable
import Stencil.Text.Letter

/-!
# Upper and lower case

Full case forms, in which one character may become several. A capital sigma that ends a word
becomes a final sigma in lower case: a character with a case stands before it and none after it,
where characters that case ignores are passed over.
-/

namespace Stencil.Text

/-- The code point a list of runs sends a code point to. -/
def runTarget? (runs : List (Nat × Nat × Nat × Nat)) (code : Nat) : Option Nat :=
  runs.findSome? fun (first, last, step, target) =>
    if first ≤ code && code ≤ last && (code - first) % step == 0 then
      some (target + (code - first))
    else none

/-- A case form read off a table of single forms and a table of longer ones; a character in
neither is its own form. -/
def caseForm (runs : List (Nat × Nat × Nat × Nat)) (longForms : List (Nat × List Nat))
    (character : Char) : List Char :=
  match longForms.lookup character.toNat with
  | some codes => codes.map Char.ofNat
  | none =>
    match runTarget? runs character.toNat with
    | some code => [Char.ofNat code]
    | none => [character]

/-- The upper case form of a character. -/
def upperForm (character : Char) : List Char :=
  if character.toNat < 128 then [character.toUpper]
  else caseForm upperRuns upperLongForms character

/-- The lower case form of a character, wherever it stands. -/
def lowerForm (character : Char) : List Char :=
  if character.toNat < 128 then [character.toLower]
  else caseForm lowerRuns lowerLongForms character

/-- A character with a case. -/
def isCased (character : Char) : Bool :=
  if character.toNat < 128 then character.isAlpha else inRanges casedRanges character.toNat

/-- A character that the search for a neighbour with a case passes over. -/
def isCaseIgnorable (character : Char) : Bool :=
  if character.toNat < 128 then
    character == '\'' || character == '.' || character == ':' || character == '^' ||
      character == '`'
  else inRanges caseIgnorableRanges character.toNat

/-- Whether the first character that case does not ignore has a case. -/
def meetsCased : List Char → Bool
  | [] => false
  | character :: rest => if isCaseIgnorable character then meetsCased rest else isCased character

/-- The upper case form of a text. -/
def upper (text : List Char) : List Char := text.flatMap upperForm

/-- The lower case form of a text whose characters before it are `before`, the nearest first. -/
def lowerAfter (before : List Char) : List Char → List Char
  | [] => []
  | character :: rest =>
    let form :=
      if character = 'Σ' then
        if meetsCased before && !meetsCased rest then ['ς'] else ['σ']
      else lowerForm character
    form ++ lowerAfter (character :: before) rest

/-- The lower case form of a text. -/
def lower (text : List Char) : List Char := lowerAfter [] text

end Stencil.Text
