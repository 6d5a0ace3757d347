import Stencil.Text.Blank

/-!
# Delimiters

The three markers of a template: the one that opens a tag, the one that continues a block, and the
one that closes a tag. None is blank, and no two are equal.
-/

namespace Stencil

/-- Why three markers do not make a set of delimiters. -/
inductive DelimiterFault where
  /-- A marker is empty or holds blanks only. -/
  | blank
  /-- Two markers are equal. -/
  | repeated (opening continuing closing : String)
deriving DecidableEq, Repr

/-- The markers of a template. -/
structure Delimiters where
  /-- Opens a tag. -/
  opening : String
  /-- Continues a block with another branch. -/
  continuing : String
  /-- Closes a tag. -/
  closing : String
  /-- The opening marker holds a character. -/
  opening_ne : opening.toList ≠ []
  /-- The continuing marker holds a character. -/
  continuing_ne : continuing.toList ≠ []
  /-- The closing marker holds a character. -/
  closing_ne : closing.toList ≠ []
  /-- The opening marker is not the continuing one. -/
  opening_ne_continuing : opening ≠ continuing
  /-- The opening marker is not the closing one. -/
  opening_ne_closing : opening ≠ closing
  /-- The continuing marker is not the closing one. -/
  continuing_ne_closing : continuing ≠ closing

namespace Delimiters

/-- Whether a marker is empty or holds blanks only. -/
def isBlank (marker : String) : Bool := (Text.trim marker.toList).isEmpty

/-- A marker that is not blank holds a character. -/
theorem toList_ne_nil_of_not_isBlank {marker : String} (filled : isBlank marker = false) :
    marker.toList ≠ [] := by
  intro empty
  rw [isBlank, empty] at filled
  cases filled

/-- The delimiters of three markers. -/
def make (opening continuing closing : String) : Except DelimiterFault Delimiters :=
  if blank : isBlank opening || isBlank continuing || isBlank closing then .error .blank
  else if equal : opening = continuing ∨ opening = closing ∨ continuing = closing then
    .error (.repeated opening continuing closing)
  else
    have filled : (isBlank opening = false ∧ isBlank continuing = false) ∧
        isBlank closing = false := by simpa using blank
    .ok {
      opening
      continuing
      closing
      opening_ne := toList_ne_nil_of_not_isBlank filled.1.1
      continuing_ne := toList_ne_nil_of_not_isBlank filled.1.2
      closing_ne := toList_ne_nil_of_not_isBlank filled.2
      opening_ne_continuing := fun same => equal (Or.inl same)
      opening_ne_closing := fun same => equal (Or.inr (Or.inl same))
      continuing_ne_closing := fun same => equal (Or.inr (Or.inr same)) }

/-- The default markers: double braces around a tag and double bars for a branch. -/
def standard : Delimiters where
  opening := "\x7b\x7b"
  continuing := "||"
  closing := "\x7d\x7d"
  opening_ne := by decide
  continuing_ne := by decide
  closing_ne := by decide
  opening_ne_continuing := by decide
  opening_ne_closing := by decide
  continuing_ne_closing := by decide

end Delimiters

end Stencil
