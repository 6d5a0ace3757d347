import Stencil.Text.LetterTable
import Stencil.Text.NumeralTable

/-!
# Letters, numerals and words

A word character is a letter, a numeral or an underscore. ASCII is decided directly, and the rest
of the code points by the ranges of the two tables.
-/

namespace Stencil.Text

/-- Whether a code point lies in one of some ranges. -/
def inRanges (ranges : List (Nat × Nat)) (code : Nat) : Bool :=
  ranges.any fun range => range.1 ≤ code && code ≤ range.2

/-- A character with the Alphabetic property. -/
def isLetter (character : Char) : Bool :=
  if character.toNat < 128 then character.isAlpha else inRanges letterRanges character.toNat

/-- A character whose general category is a number. -/
def isNumeral (character : Char) : Bool :=
  if character.toNat < 128 then character.isDigit else inRanges numeralRanges character.toNat

/-- A character that can start a word: a letter or an underscore. -/
def startsWord (character : Char) : Bool := isLetter character || character == '_'

/-- A character that can continue a word: a letter, a numeral or an underscore. -/
def continuesWord (character : Char) : Bool :=
  isLetter character || isNumeral character || character == '_'

/-- What starts a word also continues one. -/
theorem continuesWord_of_startsWord {character : Char} (starts : startsWord character = true) :
    continuesWord character = true := by
  simp only [startsWord, continuesWord, Bool.or_eq_true] at *
  rcases starts with letter | underscore
  · exact Or.inl (Or.inl letter)
  · exact Or.inr underscore

end Stencil.Text
