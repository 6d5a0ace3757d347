/-!
# Positions in a text

A position names a character by its line and its column, both counted from one. A line feed ends
its line, and every other character is one column wide.
-/

namespace Stencil

/-- The place of a character: line and column, both counted from one. -/
structure Position where
  /-- Line, counted from one. -/
  line : Nat
  /-- Column, counted from one. -/
  column : Nat
deriving DecidableEq, Repr, Inhabited

namespace Position

/-- The first character of a text. -/
def origin : Position := ⟨1, 1⟩

/-- The position just after a character. -/
def next (position : Position) (character : Char) : Position :=
  if character = '\n' then ⟨position.line + 1, 1⟩
  else ⟨position.line, position.column + 1⟩

/-- The position just after a text. -/
def advance (position : Position) (text : List Char) : Position :=
  text.foldl next position

/-- Passing nothing leaves a position as it is. -/
@[simp] theorem advance_nil (position : Position) : position.advance [] = position := rfl

/-- Passing a text is passing its characters one by one. -/
@[simp] theorem advance_cons (position : Position) (character : Char) (text : List Char) :
    position.advance (character :: text) = (position.next character).advance text := rfl

/-- Passing two texts in a row is passing their concatenation. -/
theorem advance_append (position : Position) (first second : List Char) :
    position.advance (first ++ second) = (position.advance first).advance second :=
  List.foldl_append

/-- Columns stay positive, whatever is passed. -/
theorem advance_column_pos (position : Position) (positive : 0 < position.column)
    (text : List Char) : 0 < (position.advance text).column := by
  induction text generalizing position with
  | nil => exact positive
  | cons character text ih =>
    rw [advance_cons]
    apply ih
    unfold next
    split <;> simp

end Position

end Stencil
