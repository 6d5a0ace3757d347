import Stencil.Json.Tree
import Stencil.Value.Basic

/-!
# The text of a value

What a value becomes when it is written into an output. A scalar is written plainly, and bytes,
arrays and maps are written as compact JSON, in which the keys of a map appear by their own text.
-/

namespace Stencil.Value

/-- The text of a value that is written plainly; none for bytes, arrays and maps. -/
def plainText? : Value → Option String
  | null => some ""
  | boolean truth => some (if truth then "true" else "false")
  | integer number => some (integerText number)
  | float number => some (NumberNotation.plain.write number)
  | string text => some text
  | bytes _ => none
  | array _ => none
  | map _ => none

mutual

/-- The compact JSON text of a value, written straight from the value. -/
def compact : Value → String
  | null => "null"
  | boolean truth => if truth then "true" else "false"
  | integer number => integerText number
  | float number => Json.floatText number
  | string text => Json.quote text
  | bytes content => Json.bracketed "[" "]" (content.map fun byte => toString byte.toNat)
  | array items => Json.bracketed "[" "]" (compactItems items)
  | map entries => Json.bracketed "\x7b" "\x7d" (compactEntries entries)

/-- The compact texts of values in a row. -/
def compactItems : List Value → List String
  | [] => []
  | item :: rest => compact item :: compactItems rest

/-- The compact texts of entries, each with the text of its key as a name. -/
def compactEntries : List (Value × Value) → List String
  | [] => []
  | (key, value) :: rest =>
    let name := match plainText? key with
      | some text => text
      | none => compact key
    (Json.quote name ++ ":" ++ compact value) :: compactEntries rest

end

/-- The text of a value. -/
def text (value : Value) : String :=
  match plainText? value with
  | some plain => plain
  | none => compact value

end Stencil.Value
