import Stencil.Text.EscapedTable
import Stencil.Text.Letter

/-!
# Quoted text

The form in which messages show a text: between quotes, with escapes for the quote, the backslash,
the common controls, and every character without a shape of its own.
-/

namespace Stencil.Text

/-- The hexadecimal digits of a number, in lower case. -/
def hexDigits (number : Nat) : List Char := Nat.toDigits 16 number

/-- Whether quoted text writes a character by its number. -/
def isShapeless (character : Char) : Bool :=
  if character.toNat < 128 then character.toNat < 32 || character.toNat = 127
  else inRanges shapelessRanges character.toNat

/-- A character as it stands between a pair of the given quotes. -/
def quotedForm (quote character : Char) : List Char :=
  if character = quote || character = '\\' then ['\\', character]
  else if character.toNat = 0 then ['\\', '0']
  else if character = '\t' then ['\\', 't']
  else if character = '\r' then ['\\', 'r']
  else if character = '\n' then ['\\', 'n']
  else if isShapeless character then
    ['\\', 'u', '\x7b'] ++ hexDigits character.toNat ++ ['\x7d']
  else [character]

/-- A text between double quotes. -/
def quoted (text : String) : String :=
  String.ofList ('"' :: text.toList.flatMap (quotedForm '"') ++ ['"'])

/-- A character between single quotes. -/
def quotedCharacter (character : Char) : String :=
  String.ofList ('\'' :: quotedForm '\'' character ++ ['\''])

end Stencil.Text
