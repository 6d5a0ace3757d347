/-!
# Blank characters

The characters with the White_Space property, and the trimming of texts by it.
-/

namespace Stencil.Text

/-- A character with the White_Space property. -/
def isBlank (character : Char) : Bool :=
  let code := character.toNat
  (9 ≤ code && code ≤ 13) || code = 0x20 || code = 0x85 || code = 0xA0 || code = 0x1680 ||
    (0x2000 ≤ code && code ≤ 0x200A) || code = 0x2028 || code = 0x2029 || code = 0x202F ||
    code = 0x205F || code = 0x3000

/-- The text without the blanks it starts with. -/
def trimStart (text : List Char) : List Char := text.dropWhile isBlank

/-- The text without the blanks it ends with. -/
def trimEnd (text : List Char) : List Char := (text.reverse.dropWhile isBlank).reverse

/-- The text without blanks at either end. -/
def trim (text : List Char) : List Char := trimEnd (trimStart text)

end Stencil.Text
