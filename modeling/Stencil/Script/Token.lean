import Stencil.Number.Checked
import Stencil.Script.Value
import Stencil.Text.Blank
import Stencil.Text.Search

/-!
# Tokens of driving scripts

A script is read into tokens before it is parsed: words, literals and marks, with blanks and
comments left out. A text between backticks may hold code, whose tokens are kept inside its token.
A script with a piece that is no token has none at all.
-/

namespace Stencil.Script

mutual

/-- A token of a script. -/
inductive Token where
  /-- A name or a keyword. -/
  | word (text : String)
  /-- A value written out. -/
  | literal (value : Value)
  /-- A text with code in it. -/
  | joined (parts : List Part)
  /-- An operator or another sign. -/
  | mark (text : String)

/-- A part of a text with code in it. -/
inductive Part where
  /-- Text as it is. -/
  | text (content : String)
  /-- Code whose value is put in. -/
  | code (tokens : List Token)

end

namespace Token

/-- The marks of scripts, a longer one before its own beginning. -/
def marks : List String :=
  ["..", "#\x7b", "==", "!=", "<=", ">=", "&&", "||", "+=", "-=", "*=", "/=", "%=", "\x7b", "\x7d",
    "(", ")", "[", "]", "+", "-", "*", "/", "%", "=", "<", ">", "!", ".", ",", ";", ":"]

/-- Signs that scripts reserve without a use. -/
def refusedMarks : List String :=
  ["===", "!==", "...", "..=", "++", "--", "**", "->", "<-", "=>", ":=", "::", "<<", ">>", "<|",
    "|>", "(*", "*)", "!."]

/-- The mark a text starts with, and the text after it. -/
def readMark (text : List Char) : Option (String × List Char) :=
  if refusedMarks.any fun sign => (Text.dropPrefix? sign.toList text).isSome then none
  else marks.findSome? fun sign =>
    (Text.dropPrefix? sign.toList text).map fun rest => (sign, rest)

/-- Whether a character can stand in a word. -/
def isWordCharacter (letter : Char) : Bool := letter.isAlphanum || letter = '_'

/-- Whether a word is a name: after underscores it goes on with a letter. -/
def isName (letters : List Char) : Bool :=
  match letters.dropWhile (· = '_') with
  | [] => false
  | first :: _ => first.isAlpha

/-- The value of a digit to some base. -/
def digitValue? (base : Nat) (letter : Char) : Option Nat :=
  let value :=
    if letter.isDigit then letter.toNat - '0'.toNat
    else if letter.isLower then letter.toNat - 'a'.toNat + 10
    else if letter.isUpper then letter.toNat - 'A'.toNat + 10
    else base
  if value < base then some value else none

/-- The number that digits write to some base; underscores between them do not count. -/
def numberOf (base : Nat) (digits : List Char) : Nat :=
  digits.foldl (fun number digit =>
    match digitValue? base digit with
    | some value => number * base + value
    | none => number) 0

/-- Digits to some base and underscores at the front of a text, and the text after them. -/
def spanDigits (base : Nat) (text : List Char) : List Char × List Char :=
  text.span fun letter => (digitValue? base letter).isSome || letter = '_'

/-- The base that a letter after a zero stands for. -/
def base? : Char → Option Nat
  | 'x' => some 16
  | 'X' => some 16
  | 'o' => some 8
  | 'O' => some 8
  | 'b' => some 2
  | 'B' => some 2
  | _ => none

/-- A number to a base other than ten. It may fill all bits of a word. -/
def readBased (negative : Bool) (base : Nat) (text : List Char) : Option (Value × List Char) :=
  let (digits, rest) := spanDigits base text
  let number := numberOf base digits
  if (digits.filter (· ≠ '_')).isEmpty || UInt64.size ≤ number then none
  else
    let bits := Int64.ofInt number
    some (.integer (if negative then -bits else bits), rest)

/-- The fraction after whole digits: its digits, whether there is a point, and what follows. A
point before a name or before another point does not belong to the number. -/
def readFraction : List Char → List Char × Bool × List Char
  | '.' :: next :: rest =>
    if next.isDigit then
      let (digits, after) := spanDigits 10 (next :: rest)
      (digits.filter (· ≠ '_'), true, after)
    else if next = '_' || next = '.' || next.isAlpha then ([], false, '.' :: next :: rest)
    else ([], true, next :: rest)
  | ['.'] => ([], false, ['.'])
  | text => ([], false, text)

/-- An exponent: none when it is malformed, and zero when there is none. -/
def readExponent (text : List Char) : Option (Int × Bool × List Char) :=
  match text with
  | 'e' :: sign :: rest =>
    if sign.isDigit then
      let (digits, after) := spanDigits 10 (sign :: rest)
      some (numberOf 10 digits, true, after)
    else if sign = '+' || sign = '-' then
      let (digits, after) := spanDigits 10 rest
      if (digits.filter (· ≠ '_')).isEmpty then none
      else
        let size : Int := numberOf 10 digits
        some (if sign = '-' then -size else size, true, after)
    else some (0, false, text)
  | _ => some (0, false, text)

/-- A number to the base ten. One without fraction and exponent is an integer if it fits a word. -/
def readDecimal (negative : Bool) (text : List Char) : Option (Value × List Char) := do
  let (whole, afterWhole) := spanDigits 10 text
  let (fraction, pointed, afterFraction) := readFraction afterWhole
  let (exponent, scaled, rest) ← readExponent afterFraction
  let number := numberOf 10 (whole ++ fraction)
  let integer := if negative then -(number : Int) else number
  let float := Binary64.ofDecimal negative number (exponent - fraction.length)
  if pointed || scaled then return (.float float, rest)
  match Checked.ofInt? integer with
  | some fitting => return (.integer fitting, rest)
  | none => return (.float float, rest)

/-- A number at the front of a text. -/
def readNumber (negative : Bool) (text : List Char) : Option (Value × List Char) :=
  match text with
  | '0' :: letter :: rest =>
    match base? letter with
    | some base => readBased negative base rest
    | none => readDecimal negative text
  | _ => readDecimal negative text

/-- The character of a number of hexadecimal digits at the front of a text. -/
def readCode (count : Nat) (text : List Char) : Option (Char × List Char) :=
  let digits := text.take count
  let code := numberOf 16 digits
  if digits.length = count && digits.all fun digit => (digitValue? 16 digit).isSome then
    if code.isValidChar then some (Char.ofNat code, text.drop count) else none
  else none

/-- The character that an escape stands for, from behind its backslash. -/
def readEscape (quote : Char) : List Char → Option (Char × List Char)
  | 'n' :: rest => some ('\n', rest)
  | 'r' :: rest => some ('\r', rest)
  | 't' :: rest => some ('\t', rest)
  | '\\' :: rest => some ('\\', rest)
  | 'x' :: rest => readCode 2 rest
  | 'u' :: rest => readCode 4 rest
  | 'U' :: rest => readCode 8 rest
  | letter :: rest => if letter = quote then some (quote, rest) else none
  | [] => none

/-- The content of a text of bounded length between quotes, from behind the opening one. A quote
inside is written twice or behind a backslash, and the text stays on its line. -/
def readQuoted (quote : Char) : Nat → List Char → Option (List Char × List Char)
  | 0, _ => none
  | _ + 1, [] => none
  | length + 1, '\\' :: rest => do
    let (letter, after) ← readEscape quote rest
    let (content, remaining) ← readQuoted quote length after
    return (letter :: content, remaining)
  | length + 1, letter :: rest =>
    if letter = '\n' then none
    else if letter = quote then
      match rest with
      | next :: after =>
        if next = quote then do
          let (content, remaining) ← readQuoted quote length after
          return (quote :: content, remaining)
        else some ([], rest)
      | [] => some ([], [])
    else do
      let (content, remaining) ← readQuoted quote length rest
      return (letter :: content, remaining)

/-- What follows a comment between stars, from inside `depth` comments. -/
def skipComment : Nat → List Char → List Char
  | 0, text => text
  | _ + 1, [] => []
  | depth + 1, '*' :: '/' :: rest => skipComment depth rest
  | depth + 1, '/' :: '*' :: rest => skipComment (depth + 2) rest
  | depth + 1, _ :: rest => skipComment (depth + 1) rest

/-- A text of bounded length without the blanks and comments in front. -/
def skipIdle : Nat → List Char → List Char
  | 0, text => text
  | length + 1, '/' :: '/' :: rest =>
    skipIdle length (rest.dropWhile fun letter => letter ≠ '\n')
  | length + 1, '/' :: '*' :: rest => skipIdle length (skipComment 1 rest)
  | length + 1, letter :: rest =>
    if Text.isBlank letter then skipIdle length rest else letter :: rest
  | _, [] => []

/-- Keywords after which a sign belongs to a number. -/
def openKeywords : List String := ["return", "throw", "in", "if", "while", "else"]

/-- Whether a token ends an operand, so that a minus after it subtracts. -/
def endsOperand : Token → Bool
  | word text => !openKeywords.contains text
  | literal _ => true
  | joined _ => true
  | mark text => [")", "]", "\x7d"].contains text

/-- A token other than a text between backticks at the front of a text; `operand` says whether
the token before ended an operand. -/
def readPlain (operand : Bool) (text : List Char) : Option (Token × List Char) :=
  match text with
  | [] => none
  | '"' :: rest => do
    let (content, after) ← readQuoted '"' text.length rest
    return (literal (.string (String.ofList content)), after)
  | '\'' :: rest => do
    let (content, after) ← readQuoted '\'' text.length rest
    match content with
    | [letter] => return (literal (.character letter), after)
    | _ => none
  | '-' :: next :: rest =>
    if !operand && next.isDigit then do
      let (value, after) ← readNumber true (next :: rest)
      return (literal value, after)
    else do
      let (found, after) ← readMark text
      return (mark found, after)
  | first :: _ =>
    if first.isDigit then do
      let (value, after) ← readNumber false text
      return (literal value, after)
    else if isWordCharacter first then
      let (name, after) := text.span isWordCharacter
      if isName name then some (word (String.ofList name), after) else none
    else do
      let (found, after) ← readMark text
      return (mark found, after)

/-- A text without the end of line in front. -/
def skipLineEnd : List Char → List Char
  | '\r' :: '\n' :: rest => rest
  | '\r' :: rest => rest
  | '\n' :: rest => rest
  | text => text

/-- Parts with one more character in front. -/
def addCharacter (letter : Char) : List Part → List Part
  | .text content :: rest => .text (String.singleton letter ++ content) :: rest
  | parts => .text (String.singleton letter) :: parts

/-- How a token changes the number of open braces. -/
def depthAfter (depth : Nat) : Token → Nat
  | mark "\x7b" => depth + 1
  | mark "#\x7b" => depth + 1
  | mark "\x7d" => depth - 1
  | _ => depth

/-- Whether a token is a closing brace. -/
def isClosingBrace : Token → Bool
  | mark "\x7d" => true
  | _ => false

mutual

/-- The tokens of a text of bounded length: up to its end, or when `inside` is set up to the brace
that closes none of theirs, which is taken. -/
def readAll : Nat → Bool → Nat → Bool → List Char → Option (List Token × List Char)
  | 0, _, _, _, _ => none
  | length + 1, inside, depth, operand, text =>
    match skipIdle (length + 1) text with
    | [] => if inside then none else some ([], [])
    | '`' :: rest => do
      let (parts, after) ← readParts length (skipLineEnd rest)
      let (tokens, remaining) ← readAll length inside depth true after
      return (joined parts :: tokens, remaining)
    | idle => do
      let (token, after) ← readPlain operand idle
      if inside && depth = 0 && isClosingBrace token then return ([], after)
      let (tokens, remaining) ←
        readAll length inside (depthAfter depth token) token.endsOperand after
      return (token :: tokens, remaining)

/-- The parts of a text between backticks, from behind the opening one. A backtick inside is
written twice. -/
def readParts : Nat → List Char → Option (List Part × List Char)
  | 0, _ => none
  | _ + 1, [] => none
  | length + 1, '`' :: '`' :: rest => do
    let (parts, after) ← readParts length rest
    return (addCharacter '`' parts, after)
  | _ + 1, '`' :: rest => some ([], rest)
  | length + 1, '$' :: '\x7b' :: rest => do
    let (tokens, after) ← readAll length true 0 false rest
    let (parts, remaining) ← readParts length after
    return (.code tokens :: parts, remaining)
  | length + 1, '\r' :: '\n' :: rest => do
    let (parts, after) ← readParts length rest
    return (addCharacter '\n' parts, after)
  | length + 1, letter :: rest => do
    let (parts, after) ← readParts length rest
    return (addCharacter letter parts, after)

end

/-- The tokens of a script. -/
def ofText (text : String) : Option (List Token) :=
  (readAll (text.length + 1) false 0 false text.toList).map Prod.fst

end Token

end Stencil.Script
