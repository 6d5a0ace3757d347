import Stencil.Number.Checked
import Stencil.Template.SyntaxError
import Stencil.Text.Blank
import Stencil.Text.Letter
import Stencil.Text.Search

/-!
# Reading tokens

A lexer holds the text still to be read, the position of its first character, and whether the
token before was a dot. Each call passes the blanks in front, reads one token or fails, and leaves
the lexer after what it took; a failure takes what it looked at, so that reading can go on.

After a dot a word is a property name, never a keyword, and digits never go on into a fraction.
-/

namespace Stencil

namespace Token

/-- What one attempt took from the front of a text, and what it made of it. -/
structure Reading where
  /-- The token, or why there is none. -/
  outcome : Except SyntaxFault Token
  /-- The characters taken. -/
  taken : List Char
  /-- The text after them. -/
  rest : List Char

/-- The symbols, a longer one before its own beginning. -/
def symbols : List Symbol :=
  [.equal, .notEqual, .lessEqual, .greaterEqual, .both, .dot, .comma, .openParen, .closeParen,
    .openBracket, .closeBracket, .plus, .minus, .star, .slash, .percent, .less, .greater, .assign,
    .bang]

/-- The symbol a text starts with, and the text after it. -/
def symbol? (text : List Char) : Option (Symbol × List Char) :=
  symbols.findSome? fun symbol =>
    (Text.dropPrefix? symbol.spelling.toList text).map fun rest => (symbol, rest)

/-- The character a backslash and a letter stand for in a string literal. -/
def unescaped : Char → Char
  | 'n' => '\n'
  | 't' => '\t'
  | 'r' => '\r'
  | other => other

/-- The rest of a string literal after its opening quote: its content if it is closed, the
characters taken, and the text after them. -/
def readQuoted (quote : Char) : List Char → Option (List Char) × List Char × List Char
  | [] => (none, [], [])
  | '\\' :: escape :: rest =>
    let (content, taken, after) := readQuoted quote rest
    (content.map (unescaped escape :: ·), '\\' :: escape :: taken, after)
  | character :: rest =>
    if character = quote then (some [], [character], rest)
    else if character = '\\' then (none, [character], rest)
    else
      let (content, taken, after) := readQuoted quote rest
      (content.map (character :: ·), character :: taken, after)

/-- The number that decimal digits write. -/
def decimalValue (digits : List Char) : Nat :=
  digits.foldl (fun number digit => number * 10 + (digit.toNat - '0'.toNat)) 0

/-- The digits of a fraction and the text after them, when the text goes on with a point and a
digit. -/
def fraction? : List Char → Option (List Char × List Char)
  | '.' :: digit :: rest =>
    if digit.isDigit then some ((digit :: rest).span Char.isDigit) else none
  | _ => none

/-- An integer literal, when it fits a word. -/
def integerOf (digits : List Char) : Except SyntaxFault Token :=
  match Checked.ofInt? (decimalValue digits) with
  | some number => .ok (integer number)
  | none => .error (.integerOutOfRange (String.ofList digits))

/-- A number at the front of a text that starts with a digit. -/
def readNumber (afterDot : Bool) (text : List Char) : Reading :=
  let (digits, rest) := text.span Char.isDigit
  match if afterDot then none else fraction? rest with
  | some (fraction, after) =>
    ⟨.ok (float (Binary64.ofDecimal false (decimalValue (digits ++ fraction)) (-fraction.length))),
      digits ++ '.' :: fraction, after⟩
  | none => ⟨integerOf digits, digits, rest⟩

/-- A word at the front of a text that starts with one. -/
def readWord (afterDot : Bool) (text : List Char) : Reading :=
  let (word, rest) := text.span Text.continuesWord
  let spelling := String.ofList word
  ⟨.ok (if afterDot then name spelling else ofWord spelling), word, rest⟩

/-- The token at the front of a text without leading blanks. -/
def read (afterDot : Bool) (text : List Char) : Reading :=
  match text with
  | [] => ⟨.ok finish, [], []⟩
  | first :: after =>
    match symbol? text with
    | some (found, rest) => ⟨.ok (symbol found), found.spelling.toList, rest⟩
    | none =>
      if first = '"' || first = '\'' then
        let (content, taken, rest) := readQuoted first after
        match content with
        | some characters => ⟨.ok (string (String.ofList characters)), first :: taken, rest⟩
        | none => ⟨.error (.unclosedString first), first :: taken, rest⟩
      else if first.isDigit then readNumber afterDot text
      else if Text.startsWord first then readWord afterDot text
      else ⟨.error (.unexpectedCharacter first), [first], after⟩

end Token

/-- The state of reading the content of a tag. -/
structure Lexer where
  /-- The text still to be read. -/
  rest : List Char
  /-- The position of its first character. -/
  position : Position
  /-- Whether the token before was a dot. -/
  afterDot : Bool
deriving Repr

namespace Lexer

/-- A lexer at the front of a text whose first character stands at a given place; the first
column is one. -/
def starting (text : List Char) (position : Position) : Lexer :=
  ⟨text, ⟨position.line, max 1 position.column⟩, false⟩

/-- One call of a lexer. -/
structure Step where
  /-- The token, or the error in its place. -/
  outcome : Except SyntaxError Token
  /-- Where the token starts. -/
  start : Position
  /-- The lexer after the call. -/
  after : Lexer

/-- Read one token. -/
def next (lexer : Lexer) : Step :=
  let (blanks, text) := lexer.rest.span Text.isBlank
  let start := lexer.position.advance blanks
  let reading := Token.read lexer.afterDot text
  let afterPosition := start.advance reading.taken
  match reading.outcome with
  | .ok token =>
    ⟨.ok token, start, ⟨reading.rest, afterPosition, token = .symbol .dot⟩⟩
  | .error fault =>
    ⟨.error ⟨fault, start⟩, start, ⟨reading.rest, afterPosition, lexer.afterDot⟩⟩

/-- Every call up to the one that finds the end, past errors. -/
def steps (lexer : Lexer) : List Step :=
  let step := lexer.next
  if step.after.rest.length < lexer.rest.length then
    match step.outcome with
    | .ok .finish => [step]
    | _ => step :: steps step.after
  else [step]
termination_by lexer.rest.length

end Lexer

end Stencil
