import Stencil.Template.Token.Lexer

/-!
# Scanning tokens character by character

A scanner makes the tokens of a tag by passing one character after the other, and looks no further
than the two in front. It counts the line feeds, and behind each of them the characters passed, so
that its column is zero at the front of a line; the position of the next character is one column
further.

Each routine goes on where the one before has stopped, also when that one has failed.
-/

namespace Stencil

/-- The state of scanning the content of a tag. -/
structure Scanner where
  /-- The text still to be scanned. -/
  rest : List Char
  /-- The line of the next character. -/
  line : Nat
  /-- The column of the character passed last, or zero in front of a line. -/
  column : Nat
  /-- Where the token before starts. -/
  start : Position
  /-- Whether the token before was a dot. -/
  afterDot : Bool
deriving Repr

namespace Scanner

/-- A scanner at the front of a text whose first character stands at a given place. -/
def starting (text : List Char) (position : Position) : Scanner :=
  ⟨text, position.line, position.column - 1, position, false⟩

/-- The position of the next character. -/
def position (scanner : Scanner) : Position := ⟨scanner.line, scanner.column + 1⟩

/-- The next character. -/
def peek (scanner : Scanner) : Option Char := scanner.rest.head?

/-- The character behind the next one. -/
def peekSecond (scanner : Scanner) : Option Char := scanner.rest.tail.head?

/-- Pass one character and count it; at the end of the text nothing changes. -/
def bump (scanner : Scanner) : Scanner :=
  match scanner.rest with
  | [] => scanner
  | character :: rest =>
    if character = '\n' then { scanner with rest, line := scanner.line + 1, column := 0 }
    else { scanner with rest, column := scanner.column + 1 }

/-- Passing a character leaves those behind it. -/
@[simp] theorem rest_bump (scanner : Scanner) : scanner.bump.rest = scanner.rest.tail := by
  unfold bump
  split
  · rename_i none
    rw [none]
    rfl
  · rename_i some
    rw [some]
    split <;> rfl

/-- Pass the characters of one kind, up to the first of another. -/
def readWhile (isKind : Char → Bool) (scanner : Scanner) : List Char × Scanner :=
  match _seen : scanner.rest with
  | [] => ([], scanner)
  | character :: _ =>
    if isKind character then
      let (others, after) := scanner.bump.readWhile isKind
      (character :: others, after)
    else ([], scanner)
termination_by scanner.rest.length
decreasing_by simp_all

/-- Pass the rest of a string literal behind its opening quote: its content, unless the text ends
before the closing quote. -/
def readQuoted (quote : Char) (scanner : Scanner) : Option (List Char) × Scanner :=
  match _seen : scanner.rest with
  | [] => (none, scanner)
  | character :: others =>
    if character = quote then (some [], scanner.bump)
    else if character = '\\' then
      match others with
      | [] => (none, scanner.bump)
      | escape :: _ =>
        let (content, after) := scanner.bump.bump.readQuoted quote
        (content.map (Token.unescaped escape :: ·), after)
    else
      let (content, after) := scanner.bump.readQuoted quote
      (content.map (character :: ·), after)
termination_by scanner.rest.length
decreasing_by
  all_goals
    simp only [rest_bump, List.length_tail, _seen, List.length_cons]
    omega

/-- A number. Behind a dot it is an index, and only a digit behind its point makes it a float. -/
def readNumber (scanner : Scanner) : Except SyntaxFault Token × Scanner :=
  let (digits, behind) := scanner.readWhile Char.isDigit
  if !scanner.afterDot && behind.peek = some '.' && behind.peekSecond.any Char.isDigit then
    let (fraction, after) := behind.bump.readWhile Char.isDigit
    let number := Binary64.ofDecimal false (Token.decimalValue (digits ++ fraction))
      (-fraction.length)
    (.ok (.float number), after)
  else (Token.integerOf digits, behind)

/-- A word, which behind a dot is never a keyword. -/
def readWord (scanner : Scanner) : Except SyntaxFault Token × Scanner :=
  let (word, behind) := scanner.readWhile Text.continuesWord
  let spelling := String.ofList word
  (.ok (if scanner.afterDot then .name spelling else Token.ofWord spelling), behind)

/-- The symbol a character is wherever it stands. -/
def single? : Char → Option Symbol
  | '.' => some .dot
  | ',' => some .comma
  | '(' => some .openParen
  | ')' => some .closeParen
  | '[' => some .openBracket
  | ']' => some .closeBracket
  | '+' => some .plus
  | '-' => some .minus
  | '*' => some .star
  | '/' => some .slash
  | '%' => some .percent
  | _ => none

/-- The symbol a character makes with an equality sign behind it, and the one it makes alone. -/
def paired? : Char → Option (Symbol × Symbol)
  | '=' => some (.equal, .assign)
  | '!' => some (.notEqual, .bang)
  | '<' => some (.lessEqual, .less)
  | '>' => some (.greaterEqual, .greater)
  | _ => none

/-- The token in front, or why there is none. -/
def read (scanner : Scanner) : Except SyntaxFault Token × Scanner :=
  match scanner.peek with
  | none => (.ok .finish, scanner)
  | some first =>
    match single? first, paired? first with
    | some found, _ => (.ok (.symbol found), scanner.bump)
    | none, some (double, alone) =>
      if scanner.bump.peek = some '=' then (.ok (.symbol double), scanner.bump.bump)
      else (.ok (.symbol alone), scanner.bump)
    | none, none =>
      if first = '&' && scanner.peekSecond = some '&' then
        (.ok (.symbol .both), scanner.bump.bump)
      else if first = '"' || first = '\'' then
        let (content, after) := scanner.bump.readQuoted first
        match content with
        | some characters => (.ok (.string (String.ofList characters)), after)
        | none => (.error (.unclosedString first), after)
      else if first.isDigit then scanner.readNumber
      else if Text.startsWord first then scanner.readWord
      else (.error (.unexpectedCharacter first), scanner.bump)

/-- One call: pass the blanks, note where the token starts, and read it. What was a dot is
remembered when the call succeeds. -/
def next (scanner : Scanner) : Except SyntaxError Token × Scanner :=
  let (_, behind) := scanner.readWhile Text.isBlank
  let (outcome, after) := { behind with start := behind.position }.read
  match outcome with
  | .ok token => (.ok token, { after with afterDot := token = .symbol .dot })
  | .error fault => (.error ⟨fault, after.start⟩, after)

/-- The scanner after some calls, whether they succeed or fail. -/
def after (scanner : Scanner) : Nat → Scanner
  | 0 => scanner
  | calls + 1 => scanner.next.2.after calls

end Scanner

end Stencil
