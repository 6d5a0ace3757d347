import Stencil.Json.Reader
import Stencil.Regex.Pattern
import Stencil.Text.Blank
import Stencil.Text.Search

/-!
# Reading patterns

The written form of patterns: literals, classes with set operations, groups, repetitions and
flags, without references back and without looking around beyond one character. A text that is no
pattern has no reading.
-/

namespace Stencil.Regex

/-- The flags in force at a place of a written pattern. -/
structure Flags where
  /-- Letters match in either case. -/
  ignoreCase : Bool
  /-- Line ends count as ends of the text. -/
  multiLine : Bool
  /-- A dot matches line ends too. -/
  dotAll : Bool
  /-- Carriage returns end lines too. -/
  returns : Bool
  /-- Classes and letters are those of Unicode. -/
  unicode : Bool
  /-- Blanks and comments between the parts are passed over. -/
  spaced : Bool
deriving DecidableEq, Repr

/-- The flags at the start of a pattern. -/
def Flags.start : Flags := ⟨false, false, false, false, true, false⟩

/-- How deep the parts of a pattern may nest. -/
def nestingLimit : Nat := 250

/-- How large a pattern may be with its repetitions written out. -/
def sizeLimit : Nat := 327680

/-- What follows the end of the line. -/
def afterLine : List Char → List Char
  | [] => []
  | character :: rest => if character = '\n' then rest else afterLine rest

/-- The text without the blanks and comments at its front; each step passes one of them. -/
def skipSpaceWithin : Nat → List Char → List Char
  | 0, text => text
  | _, [] => []
  | steps + 1, character :: rest =>
    if Text.isBlank character then skipSpaceWithin steps rest
    else if character = '#' then skipSpaceWithin steps (afterLine rest)
    else character :: rest

/-- The text without the blanks and comments at its front, when those are passed over. -/
def skipSpace (flags : Flags) (text : List Char) : List Char :=
  if flags.spaced then skipSpaceWithin text.length text else text

/-- What an escape or a plain character stands for. -/
inductive Element where
  /-- One character; one given as a byte is none of a text beyond ASCII. -/
  | character (character : Char) (byte : Bool)
  /-- A set. -/
  | set (set : CharSet)
  /-- A condition. -/
  | look (condition : Look)

/-- The characters with a meaning of their own. -/
def isMeta (character : Char) : Bool :=
  ['\\', '.', '+', '*', '?', '(', ')', '|', '[', ']', '\x7b', '\x7d', '^', '$', '#', '&', '-',
    '~'].contains character

/-- The characters that stand for themselves behind a backslash. -/
def isEscapable (character : Char) : Bool :=
  isMeta character ||
    (character.toNat < 128 && !character.isAlphanum && character ≠ '<' && character ≠ '>')

/-- A character by its code point. -/
def character? (code : Nat) : Option Char :=
  if code.isValidChar then some (Char.ofNat code) else none

/-- A number of hexadecimal digits. -/
def readHexDigits (flags : Flags) : Nat → Nat → List Char → Option (Nat × List Char)
  | 0, number, text => some (number, text)
  | _, _, [] => none
  | count + 1, number, digit :: rest => do
    let value ← Json.hexValue? digit
    readHexDigits flags count (number * 16 + value) (skipSpace flags rest)

/-- Hexadecimal digits up to a closing brace. -/
def readHexBraced (flags : Flags) : Nat → Option Nat → List Char → Option (Nat × List Char)
  | 0, _, _ => none
  | _, _, [] => none
  | steps + 1, number, digit :: rest =>
    if digit = '\x7d' then number.map fun number => (number, rest)
    else do
      let value ← Json.hexValue? digit
      readHexBraced flags steps (some (number.getD 0 * 16 + value)) (skipSpace flags rest)

/-- A character by its number, after the letter that announces it. -/
def readHex (flags : Flags) (digits : Nat) (text : List Char) : Option (Element × List Char) := do
  match skipSpace flags text with
  | '\x7b' :: rest =>
    let (code, rest) ← readHexBraced flags (rest.length + 1) none (skipSpace flags rest)
    let character ← character? code
    some (.character character false, rest)
  | text =>
    let (code, rest) ← readHexDigits flags digits 0 text
    let character ← character? code
    some (.character character (digits = 2), rest)

/-- The name of a property up to a closing brace. -/
def readBraced (flags : Flags) : Nat → List Char → Option (List Char × List Char)
  | 0, _ => none
  | _, [] => none
  | steps + 1, letter :: rest =>
    if letter = '\x7d' then some ([], rest)
    else do
      let (name, rest) ← readBraced flags steps (skipSpace flags rest)
      some (letter :: name, rest)

/-- The set a written property stands for: its name alone, or its name and value with an equals
sign, a colon, or a sign that they differ. -/
def writtenProperty? (written : List Char) : Option CharSet :=
  match Text.splitFirst? ['!', '='] written with
  | some (name, value) =>
    (propertyValue? (plainName name) (plainName value)).map .complement
  | none =>
    match Text.splitFirst? [':'] written with
    | some (name, value) => propertyValue? (plainName name) (plainName value)
    | none =>
      match Text.splitFirst? ['='] written with
      | some (name, value) => propertyValue? (plainName name) (plainName value)
      | none => property? (plainName written)

/-- A property after its letter. -/
def readProperty (flags : Flags) (negated : Bool) (text : List Char) :
    Option (Element × List Char) := do
  if !flags.unicode then none
  let (set, rest) ← match skipSpace flags text with
    | [] => none
    | '\x7b' :: rest => do
      let (name, rest) ← readBraced flags (rest.length + 1) (skipSpace flags rest)
      let set ← writtenProperty? name
      some (set, rest)
    | '\\' :: _ => none
    | letter :: rest => do
      let set ← property? (plainName [letter])
      some (set, skipSpace flags rest)
  some (.set ((CharSet.foldedIf flags.ignoreCase true set).negatedIf negated), rest)

/-- The letters between the braces behind a word boundary. -/
def readBoundaryName (flags : Flags) : Nat → List Char → List Char × List Char
  | 0, text => ([], text)
  | _, [] => ([], [])
  | steps + 1, letter :: rest =>
    if letter.isAlpha || letter = '-' then
      let (name, rest) := readBoundaryName flags steps (skipSpace flags rest)
      (letter :: name, rest)
    else ([], letter :: rest)

/-- A word boundary, perhaps with its side between braces; braces that start with something else
are left for a repetition. -/
def readBoundary (flags : Flags) (text : List Char) : Option (Element × List Char) := do
  let plain : Element := .look (.wordEdge flags.unicode)
  match text with
  | '\x7b' :: rest =>
    let rest := skipSpace flags rest
    match rest with
    | [] => none
    | first :: _ =>
      if first.isAlpha || first = '-' then
        let (name, rest) := readBoundaryName flags rest.length rest
        let condition ← match String.ofList name with
          | "start" => some (Look.wordStart flags.unicode)
          | "end" => some (.wordEnd flags.unicode)
          | "start-half" => some (.noWordBefore flags.unicode)
          | "end-half" => some (.noWordAfter flags.unicode)
          | _ => none
        match rest with
        | '\x7d' :: rest => some (.look condition, rest)
        | _ => none
      else some (plain, text)
  | _ => some (plain, text)

/-- A class of one letter. -/
def readClassLetter (flags : Flags) (negated : Bool) (set : CharSet) (rest : List Char) :
    Option (Element × List Char) :=
  if negated && !flags.unicode then none else some (.set (set.negatedIf negated), rest)

/-- What stands behind a backslash. -/
def readEscape (flags : Flags) (text : List Char) : Option (Element × List Char) :=
  match text with
  | [] => none
  | letter :: rest =>
    let plain (character : Char) : Option (Element × List Char) :=
      some (.character character false, rest)
    match letter with
    | 'x' => readHex flags 2 rest
    | 'u' => readHex flags 4 rest
    | 'U' => readHex flags 8 rest
    | 'p' => readProperty flags false rest
    | 'P' => readProperty flags true rest
    | 'd' => readClassLetter flags false (digitSet flags.unicode) rest
    | 'D' => readClassLetter flags true (digitSet flags.unicode) rest
    | 's' => readClassLetter flags false (spaceSet flags.unicode) rest
    | 'S' => readClassLetter flags true (spaceSet flags.unicode) rest
    | 'w' => readClassLetter flags false (wordSet flags.unicode) rest
    | 'W' => readClassLetter flags true (wordSet flags.unicode) rest
    | 'a' => plain '\x07'
    | 'f' => plain '\x0c'
    | 't' => plain '\t'
    | 'n' => plain '\n'
    | 'r' => plain '\r'
    | 'v' => plain '\x0b'
    | 'A' => some (.look .textStart, rest)
    | 'z' => some (.look .textEnd, rest)
    | 'b' => readBoundary flags rest
    | 'B' => some (.look (.noWordEdge flags.unicode), rest)
    | '<' => some (.look (.wordStart flags.unicode), rest)
    | '>' => some (.look (.wordEnd flags.unicode), rest)
    | other => if isEscapable other then plain other else none

/-! ## Sets between brackets -/

/-- An operation on two sets. -/
inductive SetOperation where
  | intersection | difference | symmetric
deriving DecidableEq, Repr

/-- An operation whose second operand is still being read. -/
abbrev Pending := Option (SetOperation × CharSet)

/-- The result of an operation that may be pending. -/
def Pending.apply (flags : Flags) (pending : Pending) (right : CharSet) : CharSet :=
  match pending with
  | none => right
  | some (operation, left) =>
    let left := left.foldedIf flags.ignoreCase flags.unicode
    let right := right.foldedIf flags.ignoreCase flags.unicode
    match operation with
    | .intersection => .intersection left right
    | .difference => .difference left right
    | .symmetric => .symmetric left right

/-- A complete set: without regard to case if asked, then negated. Outside Unicode it may hold
ASCII only. -/
def finishSet (flags : Flags) (negated : Bool) (set : CharSet) : Option CharSet :=
  let whole := (set.foldedIf flags.ignoreCase flags.unicode).negatedIf negated
  if !flags.unicode && whole.contains 128 then none else some whole

/-- The element of a set at the front of a text. -/
def readSetElement (flags : Flags) : List Char → Option (Element × List Char)
  | [] => none
  | '\\' :: rest => readEscape flags rest
  | letter :: rest => some (.character letter false, rest)

/-- The character of an element, when it is one that a set may hold. -/
def setCharacter? (flags : Flags) : Element → Option Char
  | .character character byte =>
    if !flags.unicode && (128 ≤ character.toNat || byte && 128 ≤ character.toNat) then none
    else some character
  | _ => none

/-- The set of an element. -/
def elementSet? (flags : Flags) (element : Element) : Option CharSet :=
  match element with
  | .set set => some set
  | .look _ => none
  | .character _ _ => (setCharacter? flags element).map .single

/-- A single element or a range. -/
def readSetRange (flags : Flags) (text : List Char) : Option (CharSet × List Char) := do
  let (first, rest) ← readSetElement flags text
  let rest := skipSpace flags rest
  match rest with
  | [] => none
  | '-' :: after =>
    let ahead := skipSpace flags after
    match ahead with
    | [] => none
    | next :: _ =>
      if next = ']' || next = '-' then
        let set ← elementSet? flags first
        some (set, rest)
      else
        let (second, rest) ← readSetElement flags ahead
        let low ← setCharacter? flags first
        let high ← setCharacter? flags second
        if low ≤ high then some (.ranges [(low.toNat, high.toNat)], rest) else none
  | _ =>
    let set ← elementSet? flags first
    some (set, rest)

/-- A class between brackets and colons, from behind its bracket. -/
def readAsciiClass (text : List Char) : Option (CharSet × List Char) := do
  match text with
  | ':' :: rest =>
    let (negated, rest) := match rest with
      | '^' :: rest => (true, rest)
      | _ => (false, rest)
    let (name, rest) := rest.span (· ≠ ':')
    match rest with
    | ':' :: ']' :: rest =>
      let set ← asciiClass? (String.ofList name)
      some (set.negatedIf negated, rest)
    | _ => none
  | _ => none

/-- The hyphens a set may start with. -/
def readHyphens (flags : Flags) : Nat → List Char → Bool × List Char
  | 0, text => (false, text)
  | steps + 1, '-' :: rest => (true, (readHyphens flags steps (skipSpace flags rest)).2)
  | _, text => (false, text)

/-- The start of a set behind its bracket: whether it is negated, the literal characters it starts
with, and the text after them. -/
def readSetStart (flags : Flags) (text : List Char) : Bool × CharSet × List Char :=
  let text := skipSpace flags text
  let (negated, text) := match text with
    | '^' :: rest => (true, skipSpace flags rest)
    | _ => (false, text)
  let (hyphen, text) := readHyphens flags text.length text
  if hyphen then (negated, .single '-', text)
  else match text with
    | ']' :: rest => (negated, .single ']', skipSpace flags rest)
    | _ => (negated, .none, text)

/-- A set from behind its bracket on. The state is the bound on steps, whether the set is negated,
the operation that is pending, and what has been collected since. -/
def readSetFrom (flags : Flags) :
    Nat → Bool → Pending → CharSet → List Char → Option (CharSet × List Char)
  | 0, _, _, _, _ => none
  | steps + 1, negated, pending, collected, text => do
    match skipSpace flags text with
    | [] => none
    | ']' :: rest =>
      let set ← finishSet flags negated (pending.apply flags collected)
      some (set, rest)
    | '[' :: rest =>
      match readAsciiClass rest with
      | some (set, rest) =>
        if !flags.unicode && set.contains 128 then none
        else readSetFrom flags steps negated pending (.union collected set) rest
      | none =>
        let (innerNegated, start, rest) := readSetStart flags rest
        let (set, rest) ← readSetFrom flags steps innerNegated none start rest
        readSetFrom flags steps negated pending (.union collected set) rest
    | '&' :: '&' :: rest =>
      let left := pending.apply flags collected
      readSetFrom flags steps negated (some (.intersection, left)) .none rest
    | '-' :: '-' :: rest =>
      let left := pending.apply flags collected
      readSetFrom flags steps negated (some (.difference, left)) .none rest
    | '~' :: '~' :: rest =>
      let left := pending.apply flags collected
      readSetFrom flags steps negated (some (.symmetric, left)) .none rest
    | text =>
      let (set, rest) ← readSetRange flags text
      readSetFrom flags steps negated pending (.union collected set) rest

/-- A set from behind its bracket on. -/
def readSet (flags : Flags) (text : List Char) : Option (CharSet × List Char) :=
  let (negated, start, rest) := readSetStart flags text
  readSetFrom flags (text.length + 1) negated none start rest

/-! ## Flags, groups and repetitions -/

/-- Put one flag on or off. -/
def setFlag? (flags : Flags) (on : Bool) : Char → Option Flags
  | 'i' => some { flags with ignoreCase := on }
  | 'm' => some { flags with multiLine := on }
  | 's' => some { flags with dotAll := on }
  | 'R' => some { flags with returns := on }
  | 'u' => some { flags with unicode := on }
  | 'x' => some { flags with spaced := on }
  | 'U' => some flags
  | _ => none

/-- Written flags up to a colon or a closing parenthesis: the flags, whether any were written, and
the text from there on. Each letter may be written once, and one hyphen before a letter. -/
def readFlags (written : List Char) :
    Flags → Bool → List Char → Option (Flags × Bool × List Char)
  | _, _, [] => none
  | flags, on, letter :: rest =>
    if letter = ':' || letter = ')' then
      if written.head? = some '-' then none
      else some (flags, !written.isEmpty, letter :: rest)
    else if written.contains letter then none
    else if letter = '-' then readFlags ('-' :: written) flags false rest
    else do
      let flags ← setFlag? flags on letter
      readFlags (letter :: written) flags on rest

/-- The name of a group up to its closing bracket. -/
def readGroupName (text : List Char) : Option (String × List Char) :=
  let (name, rest) := text.span (· ≠ '>')
  let valid := match name with
    | [] => false
    | first :: others =>
      (first = '_' || Text.isLetter first) &&
        others.all fun letter =>
          letter = '_' || letter = '.' || letter = '[' || letter = ']' ||
            Text.isLetter letter || Text.isNumeral letter
  match rest with
  | _ :: rest => if valid then some (String.ofList name, rest) else none
  | [] => none

/-- The start of a group behind its parenthesis. -/
inductive GroupStart where
  /-- A group whose inside has some flags, perhaps with a name. -/
  | group (flags : Flags) (name : Option String) (rest : List Char)
  /-- Flags for what follows. -/
  | flags (flags : Flags) (rest : List Char)

/-- The start of a group behind its parenthesis. -/
def readGroupStart (flags : Flags) (text : List Char) : Option GroupStart := do
  match skipSpace flags text with
  | '?' :: '=' :: _ => none
  | '?' :: '!' :: _ => none
  | '?' :: '<' :: '=' :: _ => none
  | '?' :: '<' :: '!' :: _ => none
  | '?' :: 'P' :: '<' :: rest =>
    let (name, rest) ← readGroupName rest
    some (.group flags (some name) rest)
  | '?' :: '<' :: rest =>
    let (name, rest) ← readGroupName rest
    some (.group flags (some name) rest)
  | '?' :: rest =>
    let (inner, any, rest) ← readFlags [] flags true rest
    match rest with
    | ')' :: rest => if any then some (.flags inner rest) else none
    | _ :: rest => some (.group inner none rest)
    | [] => none
  | rest => some (.group flags none rest)

/-- A decimal number that fits thirty-two bits, with blanks around it. -/
def readCount (flags : Flags) (text : List Char) : Option Nat × List Char :=
  let text := Text.trimStart text
  let (digits, rest) :=
    text.span fun letter => letter.isDigit || (flags.spaced && Text.isBlank letter)
  let digits := digits.filter Char.isDigit
  let rest := skipSpace flags (Text.trimStart rest)
  if digits.isEmpty then (none, rest)
  else
    let number := digits.foldl (fun number digit => number * 10 + (digit.toNat - 48)) 0
    (some number, rest)

/-- The bounds of a repetition behind its opening brace. -/
def readBounds (flags : Flags) (text : List Char) : Option (Nat × Option Nat × List Char) := do
  let (least, rest) := readCount flags (skipSpace flags text)
  let least ← least
  if UInt32.size ≤ least then none
  match rest with
  | ',' :: rest =>
    match skipSpace flags rest with
    | '\x7d' :: rest => some (least, none, rest)
    | rest =>
      let (most, rest) := readCount flags rest
      let most ← most
      if UInt32.size ≤ most || most < least then none
      match rest with
      | '\x7d' :: rest => some (least, some most, rest)
      | _ => none
  | '\x7d' :: rest => some (least, some least, rest)
  | _ => none

/-- A part of a pattern with the height of its written form; flags are a part that cannot be
repeated. -/
structure Part where
  /-- What the part matches. -/
  pattern : Pattern
  /-- How deep its parts nest. -/
  height : Nat
  /-- Whether it may be repeated. -/
  repeatable : Bool

/-- Parts in a row, the last first. -/
def Part.row : List Part → Part
  | [] => ⟨.empty, 0, true⟩
  | [part] => part
  | parts =>
    ⟨Pattern.sequence (parts.reverse.map Part.pattern),
      (parts.foldl (fun height part => max height part.height) 0) + 1, true⟩

/-- Alternatives, the last first. -/
def Part.alternatives : List Part → Part
  | [] => ⟨.empty, 0, true⟩
  | [part] => part
  | last :: parts =>
    ⟨parts.foldl (fun right part => .either part.pattern right) last.pattern,
      ((last :: parts).foldl (fun height part => max height part.height) 0) + 1, true⟩

/-- Repeat the last part. -/
def repeatLast (least : Nat) (most : Option Nat) : List Part → Option (List Part)
  | [] => none
  | part :: parts =>
    if part.repeatable then
      some (⟨.repeated least most part.pattern, part.height + 1, true⟩ :: parts)
    else none

/-- The text without a question mark at its front. -/
def skipLazy : List Char → List Char
  | '?' :: rest => rest
  | text => text

/-- The pattern of an element. -/
def elementPattern? (flags : Flags) : Element → Option Pattern
  | .set set => some (.one set)
  | .look condition => some (.look condition)
  | .character character byte =>
    if !flags.unicode && 128 ≤ character.toNat && (byte || flags.ignoreCase) then none
    else some (.one ((CharSet.single character).foldedIf flags.ignoreCase flags.unicode))

/-- The pattern of a dot. -/
def dotPattern? (flags : Flags) : Option Pattern :=
  if !flags.unicode then none
  else if flags.dotAll then some (.one .all)
  else if flags.returns then some (.one (.complement (.ranges [(10, 10), (13, 13)])))
  else some (.one (.complement (.single '\n')))

/-- What a pattern is read into: the parts of the branch being read and the branches before it,
each the last first, the flags in force, and the names of groups met so far. -/
structure Reading where
  /-- The parts of the current branch. -/
  parts : List Part
  /-- The complete branches. -/
  branches : List Part
  /-- The flags in force. -/
  flags : Flags
  /-- The names of groups. -/
  names : List String

/-- Everything up to a closing parenthesis or the end, with the names of groups and the text from
there on; each step takes a character at least. -/
def readBranches : Nat → Reading → List Char → Option (Part × List String × List Char)
  | 0, _, _ => none
  | steps + 1, state, text => do
    let finish : Part := Part.alternatives (Part.row state.parts :: state.branches)
    let flags := state.flags
    let onePart (pattern : Pattern) (rest : List Char) :=
      readBranches steps { state with parts := ⟨pattern, 0, true⟩ :: state.parts } rest
    let repetition (least : Nat) (most : Option Nat) (rest : List Char) := do
      let parts ← repeatLast least most state.parts
      readBranches steps { state with parts } (skipLazy rest)
    match skipSpace flags text with
    | [] => some (finish, state.names, [])
    | ')' :: rest => some (finish, state.names, ')' :: rest)
    | '|' :: rest =>
      readBranches steps
        { state with parts := [], branches := Part.row state.parts :: state.branches } rest
    | '(' :: rest =>
      match ← readGroupStart flags rest with
      | .flags flags rest =>
        readBranches steps { state with parts := ⟨.empty, 0, false⟩ :: state.parts, flags } rest
      | .group inner name rest =>
        let names ← match name with
          | none => some state.names
          | some name => if state.names.contains name then none else some (name :: state.names)
        let (inside, names, rest) ← readBranches steps ⟨[], [], inner, names⟩ rest
        match rest with
        | ')' :: rest =>
          let part : Part := ⟨inside.pattern, inside.height + 1, true⟩
          readBranches steps { state with parts := part :: state.parts, names } rest
        | _ => none
    | '[' :: rest =>
      let (set, rest) ← readSet flags rest
      readBranches steps { state with parts := ⟨.one set, 1, true⟩ :: state.parts } rest
    | '?' :: rest => repetition 0 (some 1) rest
    | '*' :: rest => repetition 0 none rest
    | '+' :: rest => repetition 1 none rest
    | '\x7b' :: rest =>
      let (least, most, rest) ← readBounds flags rest
      repetition least most (skipSpace flags rest)
    | '.' :: rest =>
      let pattern ← dotPattern? flags
      onePart pattern rest
    | '^' :: rest =>
      onePart (.look (if flags.multiLine then .lineStart flags.returns else .textStart)) rest
    | '$' :: rest =>
      onePart (.look (if flags.multiLine then .lineEnd flags.returns else .textEnd)) rest
    | '\\' :: rest =>
      let (element, rest) ← readEscape flags rest
      let pattern ← elementPattern? flags element
      onePart pattern rest
    | character :: rest =>
      let pattern ← elementPattern? flags (.character character false)
      onePart pattern rest

/-- The pattern a text writes. -/
def Pattern.parse? (text : String) : Option Pattern := do
  let characters := text.toList
  let (part, _, rest) ← readBranches (characters.length + 1) ⟨[], [], .start, []⟩ characters
  if rest.isEmpty && part.height ≤ nestingLimit && part.pattern.size ≤ sizeLimit then
    some part.pattern
  else none

end Stencil.Regex
