import Stencil.Json.Tree
import Stencil.Number.Checked

/-!
# Reading JSON text

A strict reader: one document with blanks around it and nothing else. Containers nest at most 127
deep, control characters and lone surrogates are refused in strings, and a name that occurs twice
in an object keeps its first place and takes its last value.

A number written with a point or an exponent, or too large for a word, is read by its leading
digits: as many as fit an unsigned word are kept, rounded to a float, and scaled by a rounded
power of ten. A number that scales to infinity is refused.
-/

namespace Stencil.Json

/-- How deep containers may nest. -/
def depthLimit : Nat := 127

/-- The text without the blanks JSON allows at its front. -/
def skipBlanks (text : List Char) : List Char :=
  text.dropWhile fun character =>
    character == ' ' || character == '\n' || character == '\t' || character == '\r'

/-- The value of a decimal digit. -/
def digitValue (digit : Char) : Nat := digit.toNat - '0'.toNat

/-- The value of a hexadecimal digit. -/
def hexValue? (digit : Char) : Option Nat :=
  if digit.isDigit then some (digitValue digit)
  else if 'a' ≤ digit && digit ≤ 'f' then some (digit.toNat - 'a'.toNat + 10)
  else if 'A' ≤ digit && digit ≤ 'F' then some (digit.toNat - 'A'.toNat + 10)
  else none

/-- Four hexadecimal digits. -/
def readUnit : List Char → Option (Nat × List Char)
  | first :: second :: third :: fourth :: rest => do
    let high ← hexValue? first
    let upper ← hexValue? second
    let lower ← hexValue? third
    let low ← hexValue? fourth
    some (((high * 16 + upper) * 16 + lower) * 16 + low, rest)
  | _ => none

/-- A character written as one or two units of four digits: a leading surrogate needs its
trailing one. -/
def readUnits (text : List Char) : Option (Char × List Char) := do
  let (unit, rest) ← readUnit text
  if 0xDC00 ≤ unit && unit ≤ 0xDFFF then none
  else if 0xD800 ≤ unit && unit ≤ 0xDBFF then
    match rest with
    | '\\' :: 'u' :: rest =>
      let (second, rest) ← readUnit rest
      if 0xDC00 ≤ second && second ≤ 0xDFFF then
        some (Char.ofNat (0x10000 + (unit - 0xD800) * 0x400 + (second - 0xDC00)), rest)
      else none
    | _ => none
  else some (Char.ofNat unit, rest)

/-- The character an escape of one letter stands for. -/
def simpleEscape? : Char → Option Char
  | '"' => some '"'
  | '\\' => some '\\'
  | '/' => some '/'
  | 'b' => some '\x08'
  | 'f' => some '\x0c'
  | 'n' => some '\n'
  | 'r' => some '\r'
  | 't' => some '\t'
  | _ => none

/-- The rest of a string after its opening quote; a string is no longer than its text, which
bounds the number of steps. -/
def readStringWithin : Nat → List Char → Option (List Char × List Char)
  | 0, _ => none
  | steps + 1, text =>
    match text with
    | [] => none
    | '"' :: rest => some ([], rest)
    | '\\' :: 'u' :: rest => do
      let (character, rest) ← readUnits rest
      let (tail, rest) ← readStringWithin steps rest
      some (character :: tail, rest)
    | '\\' :: letter :: rest => do
      let character ← simpleEscape? letter
      let (tail, rest) ← readStringWithin steps rest
      some (character :: tail, rest)
    | '\\' :: [] => none
    | character :: rest =>
      if character.toNat < 32 then none
      else do
        let (tail, rest) ← readStringWithin steps rest
        some (character :: tail, rest)

/-- The rest of a string after its opening quote. -/
def readString (text : List Char) : Option (String × List Char) := do
  let (characters, rest) ← readStringWithin (text.length + 1) text
  some (String.ofList characters, rest)

/-- A digit more, when the result fits an unsigned word. -/
def appendDigit? (significand : Nat) (digit : Char) : Option Nat :=
  let longer := significand * 10 + digitValue digit
  if longer < UInt64.size then some longer else none

/-- The whole digits of a number: the digits kept, and how many more there are. -/
def wholeDigits (significand : Nat) : List Char → Nat × Nat
  | [] => (significand, 0)
  | digit :: rest =>
    match appendDigit? significand digit with
    | some longer => wholeDigits longer rest
    | none => (significand, rest.length + 1)

/-- The digits after the point: the digits kept, and how many of them were. -/
def fractionDigits (significand : Nat) : List Char → Nat × Nat
  | [] => (significand, 0)
  | digit :: rest =>
    match appendDigit? significand digit with
    | some longer =>
      let (kept, count) := fractionDigits longer rest
      (kept, count + 1)
    | none => (significand, 0)

/-- The largest power of ten used in one scaling step. -/
def largestPower : Nat := 308

/-- A float scaled by a power of ten, in steps of the largest power; three steps down reach zero
from any word. -/
def scale? : Nat → Binary64 → Int → Option Binary64
  | 0, _, _ => some (Binary64.zero false)
  | steps + 1, size, exponent =>
    if exponent.natAbs ≤ largestPower then
      let power := Binary64.ofInt (Nat.pow 10 exponent.natAbs)
      let scaled := if 0 ≤ exponent then size.multiply power else size.divide power
      if scaled.isFinite then some scaled else none
    else if size.isZero then some size
    else if 0 ≤ exponent then none
    else
      let power := Binary64.ofInt (Nat.pow 10 largestPower)
      scale? steps (size.divide power) (exponent + largestPower)

/-- The float of a significand, a power of ten and a sign. -/
def floatOf? (negative : Bool) (significand : Nat) (exponent : Int) : Option JsonNumber := do
  let size ← scale? 4 (Binary64.ofInt significand) exponent
  some (.float (if negative then size.negate else size))

/-- The integer of a sign and a significand; what does not fit is a float, and so is the zero with
a sign. -/
def integerOf (negative : Bool) (significand : Nat) : JsonNumber :=
  if !negative then .natural (UInt64.ofNat significand)
  else if significand = 0 then .float (Binary64.zero true)
  else match Checked.ofInt? (-significand) with
    | some word => .negative word
    | none => .float (Binary64.ofInt significand).negate

/-- The exponent after its letter. -/
def readExponent (text : List Char) : Option (Int × List Char) :=
  let (negative, text) := match text with
    | '+' :: rest => (false, rest)
    | '-' :: rest => (true, rest)
    | other => (false, other)
  let (digits, rest) := text.span Char.isDigit
  if digits.isEmpty then none
  else
    let size : Int := digits.foldl (fun size digit => size * 10 + digitValue digit) 0
    some (if negative then -size else size, rest)

/-- The exponent of a float, if one is written, and the float. -/
def readScaled (negative : Bool) (significand : Nat) (exponent : Int) (text : List Char) :
    Option (JsonNumber × List Char) := do
  match text with
  | letter :: rest =>
    if letter = 'e' || letter = 'E' then
      let (written, rest) ← readExponent rest
      let scaled ← floatOf? negative significand (exponent + written)
      some (scaled, rest)
    else
      let scaled ← floatOf? negative significand exponent
      some (scaled, text)
  | [] =>
    let scaled ← floatOf? negative significand exponent
    some (scaled, [])

/-- A number after its sign. -/
def readUnsigned (negative : Bool) (text : List Char) : Option (JsonNumber × List Char) := do
  let (digits, rest) := text.span Char.isDigit
  match digits with
  | [] => none
  | '0' :: _ :: _ => none
  | _ =>
    let (significand, dropped) := wholeDigits 0 digits
    match rest with
    | '.' :: rest =>
      let (fraction, rest) := rest.span Char.isDigit
      if fraction.isEmpty then none
      else
        let (longer, kept) := fractionDigits significand fraction
        readScaled negative longer (dropped - kept : Int) rest
    | 'e' :: _ => readScaled negative significand dropped rest
    | 'E' :: _ => readScaled negative significand dropped rest
    | _ =>
      if dropped = 0 then some (integerOf negative significand, rest)
      else readScaled negative significand dropped rest

/-- A number. -/
def readNumber (text : List Char) : Option (JsonNumber × List Char) :=
  match text with
  | '-' :: rest => readUnsigned true rest
  | _ => readUnsigned false text

/-- The items of an array up to its closing bracket, after at least one of them; each takes some
of the text, which bounds their number. -/
def readItems (item : List Char → Option (Json × List Char)) :
    Nat → List Char → Option (List Json × List Char)
  | 0, _ => none
  | count + 1, text => do
    let (first, rest) ← item (skipBlanks text)
    match skipBlanks rest with
    | ',' :: rest =>
      let (others, rest) ← readItems item count rest
      some (first :: others, rest)
    | ']' :: rest => some ([first], rest)
    | _ => none

/-- The members of an object up to its closing brace, after at least one of them. -/
def readMembers (item : List Char → Option (Json × List Char)) :
    Nat → List Char → Option (List (String × Json) × List Char)
  | 0, _ => none
  | count + 1, text => do
    match skipBlanks text with
    | '"' :: rest =>
      let (name, rest) ← readString rest
      match skipBlanks rest with
      | ':' :: rest =>
        let (member, rest) ← item (skipBlanks rest)
        match skipBlanks rest with
        | ',' :: rest =>
          let (others, rest) ← readMembers item count rest
          some ((name, member) :: others, rest)
        | '\x7d' :: rest => some ([(name, member)], rest)
        | _ => none
      | _ => none
    | _ => none

/-- A document at the front of a text without leading blanks, in which containers nest no deeper
than a given number. -/
def readValue : Nat → List Char → Option (Json × List Char)
  | depth, text =>
    match text with
    | 'n' :: 'u' :: 'l' :: 'l' :: rest => some (.null, rest)
    | 't' :: 'r' :: 'u' :: 'e' :: rest => some (.boolean true, rest)
    | 'f' :: 'a' :: 'l' :: 's' :: 'e' :: rest => some (.boolean false, rest)
    | '"' :: rest => do
      let (content, rest) ← readString rest
      some (.string content, rest)
    | '[' :: rest =>
      match depth with
      | 0 => none
      | inner + 1 =>
        match skipBlanks rest with
        | ']' :: rest => some (.array [], rest)
        | rest => do
          let (items, rest) ← readItems (readValue inner) (rest.length + 1) rest
          some (.array items, rest)
    | '\x7b' :: rest =>
      match depth with
      | 0 => none
      | inner + 1 =>
        match skipBlanks rest with
        | '\x7d' :: rest => some (.object [], rest)
        | rest => do
          let (members, rest) ← readMembers (readValue inner) (rest.length + 1) rest
          some (.object (membersOf members), rest)
    | _ => do
      let (read, rest) ← readNumber text
      some (.number read, rest)

/-- The document a text holds, with nothing but blanks around it. -/
def parse? (text : String) : Option Json := do
  let (document, rest) ← readValue depthLimit (skipBlanks text.toList)
  if (skipBlanks rest).isEmpty then some document else none

end Stencil.Json
