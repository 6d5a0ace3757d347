import Stencil.Number.Notation

/-!
# JSON trees

A JSON document as a tree, and its compact text: no blanks, the members of an object in their
order, and in strings only what must be escaped. An object holds each name once.
-/

namespace Stencil

/-- A number of a JSON document, kept in the kind it was written as. -/
inductive JsonNumber where
  /-- An integer without a sign. -/
  | natural (number : UInt64)
  /-- An integer below zero. -/
  | negative (number : Int64)
  /-- Any other number. -/
  | float (number : Binary64)
deriving DecidableEq, Repr

/-- A JSON document. -/
inductive Json where
  /-- The word `null`. -/
  | null
  /-- The word `true` or `false`. -/
  | boolean (truth : Bool)
  /-- A number. -/
  | number (number : JsonNumber)
  /-- A string. -/
  | string (text : String)
  /-- An array. -/
  | array (items : List Json)
  /-- An object: its members in order. -/
  | object (members : List (String × Json))
deriving Repr, Inhabited

namespace Json

/-- The members with one put under a name: in the place of that name, else at the end. -/
def insertMember (name : String) (member : Json) : List (String × Json) → List (String × Json)
  | [] => [(name, member)]
  | (known, old) :: rest =>
    if name = known then (known, member) :: rest
    else (known, old) :: insertMember name member rest

/-- The members of a list of pairs, added one by one. -/
def membersOf (pairs : List (String × Json)) : List (String × Json) :=
  pairs.foldl (fun members pair => insertMember pair.1 pair.2 members) []

/-- A character as it stands in a JSON string. -/
def escaped (character : Char) : List Char :=
  match character with
  | '"' => ['\\', '"']
  | '\\' => ['\\', '\\']
  | '\n' => ['\\', 'n']
  | '\r' => ['\\', 'r']
  | '\t' => ['\\', 't']
  | '\x08' => ['\\', 'b']
  | '\x0c' => ['\\', 'f']
  | other =>
    if other.toNat < 32 then
      let digits := Nat.toDigits 16 other.toNat
      ['\\', 'u'] ++ List.replicate (4 - digits.length) '0' ++ digits
    else [other]

/-- A text as a JSON string. -/
def quote (text : String) : String :=
  String.ofList ('"' :: text.toList.flatMap escaped ++ ['"'])

/-- The text of a finite number; JSON has no other ones, and `null` stands for them. -/
def floatText (number : Binary64) : String :=
  if number.isFinite then NumberNotation.json.write number else "null"

/-- The text of a number. -/
def numberText : JsonNumber → String
  | .natural word => toString word.toNat
  | .negative word => toString word.toInt
  | .float value => floatText value

/-- Texts between brackets, separated by commas. -/
def bracketed (opening closing : String) (parts : List String) : String :=
  opening ++ String.intercalate "," parts ++ closing

mutual

/-- The compact text of a document. -/
def compact : Json → String
  | null => "null"
  | boolean truth => if truth then "true" else "false"
  | number value => numberText value
  | string text => quote text
  | array items => bracketed "[" "]" (compactItems items)
  | object members => bracketed "\x7b" "\x7d" (compactMembers members)

/-- The compact texts of documents in a row. -/
def compactItems : List Json → List String
  | [] => []
  | item :: rest => compact item :: compactItems rest

/-- The compact texts of members, each with its name. -/
def compactMembers : List (String × Json) → List String
  | [] => []
  | (name, member) :: rest => (quote name ++ ":" ++ compact member) :: compactMembers rest

end

end Json

end Stencil
