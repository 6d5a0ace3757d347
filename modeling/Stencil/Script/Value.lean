import Stencil.Generation.Metadata
import Stencil.Number.Notation
import Stencil.Text.Quoted

/-!
# Values of driving scripts

What a driving script computes with, and the two texts of a value. As metadata a value has its
plain text, in which an entry of metadata is just the name of its type; a script that joins a
value to a text or puts it into one shows the content of the entry instead.
-/

namespace Stencil.Script

/-- A value of a driving script. -/
inductive Value where
  /-- Nothing. -/
  | unit
  /-- A truth value. -/
  | boolean (truth : Bool)
  /-- A sixty-four bit signed integer. -/
  | integer (number : Int64)
  /-- A floating-point number. -/
  | float (number : Binary64)
  /-- A character. -/
  | character (character : Char)
  /-- A text. -/
  | string (text : String)
  /-- Values in a row. -/
  | array (items : List Value)
  /-- Values by name, in the order of the names. -/
  | map (entries : List (String × Value))
  /-- An entry of metadata. -/
  | metadata (entry : Metadata)
  /-- The integers from one bound up to another, which is left out. -/
  | range (first last : Int64)
deriving Repr, Inhabited

/-- Values by name. -/
abbrev Entries := List (String × Value)

namespace Value

/-- What messages call the type of a value. -/
def typeName : Value → String
  | unit => "()"
  | boolean _ => "bool"
  | integer _ => "i64"
  | float _ => "f64"
  | character _ => "char"
  | string _ => "string"
  | array _ => "array"
  | map _ => "map"
  | metadata _ => "geeco::bridge::MetadataPair"
  | range _ _ => "core::ops::range::Range<i64>"

/-- The text of an entry of metadata where it stands in an array or a map. -/
def nestedMetadata (entry : Metadata) : String :=
  "MetadataPair \x7b key: " ++ Text.quoted entry.key ++ ", value: " ++ Text.quoted entry.value ++
    " \x7d"

/-- The text of an integer. -/
def integerText (number : Int64) : String := toString number.toInt

/-- The text of a value without parts; `quoting` says whether texts stand between quotes. -/
def simpleText (quoting : Bool) : Value → String
  | unit => if quoting then "()" else ""
  | boolean truth => if truth then "true" else "false"
  | integer number => integerText number
  | float number => (if quoting then NumberNotation.message else .script).write number
  | character letter =>
    if quoting then Text.quotedCharacter letter else String.singleton letter
  | string text => if quoting then Text.quoted text else text
  | range first last => integerText first ++ ".." ++ integerText last
  | array _ => ""
  | map _ => ""
  | metadata _ => ""

mutual

/-- The text of a value where it stands in an array or a map; `shown` is the text of an entry of
metadata there. -/
def nestedText (shown : Metadata → String) : Value → String
  | array items => "[" ++ String.intercalate ", " (nestedTexts shown items) ++ "]"
  | map entries => "#\x7b" ++ String.intercalate ", " (nestedEntries shown entries) ++ "\x7d"
  | metadata entry => shown entry
  | other => simpleText true other

/-- The texts of values in a row. -/
def nestedTexts (shown : Metadata → String) : List Value → List String
  | [] => []
  | item :: rest => nestedText shown item :: nestedTexts shown rest

/-- The texts of named values. -/
def nestedEntries (shown : Metadata → String) : List (String × Value) → List String
  | [] => []
  | (name, value) :: rest =>
    (Text.quoted name ++ ": " ++ nestedText shown value) :: nestedEntries shown rest

end

/-- The name of the type of an entry of metadata. -/
def metadataTypeName (entry : Metadata) : String := (metadata entry).typeName

/-- The plain text of a value. -/
def plainText : Value → String
  | array items => nestedText metadataTypeName (array items)
  | map entries => nestedText metadataTypeName (map entries)
  | metadata entry => metadataTypeName entry
  | other => simpleText false other

/-- The text of a value that is joined to a text. -/
def text : Value → String
  | array items => nestedText nestedMetadata (array items)
  | map entries => nestedText nestedMetadata (map entries)
  | metadata entry => entry.text
  | other => simpleText false other

/-- Named values with one put under a name: in the place of that name, or where the order of names
has it. -/
def insertEntry (name : String) (value : Value) : Entries → Entries
  | [] => [(name, value)]
  | (known, old) :: rest =>
    if name = known then (name, value) :: rest
    else if name < known then (name, value) :: (known, old) :: rest
    else (known, old) :: insertEntry name value rest

/-- Named values in the order of their names. -/
def entriesOf (pairs : List (String × Value)) : Entries :=
  pairs.foldl (fun entries pair => insertEntry pair.1 pair.2 entries) []

end Value

end Stencil.Script
