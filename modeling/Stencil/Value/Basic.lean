import Stencil.Number.Binary64

/-!
# Values

The data that templates work on: the data file, metadata and everything computed from them. A map
keeps its entries in the order they were first added, its keys are values themselves, and no two
of its keys are the same. Two values are the same when they have the same shape and content;
floats are the same when their bits are, and the order of a map's entries does not count.
-/

namespace Stencil

/-- A piece of data. -/
inductive Value where
  /-- No data. -/
  | null
  /-- A truth value. -/
  | boolean (truth : Bool)
  /-- A sixty-four bit signed integer. -/
  | integer (number : Int64)
  /-- A floating-point number. -/
  | float (number : Binary64)
  /-- A text. -/
  | string (text : String)
  /-- A block of bytes. -/
  | bytes (content : List UInt8)
  /-- Values in a row. -/
  | array (items : List Value)
  /-- Values by key, in the order the keys were added. -/
  | map (entries : List (Value × Value))
deriving Repr, Inhabited

/-- Keys with their values, in order. -/
abbrev Entries := List (Value × Value)

namespace Value

mutual

/-- Whether two values are the same. -/
def same : Value → Value → Bool
  | null, null => true
  | boolean left, boolean right => left == right
  | integer left, integer right => left == right
  | float left, float right => left.bits == right.bits
  | string left, string right => left == right
  | bytes left, bytes right => left == right
  | array left, array right => sameItems left right
  | map left, map right => left.length == right.length && sameEntries left right
  | _, _ => false

/-- Whether two rows hold the same values at the same places. -/
def sameItems : List Value → List Value → Bool
  | [], [] => true
  | left :: lefts, right :: rights => same left right && sameItems lefts rights
  | _, _ => false

/-- Whether every entry has its key in another map, with the same value. -/
def sameEntries : List (Value × Value) → List (Value × Value) → Bool
  | [], _ => true
  | (key, value) :: rest, others =>
    (match others.find? fun other => same key other.1 with
      | some other => same value other.2
      | none => false) &&
    sameEntries rest others

end

/-- The value of the entry whose key is the same as a given one. -/
def lookup? (key : Value) (entries : Entries) : Option Value :=
  (entries.find? fun entry => same key entry.1).map Prod.snd

/-- The entries with a value put under a key: in the place of the same key, else at the end. -/
def insert (key value : Value) : Entries → Entries
  | [] => [(key, value)]
  | (known, old) :: rest =>
    if same key known then (known, value) :: rest else (known, old) :: insert key value rest

/-- The entries of a list of pairs, added one by one. -/
def entriesOf (pairs : List (Value × Value)) : Entries :=
  pairs.foldl (fun entries pair => insert pair.1 pair.2 entries) []

/-- Null, false, zero and everything empty count as false. -/
def isTruthy : Value → Bool
  | null => false
  | boolean truth => truth
  | integer number => number != 0
  | float number => !number.isZero
  | string text => !text.isEmpty
  | bytes content => !content.isEmpty
  | array items => !items.isEmpty
  | map entries => !entries.isEmpty

/-- The name of a value's kind. -/
def typeName : Value → String
  | null => "null"
  | boolean _ => "boolean"
  | integer _ => "integer"
  | float _ => "float"
  | string _ => "string"
  | bytes _ => "bytes"
  | array _ => "array"
  | map _ => "map"

/-- The decimal text of an integer. -/
def integerText (number : Int64) : String := toString number.toInt

/-- A property or an element: an entry of a map by its key, where an integer also reaches the key
of its decimal text, or an element of an array by its index. -/
def get? : Value → Value → Option Value
  | map entries, key =>
    match lookup? key entries with
    | some value => some value
    | none =>
      match key with
      | integer number => lookup? (string (integerText number)) entries
      | _ => none
  | array items, integer number => if number < 0 then none else items[number.toInt.toNat]?
  | _, _ => none

/-- What a loop walks over: the entries of a map, or the elements of an array by their indices. -/
def entries : Value → Entries
  | array items => items.zipIdx.map fun (item, index) => (integer (Int64.ofNat index), item)
  | map entries => entries
  | _ => []

end Value

end Stencil
