import Stencil.Evaluation.Bounds
import Stencil.Regex.Reader
import Stencil.Template.Builtin
import Stencil.Text.CaseMap
import Stencil.Text.Search
import Stencil.Value.Arithmetic

/-!
# Calling builtin functions

What each builtin function computes. A call always has a result, whatever its arguments are: a
missing argument counts as null.
-/

namespace Stencil

namespace Value

/-- How many characters, bytes, elements or entries a value has. -/
def size : Value → Nat
  | string text => text.length
  | bytes content => content.length
  | array items => items.length
  | map entries => entries.length
  | _ => 0

/-- The elements of an array; none for another value. -/
def items? : Value → Option (List Value)
  | array items => some items
  | _ => none

/-- Arrays put in a row; anything else joined as text. -/
def concatenate (values : List Value) : Value :=
  match values.mapM items? with
  | some rows => array rows.flatten
  | none => string (String.join (values.map text))

/-- The texts of elements or of a map's values with a separator between them. -/
def join (value : Value) (separator : String) : String :=
  match value with
  | array items => String.intercalate separator (items.map text)
  | map entries => String.intercalate separator (entries.map fun entry => entry.2.text)
  | other => other.text

/-- Whether a map has a key, an array an element, or a string a piece of text. -/
def contains (value key : Value) : Bool :=
  match value with
  | map entries => (lookup? key entries).isSome || (value.get? key).isSome
  | array items => items.any fun item => same item key
  | string whole => Text.occursIn key.text.toList whole.toList
  | _ => false

/-- The keys of a map or the indices of an array. -/
def keys : Value → Value
  | map entries => array (entries.map Prod.fst)
  | array items => array ((List.range items.length).map fun index => integer (Int64.ofNat index))
  | _ => array []

/-- The values of a map or the elements of an array. -/
def values : Value → Value
  | map entries => array (entries.map Prod.snd)
  | array items => array items
  | _ => array []

/-- The value of the first entry; null when there is none. -/
def first (value : Value) : Value :=
  match value.entries.head? with
  | some entry => entry.2
  | none => null

/-- The value of the last entry; null when there is none. -/
def last (value : Value) : Value :=
  match value.entries.getLast? with
  | some entry => entry.2
  | none => null

/-- The index that a value is: an integer that is not negative. -/
def index? : Value → Option UInt64
  | integer number => if number < 0 then none else some number.toUInt64
  | _ => none

/-- The bounds of a part of a row, from an index on and at most so many elements if a number of them
is given; none when one of these is not an index. -/
def bounds? (length : Nat) (start : Value) (count : Option Value) : Option (Bounds length) := do
  let bounds := Bounds.startingAt length (← start.index?)
  match count with
  | none => some bounds
  | some most => some (bounds.limit (← most.index?))

/-- A part of a string or of an array, from an index on and at most so many elements; null when it
has no bounds. -/
def slice (subject start : Value) (count : Option Value) : Value :=
  match bounds? subject.size start count, subject with
  | some bounds, string whole => string (String.ofList (bounds.select whole.toList))
  | some bounds, array items => array (bounds.select items)
  | _, _ => null

/-- Whether a regular expression matches somewhere in a text; a malformed one matches nothing. -/
def isMatch (subject pattern : String) : Bool :=
  match Regex.Pattern.parse? pattern with
  | some parsed => parsed.occursIn subject.toList
  | none => false

end Value

/-- The result of calling a function. -/
def Builtin.call (builtin : Builtin) (arguments : List Value) : Value :=
  let argument (index : Nat) : Value := arguments[index]?.getD .null
  match builtin with
  | len => .integer (Int64.ofNat (argument 0).size)
  | upper => .string (String.ofList (Text.upper (argument 0).text.toList))
  | lower => .string (String.ofList (Text.lower (argument 0).text.toList))
  | cat => Value.concatenate arguments
  | join => .string ((argument 0).join (argument 1).text)
  | has => .boolean ((argument 0).contains (argument 1))
  | default => if (argument 0).isTruthy then argument 0 else argument 1
  | keys => (argument 0).keys
  | values => (argument 0).values
  | first => (argument 0).first
  | last => (argument 0).last
  | slice => (argument 0).slice (argument 1) arguments[2]?
  | replace =>
    .string (String.ofList (Text.replaceAll (argument 1).text.toList (argument 2).text.toList
      (argument 0).text.toList))
  | matching => .boolean (Value.isMatch (argument 0).text (argument 1).text)
  | kind => .string (argument 0).typeName
  | str => .string (argument 0).text

end Stencil
