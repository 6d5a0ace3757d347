import Stencil.Number.Checked
import Stencil.Value.Text

/-!
# Values and JSON documents

A document becomes a value of the same shape, whose maps have strings as keys; a value becomes a
document in which everything JSON cannot say has a nearest form.
-/

namespace Stencil.Value

mutual

/-- The JSON document of a value. A float that is not finite becomes `null`, bytes become an array
of integers, and the members of an object are named by the text of their keys. -/
def toJson : Value → Json
  | null => .null
  | boolean truth => .boolean truth
  | integer number =>
    if number < 0 then .number (.negative number) else .number (.natural number.toUInt64)
  | float number => if number.isFinite then .number (.float number) else .null
  | string text => .string text
  | bytes content =>
    .array (content.map fun byte => .number (.natural (UInt64.ofNat byte.toNat)))
  | array items => .array (toJsonItems items)
  | map entries => .object (Json.membersOf (toJsonMembers entries))

/-- The documents of values in a row. -/
def toJsonItems : List Value → List Json
  | [] => []
  | item :: rest => toJson item :: toJsonItems rest

/-- The documents of entries, each with the text of its key. -/
def toJsonMembers : List (Value × Value) → List (String × Json)
  | [] => []
  | (key, value) :: rest => (text key, toJson value) :: toJsonMembers rest

end

mutual

/-- The value of a JSON document. An integer that fits a signed word stays one, and every other
number is a float. -/
def ofJson : Json → Value
  | .null => null
  | .boolean truth => boolean truth
  | .number (.natural number) =>
    match Checked.ofInt? number.toNat with
    | some word => integer word
    | none => float (Binary64.ofInt number.toNat)
  | .number (.negative number) => integer number
  | .number (.float number) => float number
  | .string text => string text
  | .array items => array (ofJsonItems items)
  | .object members => map (entriesOf (ofJsonMembers members))

/-- The values of documents in a row. -/
def ofJsonItems : List Json → List Value
  | [] => []
  | item :: rest => ofJson item :: ofJsonItems rest

/-- The entries of members, each under the string of its name. -/
def ofJsonMembers : List (String × Json) → List (Value × Value)
  | [] => []
  | (name, member) :: rest => (string name, ofJson member) :: ofJsonMembers rest

end

/-- The value of a block of bytes: an array of integers from 0 to 255. -/
def ofBlob (content : List UInt8) : Value :=
  array (content.map fun byte => integer (Int64.ofNat byte.toNat))

end Stencil.Value
