import Stencil.Moment.Timestamp
import Stencil.Value.Basic

/-!
# Values of tagged scalars

Kinds of data that come in with a type of their own and become their canonical text: spans of
time, timestamps, universally unique identifiers and web addresses.
-/

namespace Stencil.Value

/-- The value of a span of time. -/
def ofTimeSpan (span : TimeSpan) : Value := string span.text

/-- The value of a timestamp. -/
def ofTimestamp (moment : Timestamp) : Value := string moment.text

/-- The two hexadecimal digits of a byte. -/
def hexPair (byte : UInt8) : List Char :=
  [Nat.digitChar (byte.toNat / 16), Nat.digitChar (byte.toNat % 16)]

/-- Bytes cut into groups of given sizes; bytes beyond the last group are dropped. -/
def groups : List Nat → List UInt8 → List (List UInt8)
  | [], _ => []
  | size :: sizes, content => content.take size :: groups sizes (content.drop size)

/-- The value of an identifier of sixteen bytes: five groups of digits with hyphens between. -/
def ofIdentifier (content : List UInt8) : Value :=
  string (String.intercalate "-"
    ((groups [4, 2, 2, 2, 6] content).map fun group => String.ofList (group.flatMap hexPair)))

/-- Whether a character ends the host part of an address. -/
def endsHost (character : Char) : Bool :=
  character == '/' || character == '?' || character == '#'

/-- An address with a path: the root path is put after a host that none follows. -/
def withPath : List Char → List Char
  | ':' :: '/' :: '/' :: rest =>
    let host := rest.takeWhile fun character => !endsHost character
    let after := rest.dropWhile fun character => !endsHost character
    ':' :: '/' :: '/' :: host ++ (if after.head? = some '/' then after else '/' :: after)
  | character :: rest => character :: withPath rest
  | [] => []

/-- The value of a web address. -/
def ofAddress (address : String) : Value := string (String.ofList (withPath address.toList))

end Stencil.Value
