import Stencil.Number.Checked
import Stencil.Value.Text

/-!
# Comparing and computing

How templates compare values and compute with them. Numbers compare by value across integers and
floats, and every operation has a result: null where the operands do not fit the operation.
Integers stay exact, and an integer that meets a float becomes the nearest float.
-/

namespace Stencil

/-- A number of either kind. -/
inductive Numeral where
  /-- A signed word. -/
  | integer (number : Int64)
  /-- A floating-point number. -/
  | float (number : Binary64)
deriving DecidableEq, Repr

/-- The number as a float. -/
def Numeral.toFloat : Numeral → Binary64
  | integer number => Binary64.ofInt number.toInt
  | float number => number

namespace Value

/-- The number a value is. -/
def number? : Value → Option Numeral
  | integer number => some (.integer number)
  | float number => some (.float number)
  | _ => none

/-- Whether two values count as equal: numbers by value, all else when it is the same. -/
def equals (left right : Value) : Bool :=
  match left.number?, right.number? with
  | some (.integer first), some (.integer second) => first == second
  | some first, some second => first.toFloat.sameValue second.toFloat
  | _, _ => same left right

/-- The order of two numbers or of two strings; strings go by their characters. -/
def compare? : Value → Value → Option Ordering
  | string left, string right => some (Ord.compare left right)
  | left, right =>
    match left.number?, right.number? with
    | some (.integer first), some (.integer second) => some (Ord.compare first.toInt second.toInt)
    | some first, some second => first.toFloat.compare? second.toFloat
    | _, _ => none

/-- An operation on numbers, exact for two integers and rounded otherwise. -/
def compute (exact : Int64 → Int64 → Option Int64) (rounded : Binary64 → Binary64 → Binary64)
    (left right : Value) : Value :=
  match left.number?, right.number? with
  | some (.integer first), some (.integer second) =>
    match exact first second with
    | some result => integer result
    | none => null
  | some first, some second => float (rounded first.toFloat second.toFloat)
  | _, _ => null

/-- The sum of numbers; with a string the texts are joined, and two arrays are put in a row. -/
def add : Value → Value → Value
  | string left, right => string (left ++ right.text)
  | left, string right => string (left.text ++ right)
  | array left, array right => array (left ++ right)
  | left, right => compute Checked.add? Binary64.add left right

/-- The difference of numbers. -/
def subtract : Value → Value → Value := compute Checked.subtract? Binary64.subtract

/-- The product of numbers. -/
def multiply : Value → Value → Value := compute Checked.multiply? Binary64.multiply

/-- The quotient of numbers. -/
def divide : Value → Value → Value := compute Checked.divide? Binary64.divide

/-- The remainder of numbers. -/
def remainder : Value → Value → Value := compute Checked.remainder? Binary64.remainder

/-- The opposite of a number. -/
def negate : Value → Value
  | integer number =>
    match Checked.negate? number with
    | some result => integer result
    | none => null
  | float number => float number.negate
  | _ => null

end Value

end Stencil
