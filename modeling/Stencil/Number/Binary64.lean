/-!
# Binary floating-point numbers

Numbers of the IEEE 754 binary64 format, kept as their bits. Every finite number is a whole
multiple of the smallest subnormal, `2 ^ -1074`, so arithmetic works on exact natural numbers of
that unit and rounds once, to the nearest number and a tie to the even one. An operation without
a numerical result gives the quiet not-a-number with its sign set, and a not-a-number operand is
passed on.
-/

namespace Stencil

/-- A binary64 number as its bits. -/
structure Binary64 where
  /-- Sign, biased exponent and fraction, from the highest bit down. -/
  bits : UInt64
deriving DecidableEq, Repr, Inhabited

namespace Binary64

/-- What the bits of a number say: its sign and its magnitude in units of `2 ^ -1074`. -/
inductive Reading where
  /-- Not a number. -/
  | nan
  /-- An infinity. -/
  | infinite (negative : Bool)
  /-- A finite number. -/
  | finite (negative : Bool) (magnitude : Nat)
deriving DecidableEq, Repr

/-- The exponent field of infinities and of what is not a number. -/
def topExponent : Nat := 2047

/-- How many fractions go with each exponent, which is also the digit in front of the fraction of
a normal number: two to the power of 52. -/
def fractionCount : Nat := 0x10000000000000

/-- The sign bit. -/
def signBit : Nat := 0x8000000000000000

/-- How many units make one. -/
def unitsInOne : Nat := Nat.pow 2 1074

/-- The biased exponent field. -/
def exponentField (number : Binary64) : Nat := number.bits.toNat / fractionCount % 2048

/-- The fraction field. -/
def fractionField (number : Binary64) : Nat := number.bits.toNat % fractionCount

/-- Whether the sign bit is set. -/
def isNegative (number : Binary64) : Bool := signBit ≤ number.bits.toNat

/-- The sign and magnitude of a number. -/
def read (number : Binary64) : Reading :=
  if number.exponentField = topExponent then
    if number.fractionField = 0 then .infinite number.isNegative else .nan
  else if number.exponentField = 0 then .finite number.isNegative number.fractionField
  else
    .finite number.isNegative
      ((fractionCount + number.fractionField) * Nat.pow 2 (number.exponentField - 1))

/-- Bits with a sign put on them. -/
def withSign (negative : Bool) (bits : Nat) : Binary64 :=
  ⟨UInt64.ofNat (if negative then signBit + bits else bits)⟩

/-- Zero with a sign. -/
def zero (negative : Bool) : Binary64 := withSign negative 0

/-- Infinity with a sign. -/
def infinity (negative : Bool) : Binary64 := withSign negative (topExponent * fractionCount)

/-- The result of an operation that has none. -/
def invalid : Binary64 :=
  withSign true (topExponent * fractionCount + fractionCount / 2)

/-- Whether a number is neither infinite nor not a number. -/
def isFinite (number : Binary64) : Bool := number.exponentField ≠ topExponent

/-- Whether the bits are those of no number. -/
def isNaN (number : Binary64) : Bool := number.read = .nan

/-- The quotient of two natural numbers rounded to the nearest whole number, a tie to the even
one. -/
def roundQuotient (numerator denominator : Nat) : Nat :=
  let quotient := numerator / denominator
  let twice := 2 * (numerator % denominator)
  if twice < denominator then quotient
  else if denominator < twice then quotient + 1
  else quotient + quotient % 2

/-- The nearest number to a quotient of units `2 ^ -1074`. Below `2 ^ 53` units every whole
number is one; above, the last place is chosen so that 53 bits remain. -/
def ofUnits (negative : Bool) (numerator denominator : Nat) : Binary64 :=
  let places := (numerator / denominator).log2 - 52
  let significand := roundQuotient numerator (denominator * Nat.pow 2 places)
  let bits := places * fractionCount + significand
  if topExponent * fractionCount ≤ bits then infinity negative else withSign negative bits

/-- The nearest number to a quotient of natural numbers. -/
def ofRatio (negative : Bool) (numerator denominator : Nat) : Binary64 :=
  ofUnits negative (numerator * unitsInOne) denominator

/-- The nearest number to an integer. -/
def ofInt (number : Int) : Binary64 := ofRatio (number < 0) number.natAbs 1

/-- The nearest number to `digits * 10 ^ exponent`. -/
def ofDecimal (negative : Bool) (digits : Nat) (exponent : Int) : Binary64 :=
  match exponent with
  | .ofNat power => ofRatio negative (digits * Nat.pow 10 power) 1
  | .negSucc power => ofRatio negative digits (Nat.pow 10 (power + 1))

/-- The number with its sign bit flipped. -/
def negate (number : Binary64) : Binary64 := ⟨number.bits ^^^ 0x8000000000000000⟩

/-- The number with its sign bit cleared. -/
def absolute (number : Binary64) : Binary64 := if number.isNegative then number.negate else number

/-- A signed magnitude as an integer. -/
def signed (negative : Bool) (magnitude : Nat) : Int :=
  if negative then -(magnitude : Int) else magnitude

/-- The sum. An exact zero is positive unless both operands are negative. -/
def add (left right : Binary64) : Binary64 :=
  match left.read, right.read with
  | .nan, _ => left
  | _, .nan => right
  | .infinite first, .infinite second => if first = second then left else invalid
  | .infinite _, _ => left
  | _, .infinite _ => right
  | .finite first size, .finite second other =>
    let sum := signed first size + signed second other
    if sum = 0 then zero (first && second) else ofUnits (sum < 0) sum.natAbs 1

/-- The difference. -/
def subtract (left right : Binary64) : Binary64 :=
  if right.isNaN then if left.isNaN then left else right else left.add right.negate

/-- The product. -/
def multiply (left right : Binary64) : Binary64 :=
  match left.read, right.read with
  | .nan, _ => left
  | _, .nan => right
  | .infinite first, .infinite second => infinity (first != second)
  | .infinite first, .finite second size => if size = 0 then invalid else infinity (first != second)
  | .finite first size, .infinite second => if size = 0 then invalid else infinity (first != second)
  | .finite first size, .finite second other =>
    ofUnits (first != second) (size * other) unitsInOne

/-- The quotient. -/
def divide (left right : Binary64) : Binary64 :=
  match left.read, right.read with
  | .nan, _ => left
  | _, .nan => right
  | .infinite _, .infinite _ => invalid
  | .infinite first, .finite second _ => infinity (first != second)
  | .finite first _, .infinite second => zero (first != second)
  | .finite first size, .finite second other =>
    if other = 0 then if size = 0 then invalid else infinity (first != second)
    else ofRatio (first != second) size other

/-- The remainder of the quotient toward zero, with the sign of the dividend. -/
def remainder (left right : Binary64) : Binary64 :=
  match left.read, right.read with
  | .nan, _ => left
  | _, .nan => right
  | .infinite _, _ => invalid
  | .finite _ _, .infinite _ => left
  | .finite first size, .finite _ other =>
    if other = 0 then invalid else ofUnits first (size % other) 1

/-- The order of two numbers by value; none when one of them is not a number. -/
def compare? (left right : Binary64) : Option Ordering :=
  match left.read, right.read with
  | .nan, _ => none
  | _, .nan => none
  | .infinite first, .infinite second => some (Ord.compare second first)
  | .infinite first, .finite _ _ => some (if first then .lt else .gt)
  | .finite _ _, .infinite second => some (if second then .gt else .lt)
  | .finite first size, .finite second other =>
    some (Ord.compare (signed first size) (signed second other))

/-- Whether two numbers have the same value; what is not a number equals nothing. -/
def sameValue (left right : Binary64) : Bool := left.compare? right = some .eq

/-- Whether a number is a zero of either sign. -/
def isZero (number : Binary64) : Bool :=
  match number.read with
  | .finite _ magnitude => magnitude = 0
  | _ => false

end Binary64

end Stencil
