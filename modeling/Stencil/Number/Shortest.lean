import Stencil.Number.Binary64

/-!
# Shortest decimal digits

The fewest decimal digits that read back as a given number, and of those the nearest to it. The
numbers around a magnitude split the line at its halves: a decimal between the two halves next to
it reads back as that magnitude, and the halves themselves do when its last place is even.
-/

namespace Stencil.Shortest

/-- Decimal digits with the exponent of the first: `d.ddd * 10 ^ exponent`. -/
structure Digits where
  /-- The digits, the first one not zero, except for zero itself. -/
  digits : List Nat
  /-- The power of ten of the first digit. -/
  exponent : Int
deriving DecidableEq, Repr

/-- Where a tie between two digit sequences goes. -/
inductive Tie where
  /-- To the larger one. -/
  | up
  /-- To the one with an even last digit. -/
  | even
deriving DecidableEq, Repr

/-- The interval of reals that read back as a magnitude, in quarters of the unit `2 ^ -1074`. -/
structure Interval where
  /-- The lower end. -/
  lower : Nat
  /-- Four times the magnitude. -/
  middle : Nat
  /-- The upper end. -/
  upper : Nat
  /-- Whether the ends themselves read back. -/
  closed : Bool
deriving DecidableEq, Repr

/-- The interval of a magnitude. The gap below a power of two is half the gap above it, except
among the smallest numbers. -/
def Interval.of (magnitude : Nat) : Interval :=
  let places := magnitude.log2 - 52
  let step := Nat.pow 2 places
  let below := if 0 < places && magnitude = Binary64.fractionCount * step then step else 2 * step
  ⟨4 * magnitude - below, 4 * magnitude, 4 * magnitude + 2 * step,
    magnitude / step % 2 = 0⟩

/-- Whether `point / scale` quarter units lie in the interval. -/
def Interval.holds (interval : Interval) (point scale : Nat) : Bool :=
  if interval.closed then interval.lower * scale ≤ point && point ≤ interval.upper * scale
  else interval.lower * scale < point && point < interval.upper * scale

/-- The largest power of ten that is at most a quotient of natural numbers, found by stepping
down from `start`. -/
def leadingPower (numerator denominator : Nat) : Nat → Int → Int
  | 0, start => start
  | steps + 1, start =>
    let reached : Bool := match start with
      | .ofNat power => Nat.pow 10 power * denominator ≤ numerator
      | .negSucc power => denominator ≤ numerator * Nat.pow 10 (power + 1)
    if reached then start else leadingPower numerator denominator steps (start - 1)

/-- The multiple of `10 ^ power` nearest to the magnitude among the two next to it that read
back, when one of them does: how often `10 ^ power` fits. -/
def candidate? (tie : Tie) (interval : Interval) (power : Int) : Option Nat :=
  -- Both sides of every comparison are scaled so that `10 ^ power` quarter units are a natural.
  let unit := 4 * Binary64.unitsInOne
  let (grid, scale) := match power with
    | .ofNat exponent => (unit * Nat.pow 10 exponent, 1)
    | .negSucc exponent => (unit, Nat.pow 10 (exponent + 1))
  let middle := interval.middle * scale
  let down := middle / grid
  let rest := middle % grid
  let lowHolds := interval.holds (down * grid) scale
  let highHolds := interval.holds ((down + 1) * grid) scale
  if lowHolds && highHolds then
    if 2 * rest < grid then some down
    else if grid < 2 * rest then some (down + 1)
    else match tie with
      | .up => some (down + 1)
      | .even => some (down + down % 2)
  else if lowHolds then some down
  else if highHolds then some (down + 1)
  else none

/-- The first grid of decimals, from coarse to fine, that holds a decimal reading back. -/
def search (tie : Tie) (interval : Interval) : Nat → Int → Nat × Int
  | 0, power => ((candidate? tie interval power).getD 0, power)
  | finer + 1, power =>
    match candidate? tie interval power with
    | some count => (count, power)
    | none => search tie interval finer (power - 1)

/-- The decimal digits of a natural number, the highest first. -/
def decimalDigits (number : Nat) : List Nat :=
  (Nat.toDigits 10 number).map fun digit => digit.toNat - 48

/-- The shortest digits of a magnitude in units of `2 ^ -1074`. -/
def ofMagnitude (tie : Tie) (magnitude : Nat) : Digits :=
  if magnitude = 0 then ⟨[0], 0⟩
  else
    let interval := Interval.of magnitude
    -- The decimal logarithm is at most 0.30103 times the binary one, plus one.
    let estimate : Int := ((magnitude.log2 : Int) - 1074) * 30103 / 100000 + 1
    let top := leadingPower magnitude Binary64.unitsInOne 3 estimate
    let (count, power) := search tie interval 17 (top + 1)
    let digits := decimalDigits count
    let kept := (digits.reverse.dropWhile (· = 0)).reverse
    ⟨kept, power + digits.length - 1⟩

end Stencil.Shortest
