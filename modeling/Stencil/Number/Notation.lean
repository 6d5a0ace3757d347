import Stencil.Number.Shortest

/-!
# Notations for numbers

How shortest digits are laid out: which exponents are written positionally, whether a whole number
keeps a point, and how the exponent is written. Each notation of the program is one record.
-/

namespace Stencil

open Shortest

/-- The decisions a number format makes. -/
structure NumberNotation where
  /-- Which numbers, given with their digits, are written with a point in place instead of an
  exponent. -/
  positional : Binary64 → Digits → Bool
  /-- Whether a whole number written positionally ends in `.0`. -/
  pointed : Bool
  /-- Whether an exponent that is not negative has a plus sign. -/
  plus : Bool
  /-- Whether a negative zero shows its sign. -/
  signedZero : Bool
  /-- Where a tie between two shortest forms goes. -/
  tie : Tie

namespace NumberNotation

/-- Text a template writes for a number: always positional. -/
def plain : NumberNotation := ⟨fun _ _ => true, false, false, true, .up⟩

/-- Numbers in JSON text: positional from `1e-5` and below `1e16`. -/
def json : NumberNotation :=
  ⟨fun _ digits => -5 ≤ digits.exponent && digits.exponent < 16, true, true, true, .even⟩

/-- Numbers in messages about tokens, and in the arrays and maps of a driving script: positional
from `1e-4` and below `1e16`. -/
def message : NumberNotation :=
  ⟨fun _ digits => -4 ≤ digits.exponent && digits.exponent < 16, true, false, true, .up⟩

/-- The least size of a number that a script writes positionally: of the numbers with a
significand of 24 bits the nearest to `1e-7`. -/
def scriptLeast : Binary64 := Binary64.ofRatio false 14073749 140737488355328

/-- The greatest size of a number that a script writes positionally: of the numbers with a
significand of 24 bits the nearest to `1e13`. -/
def scriptGreatest : Binary64 := Binary64.ofInt 9999999827968

/-- Whether the size of a number lies between those two. -/
def isScriptSized (number : Binary64) : Bool :=
  let size := number.absolute
  size.compare? scriptLeast != some .lt && size.compare? scriptGreatest != some .gt

/-- Numbers of a driving script: positional from about `1e-7` to about `1e13`. -/
def script : NumberNotation := ⟨fun number _ => isScriptSized number, true, false, false, .up⟩

/-- One decimal digit. -/
def digitCharacter (digit : Nat) : Char := Char.ofNat (48 + digit)

/-- Digits with the point in its place. -/
def writePositional (pointed : Bool) (number : Digits) : List Char :=
  let digits := number.digits.map digitCharacter
  match number.exponent with
  | .ofNat power =>
    let whole := digits.take (power + 1) ++ List.replicate (power + 1 - digits.length) '0'
    match digits.drop (power + 1) with
    | [] => if pointed then whole ++ ['.', '0'] else whole
    | fraction => whole ++ '.' :: fraction
  | .negSucc zeros => '0' :: '.' :: List.replicate zeros '0' ++ digits

/-- Digits with an exponent. -/
def writeScientific (plus : Bool) (number : Digits) : List Char :=
  let significand := match number.digits.map digitCharacter with
    | [] => []
    | [first] => [first]
    | first :: rest => first :: '.' :: rest
  let sign := if number.exponent < 0 then ['-'] else if plus then ['+'] else []
  significand ++ 'e' :: sign ++ Nat.toDigits 10 number.exponent.natAbs

/-- The text of a number. -/
def write (style : NumberNotation) (number : Binary64) : String :=
  match number.read with
  | .nan => "NaN"
  | .infinite negative => if negative then "-inf" else "inf"
  | .finite negative magnitude =>
    let digits := ofMagnitude style.tie magnitude
    let sign := if negative && (style.signedZero || magnitude ≠ 0) then ['-'] else []
    let body :=
      if magnitude = 0 || style.positional number digits then
        writePositional style.pointed digits
      else writeScientific style.plus digits
    String.ofList (sign ++ body)

end NumberNotation

end Stencil
