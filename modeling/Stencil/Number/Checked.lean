/-!
# Checked integer arithmetic

Sixty-four bit signed integers whose operations give the exact result or none: none when the
result does not fit and none when the divisor is zero. Quotients go toward zero.
-/

namespace Stencil.Checked

/-- The word of an integer that fits one. -/
def ofInt? (number : Int) : Option Int64 :=
  if number.natAbs < 9223372036854775808 ∨ number = -9223372036854775808 then
    some (Int64.ofInt number)
  else none

/-- The sum, when it fits. -/
def add? (left right : Int64) : Option Int64 := ofInt? (left.toInt + right.toInt)

/-- The difference, when it fits. -/
def subtract? (left right : Int64) : Option Int64 := ofInt? (left.toInt - right.toInt)

/-- The product, when it fits. -/
def multiply? (left right : Int64) : Option Int64 := ofInt? (left.toInt * right.toInt)

/-- The quotient toward zero, when the divisor is not zero and it fits. -/
def divide? (left right : Int64) : Option Int64 :=
  if right.toInt = 0 then none else ofInt? (left.toInt.tdiv right.toInt)

/-- The remainder of the quotient toward zero, when the divisor is not zero and that quotient
fits. -/
def remainder? (left right : Int64) : Option Int64 :=
  if right.toInt = 0 then none
  else (ofInt? (left.toInt.tdiv right.toInt)).bind fun _ => ofInt? (left.toInt.tmod right.toInt)

/-- The opposite, when it fits. -/
def negate? (number : Int64) : Option Int64 := ofInt? (-number.toInt)

/-- Every word is the word of its own integer. -/
theorem ofInt?_toInt (number : Int64) : ofInt? number.toInt = some number := by
  have lower := number.le_toInt
  have upper := number.toInt_lt
  rw [ofInt?, if_pos (by omega), Int64.ofInt_toInt]

/-- A word read from an integer holds that integer, which therefore fits. -/
theorem toInt_of_ofInt? {number : Int} {word : Int64} (fits : ofInt? number = some word) :
    word.toInt = number ∧ -9223372036854775808 ≤ number ∧ number < 9223372036854775808 := by
  unfold ofInt? at fits
  split at fits
  · rename_i bounds
    cases fits
    exact ⟨Int64.toInt_ofInt_of_le (by omega) (by omega), by omega, by omega⟩
  · cases fits

end Stencil.Checked
