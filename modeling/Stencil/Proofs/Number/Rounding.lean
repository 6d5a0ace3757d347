import Mathlib.Data.Nat.Log
import Mathlib.Tactic.Ring
import Stencil.Number.Binary64

/-!
# Rounding integers

An integer becomes a float by one rounding of its units, to the nearest multiple of a power of two.
The main statements are that rounding keeps the order of integers, so that it never turns two of
them around, and that it leaves every integer of at most fifty-three binary digits as it is.
-/

namespace Stencil.Binary64

/-! ## Quotients -/

/-- A rounded quotient is the whole quotient or the next number. -/
theorem roundQuotient_bounds (numerator denominator : Nat) :
    numerator / denominator ≤ roundQuotient numerator denominator ∧
      roundQuotient numerator denominator ≤ numerator / denominator + 1 := by
  unfold roundQuotient
  dsimp only
  split_ifs <;> omega

/-- Rounding keeps the order of quotients by the same denominator. -/
theorem roundQuotient_mono (denominator : Nat) {less more : Nat} (ordered : less ≤ more) :
    roundQuotient less denominator ≤ roundQuotient more denominator := by
  have below := roundQuotient_bounds less denominator
  have above := roundQuotient_bounds more denominator
  have quotients : less / denominator ≤ more / denominator := Nat.div_le_div_right ordered
  by_cases same : less / denominator = more / denominator
  · -- In the same interval the remainders decide.
    have remainders : less % denominator ≤ more % denominator := by
      have lessParts := Nat.div_add_mod less denominator
      have moreParts := Nat.div_add_mod more denominator
      rw [same] at lessParts
      omega
    unfold roundQuotient
    dsimp only
    rw [same]
    split_ifs <;> omega
  · omega

/-- A whole quotient is not rounded. -/
theorem roundQuotient_mul (quotient : Nat) {denominator : Nat} (positive : 0 < denominator) :
    roundQuotient (quotient * denominator) denominator = quotient := by
  simp [roundQuotient, Nat.mul_div_cancel _ positive, positive]

/-! ## Units -/

/-- How many binary places of a number of units are rounded away. -/
def droppedPlaces (units : Nat) : Nat := units.log2 - 52

/-- The digits that are left of a number of units. -/
def significand (units : Nat) : Nat := roundQuotient units (2 ^ droppedPlaces units)

/-- The magnitude of the number nearest to a number of units. -/
def roundUnits (units : Nat) : Nat := significand units * 2 ^ droppedPlaces units

/-- A number of units lies between two powers of two, unless it is small. -/
theorem units_bounds (units : Nat) : units < 2 ^ 53 * 2 ^ droppedPlaces units ∧
    (droppedPlaces units = 0 ∨ 2 ^ 52 * 2 ^ droppedPlaces units ≤ units) := by
  have above : units < 2 ^ (units.log2 + 1) := Nat.lt_log2_self
  rw [← pow_add, ← pow_add, droppedPlaces]
  constructor
  · exact above.trans_le (Nat.pow_le_pow_right (by decide) (by omega))
  · by_cases small : units.log2 ≤ 52
    · exact Or.inl (by omega)
    · have nonzero : units ≠ 0 := by
        rintro rfl
        exact small (by decide)
      have below : 2 ^ units.log2 ≤ units := Nat.log2_self_le nonzero
      rw [show 52 + (units.log2 - 52) = units.log2 by omega]
      exact Or.inr below

/-- Of a number of units fifty-three digits are left, or all of them. -/
theorem significand_bounds (units : Nat) : significand units ≤ 2 ^ 53 ∧
    (droppedPlaces units = 0 ∨ 2 ^ 52 ≤ significand units) := by
  have positive : 0 < 2 ^ droppedPlaces units := Nat.two_pow_pos _
  obtain ⟨above, below⟩ := units_bounds units
  constructor
  · have bound := roundQuotient_mono (2 ^ droppedPlaces units) above.le
    rwa [roundQuotient_mul _ positive] at bound
  · refine below.imp_right fun least => ?_
    have bound := roundQuotient_mono (2 ^ droppedPlaces units) least
    rwa [roundQuotient_mul _ positive] at bound

/-- More units drop as many places or more. -/
theorem droppedPlaces_mono {less more : Nat} (ordered : less ≤ more) :
    droppedPlaces less ≤ droppedPlaces more := by
  rw [droppedPlaces, droppedPlaces, Nat.log2_eq_log_two, Nat.log2_eq_log_two]
  exact Nat.sub_le_sub_right (Nat.log_mono_right ordered) 52

/-- Few units drop few places. -/
theorem droppedPlaces_le {units power : Nat} (bound : units < 2 ^ (power + 53)) :
    droppedPlaces units ≤ power := by
  by_cases nothing : units = 0
  · rw [nothing, droppedPlaces, Nat.log2_zero]
    omega
  · have fewer := (Nat.log2_lt nothing).mpr bound
    rw [droppedPlaces]
    omega

/-- Rounding keeps the order of units. -/
theorem roundUnits_mono {less more : Nat} (ordered : less ≤ more) :
    roundUnits less ≤ roundUnits more := by
  have places := droppedPlaces_mono ordered
  by_cases same : droppedPlaces less = droppedPlaces more
  · rw [roundUnits, roundUnits, significand, significand, same]
    exact Nat.mul_le_mul_right _ (roundQuotient_mono _ ordered)
  · have least : 2 ^ 52 ≤ significand more :=
      (significand_bounds more).2.resolve_left (by omega)
    calc
      roundUnits less ≤ 2 ^ 53 * 2 ^ droppedPlaces less :=
        Nat.mul_le_mul_right _ (significand_bounds less).1
      _ = 2 ^ 52 * 2 ^ (droppedPlaces less + 1) := by ring
      _ ≤ 2 ^ 52 * 2 ^ droppedPlaces more :=
        Nat.mul_le_mul_left _ (Nat.pow_le_pow_right (by decide) (by omega))
      _ ≤ roundUnits more := Nat.mul_le_mul_right _ least

/-- Units that end in as many zeros as places are dropped stay as they are. -/
theorem roundUnits_of_dvd {units : Nat} (whole : 2 ^ droppedPlaces units ∣ units) :
    roundUnits units = units := by
  obtain ⟨quotient, parts⟩ := whole
  have same : significand units = quotient := by
    rw [significand]
    nth_rewrite 1 [parts]
    rw [Nat.mul_comm, roundQuotient_mul _ (Nat.two_pow_pos _)]
  rw [roundUnits, same, Nat.mul_comm, ← parts]

/-! ## Bits -/

/-- The fields of bits with a sign put on them. -/
theorem fields_withSign (negative : Bool) {bits : Nat} (bound : bits < signBit) :
    (withSign negative bits).exponentField = bits / fractionCount ∧
      (withSign negative bits).fractionField = bits % fractionCount ∧
        (withSign negative bits).isNegative = negative := by
  have word : (withSign negative bits).bits.toNat = (if negative then signBit else 0) + bits := by
    rw [withSign, UInt64.toNat_ofNat']
    simp only [signBit] at bound ⊢
    cases negative <;> simp <;> omega
  rw [exponentField, fractionField, isNegative, word]
  simp only [signBit, fractionCount] at bound ⊢
  cases negative <;> simp <;> omega

/-- A rounded quotient is a number or an infinity, with the sign it is given. -/
theorem isNumber_ofUnits (negative : Bool) (numerator denominator : Nat) :
    (ofUnits negative numerator denominator).isNaN = false ∧
      (ofUnits negative numerator denominator).isNegative = negative := by
  simp only [ofUnits]
  split
  case isTrue large =>
    obtain ⟨exponent, fraction, sign⟩ :=
      @fields_withSign negative (topExponent * fractionCount) (by decide)
    rw [infinity, isNaN, read, exponent, fraction, sign]
    exact ⟨rfl, rfl⟩
  case isFalse small =>
    generalize (numerator / denominator).log2 - 52 = places at small ⊢
    generalize places * fractionCount + _ = bits at small ⊢
    have below : bits < signBit ∧ bits / fractionCount ≠ topExponent := by
      simp only [topExponent, fractionCount, signBit] at small ⊢
      omega
    obtain ⟨exponent, fraction, sign⟩ := fields_withSign negative below.1
    rw [isNaN, read, exponent, fraction, sign, if_neg below.2]
    split <;> exact ⟨rfl, rfl⟩

/-- What a decimal writes is a number or an infinity, with the sign it is given. -/
theorem isNumber_ofDecimal (negative : Bool) (digits : Nat) (exponent : Int) :
    (ofDecimal negative digits exponent).isNaN = false ∧
      (ofDecimal negative digits exponent).isNegative = negative := by
  cases exponent with
  | ofNat power => exact isNumber_ofUnits negative _ _
  | negSucc power => exact isNumber_ofUnits negative _ _

/-- Places and digits in a row are the bits of the number that has them. -/
theorem read_withSign (negative : Bool) {places digits : Nat} (few : digits ≤ 2 ^ 53)
    (normal : places = 0 ∨ 2 ^ 52 ≤ digits) (small : places < 2000) :
    (withSign negative (places * fractionCount + digits)).read =
      .finite negative (digits * 2 ^ places) := by
  have bound : places * fractionCount + digits < signBit := by
    simp only [fractionCount, signBit]
    omega
  obtain ⟨exponent, fraction, sign⟩ := fields_withSign negative bound
  rw [read, exponent, fraction, sign]
  by_cases subnormal : digits < 2 ^ 52
  · obtain rfl := normal.resolve_right (by omega)
    have quotient : (0 * fractionCount + digits) / fractionCount = 0 := by
      simp only [fractionCount]
      omega
    have remainder : (0 * fractionCount + digits) % fractionCount = digits := by
      simp only [fractionCount]
      omega
    rw [quotient, remainder, if_neg (by decide), if_pos rfl, pow_zero, Nat.mul_one]
  · by_cases carried : digits = 2 ^ 53
    · -- The digits have been rounded up to a power of two, which counts as one more place.
      have quotient : (places * fractionCount + digits) / fractionCount = places + 2 := by
        simp only [fractionCount]
        omega
      have remainder : (places * fractionCount + digits) % fractionCount = 0 := by
        simp only [fractionCount]
        omega
      rw [quotient, remainder, if_neg (by simp only [topExponent]; omega), if_neg (by omega)]
      refine congrArg (Reading.finite negative) ?_
      change 2 ^ 52 * 2 ^ (places + 1) = digits * 2 ^ places
      rw [carried]
      ring
    · have quotient : (places * fractionCount + digits) / fractionCount = places + 1 := by
        simp only [fractionCount]
        omega
      have remainder :
          fractionCount + (places * fractionCount + digits) % fractionCount = digits := by
        simp only [fractionCount]
        omega
      rw [quotient, remainder, if_neg (by simp only [topExponent]; omega), if_neg (by omega)]
      rfl

/-- Units are read back rounded. -/
theorem read_ofUnits (negative : Bool) {units : Nat} (small : droppedPlaces units < 2000) :
    (ofUnits negative units 1).read = .finite negative (roundUnits units) := by
  obtain ⟨few, normal⟩ := significand_bounds units
  have made : ofUnits negative units 1 =
      withSign negative (droppedPlaces units * fractionCount + significand units) := by
    have bound : ¬topExponent * fractionCount ≤
        droppedPlaces units * fractionCount + significand units := by
      simp only [topExponent, fractionCount]
      omega
    simp only [ofUnits, Nat.div_one, Nat.one_mul]
    exact if_neg bound
  rw [made, read_withSign negative few normal small]
  rfl

/-! ## Integers -/

/-- The units in one are a power of two. -/
theorem exists_unitsInOne_eq : ∃ power < 1900, unitsInOne = Nat.pow 2 power :=
  ⟨1074, by decide, by delta unitsInOne; rfl⟩

/-- An integer of at most sixty-four digits drops few places. -/
theorem droppedPlaces_lt {number : Nat} (small : number ≤ 2 ^ 63) :
    droppedPlaces (number * unitsInOne) < 2000 := by
  obtain ⟨power, less, units⟩ := exists_unitsInOne_eq
  have bound : number * 2 ^ power < 2 ^ (power + 11 + 53) := by
    calc
      number * 2 ^ power ≤ 2 ^ 63 * 2 ^ power := Nat.mul_le_mul_right _ small
      _ = 2 ^ (63 + power) := (pow_add 2 63 power).symm
      _ < 2 ^ (power + 11 + 53) := Nat.pow_lt_pow_right (by decide) (by omega)
  have places := droppedPlaces_le bound
  rw [units, Nat.pow_eq]
  omega

/-- A number of at most fifty-three digits drops only zeros of its units. -/
theorem roundUnits_eq {number : Nat} (small : number ≤ 2 ^ 53) :
    roundUnits (number * unitsInOne) = number * unitsInOne := by
  obtain ⟨power, -, units⟩ := exists_unitsInOne_eq
  refine roundUnits_of_dvd ?_
  rw [units, Nat.pow_eq]
  by_cases greatest : number = 2 ^ 53
  · rw [greatest, ← pow_add]
    have places : droppedPlaces (2 ^ (53 + power)) ≤ power + 1 :=
      droppedPlaces_le (Nat.pow_lt_pow_right (by decide) (by omega))
    exact pow_dvd_pow 2 (by omega)
  · have bound : number * 2 ^ power < 2 ^ (power + 53) := by
      rw [pow_add, Nat.mul_comm]
      exact Nat.mul_lt_mul_of_pos_left (by omega) (Nat.two_pow_pos _)
    exact (pow_dvd_pow 2 (droppedPlaces_le bound)).mul_left number

/-- The value of the number nearest to an integer, in units. -/
def roundInt (number : Int) : Int :=
  signed (number < 0) (roundUnits (number.natAbs * unitsInOne))

/-- An integer is read back rounded. -/
theorem read_ofInt {number : Int} (small : number.natAbs ≤ 2 ^ 63) :
    (ofInt number).read =
      .finite (number < 0) (roundUnits (number.natAbs * unitsInOne)) :=
  read_ofUnits _ (droppedPlaces_lt small)

/-- Rounding keeps the order of integers. -/
theorem roundInt_mono {less more : Int} (ordered : less ≤ more) :
    roundInt less ≤ roundInt more := by
  have rounded {first second : Int} (sizes : first.natAbs ≤ second.natAbs) :
      roundUnits (first.natAbs * unitsInOne) ≤ roundUnits (second.natAbs * unitsInOne) :=
    roundUnits_mono (Nat.mul_le_mul_right _ sizes)
  unfold roundInt signed
  by_cases negative : more < 0
  · have sizes := rounded (show more.natAbs ≤ less.natAbs by omega)
    simp only [negative, show less < 0 by omega, decide_true, ↓reduceIte]
    omega
  · by_cases crosses : less < 0
    · simp only [negative, crosses, decide_true, decide_false, ↓reduceIte, Bool.false_eq_true]
      omega
    · have sizes := rounded (show less.natAbs ≤ more.natAbs by omega)
      simp only [negative, crosses, decide_false, ↓reduceIte, Bool.false_eq_true]
      omega

/-- An integer of at most fifty-three digits is not rounded. -/
theorem roundInt_eq {number : Int} (small : number.natAbs ≤ 2 ^ 53) :
    roundInt number = number * unitsInOne := by
  rw [roundInt, roundUnits_eq small, signed, Nat.cast_mul]
  by_cases negative : number < 0
  · rw [decide_eq_true negative, if_pos rfl, ← Int.neg_mul,
      show -(number.natAbs : Int) = number by omega]
  · rw [decide_eq_false negative, if_neg (by decide), show (number.natAbs : Int) = number by omega]

end Stencil.Binary64
