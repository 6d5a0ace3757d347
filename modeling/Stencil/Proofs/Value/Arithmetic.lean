import Stencil.Evaluation.Eval

/-!
# Exact arithmetic

Integers are computed exactly or not at all: an operation on two of them gives the integer that it
has in mathematics when that fits a word, and null otherwise. The main statement is that this holds
for every operator and every two integers, but for a single remainder: the least integer by minus
one has the remainder zero, and null is given because the quotient does not fit.
-/

namespace Stencil

namespace Checked

variable {number left right : Int}

/-- Whether an integer fits a signed word of sixty-four bits. -/
def Fits (number : Int) : Prop :=
  -9223372036854775808 ≤ number ∧ number ≤ 9223372036854775807

instance (number : Int) : Decidable (Fits number) :=
  inferInstanceAs (Decidable (_ ∧ _))

/-- The integer of a word fits one. -/
theorem fits_toInt (word : Int64) : Fits word.toInt :=
  ⟨word.le_toInt, Int.le_of_lt_add_one word.toInt_lt⟩

/-- An integer that fits has the word that holds it. -/
theorem ofInt?_eq_some_iff {word : Int64} : ofInt? number = some word ↔ number = word.toInt := by
  constructor
  · exact fun found => (toInt_of_ofInt? found).1.symm
  · rintro rfl
    exact ofInt?_toInt word

/-- An integer has no word when it does not fit. -/
theorem ofInt?_eq_none_iff : ofInt? number = none ↔ ¬Fits number := by
  unfold ofInt? Fits
  constructor
  · intro missing
    split at missing
    · cases missing
    · omega
  · intro beyond
    exact if_neg (by omega)

/-- The quotient of a word fits one, but for that of the least word by minus one. -/
theorem fits_tdiv_iff (fits : Fits left) :
    Fits (left.tdiv right) ↔ ¬(left = -9223372036854775808 ∧ right = -1) := by
  unfold Fits at fits ⊢
  constructor
  · rintro bounds ⟨rfl, rfl⟩
    revert bounds
    decide
  · intro other
    by_cases one : right.natAbs ≤ 1
    · obtain rfl | rfl | rfl : right = 0 ∨ right = 1 ∨ right = -1 := by omega
      · rw [Int.tdiv_zero]
        omega
      · rw [Int.tdiv_one]
        exact fits
      · rw [Int.tdiv_neg, Int.tdiv_one]
        omega
    · -- A larger divisor at least halves the quotient.
      have halved : (left.tdiv right).natAbs ≤ left.natAbs / 2 := by
        rw [Int.natAbs_tdiv]
        exact Nat.div_le_div_left (by omega) (by decide)
      omega

end Checked

open Checked (Fits)

namespace BinaryOperator

/-- Whether an operator computes a number from two. -/
def isArithmetic : BinaryOperator → Bool
  | add | subtract | multiply | divide | remainder => true
  | or | and | equal | notEqual | less | lessEqual | greater | greaterEqual => false

/-- What an operator makes of two integers in mathematics. The quotient goes toward zero, the
remainder is what the divisor times the quotient leaves, and nothing is divided by zero. -/
def exactResult? (operator : BinaryOperator) (left right : Int) : Option Int :=
  match operator with
  | add => some (left + right)
  | subtract => some (left - right)
  | multiply => some (left * right)
  | divide => if right = 0 then none else some (left.tdiv right)
  | remainder => if right = 0 then none else some (left - right * left.tdiv right)
  | or | and | equal | notEqual | less | lessEqual | greater | greaterEqual => none

end BinaryOperator

namespace Value

/-- A value that stands for a result in mathematics: the integer when there is one that fits a word,
and null when there is none or it does not fit. -/
structure IsExact (value : Value) (result : Option Int) : Prop where
  /-- The value is an integer when that is the result. -/
  integer_iff : ∀ number, value = .integer number ↔ result = some number.toInt
  /-- The value is null when no result fits. -/
  null_iff : value = .null ↔ ∀ exact, result = some exact → ¬Fits exact

/-- The value of a word, or null when there is none. -/
def ofWord? : Option Int64 → Value
  | some number => integer number
  | none => null

/-- The word of a result stands for it. -/
theorem isExact_ofWord? (result : Option Int) :
    IsExact (ofWord? (result.bind Checked.ofInt?)) result := by
  cases result with
  | none => exact ⟨fun number => by simp [ofWord?], by simp [ofWord?]⟩
  | some exact =>
    rw [Option.bind_some]
    cases found : Checked.ofInt? exact with
    | none =>
      have beyond := Checked.ofInt?_eq_none_iff.mp found
      refine ⟨fun number => ?_, by simpa [ofWord?] using beyond⟩
      have other : exact ≠ number.toInt := by
        rintro rfl
        exact beyond (Checked.fits_toInt number)
      simp [ofWord?, other]
    | some word =>
      obtain rfl := Checked.ofInt?_eq_some_iff.mp found
      refine ⟨fun number => by simp [ofWord?, Int64.toInt_inj], ?_⟩
      have fits := Checked.fits_toInt word
      simpa [ofWord?] using fits

variable {first second : Int64}

/-- An operation on two integers is a checked one on their words. -/
theorem compute_integer (exact : Int64 → Int64 → Option Int64)
    (rounded : Binary64 → Binary64 → Binary64) :
    compute exact rounded (integer first) (integer second) = ofWord? (exact first second) := by
  change (match exact first second with
    | some result => integer result
    | none => null) = _
  cases exact first second <;> rfl

end Value

namespace Checked

variable {first second : Int64}

/-- The checked quotient is the word of the quotient. -/
theorem divide?_eq : divide? first second =
    (BinaryOperator.divide.exactResult? first.toInt second.toInt).bind ofInt? := by
  unfold divide? BinaryOperator.exactResult?
  split <;> rfl

/-- The checked remainder is the word of the remainder when the quotient fits. -/
theorem remainder?_eq (other : ¬(first.toInt = -9223372036854775808 ∧ second.toInt = -1)) :
    remainder? first second =
      (BinaryOperator.remainder.exactResult? first.toInt second.toInt).bind ofInt? := by
  unfold remainder? BinaryOperator.exactResult?
  split
  · rfl
  · rename_i nonzero
    have fits := (fits_tdiv_iff (fits_toInt first)).mpr other
    obtain ⟨quotient, found⟩ : ∃ quotient, ofInt? (first.toInt.tdiv second.toInt) = some quotient :=
      Option.ne_none_iff_exists'.mp fun missing => ofInt?_eq_none_iff.mp missing fits
    rw [found, Int.tmod_def]
    rfl

end Checked

namespace BinaryOperator

variable {first second : Int64}

/-- The operation whose checked primitive misses a result that fits: the remainder of the least
integer by minus one. -/
def MissesResult (operator : BinaryOperator) (first second : Int64) : Prop :=
  operator = remainder ∧ first.toInt = -9223372036854775808 ∧ second.toInt = -1

/-- An operation on two integers gives the word of its result, unless it misses it. -/
theorem apply_integer {operator : BinaryOperator} (arithmetic : operator.isArithmetic = true)
    (other : ¬operator.MissesResult first second) :
    operator.apply (.integer first) (.integer second) =
      .ofWord? ((operator.exactResult? first.toInt second.toInt).bind Checked.ofInt?) := by
  cases operator with
  | add => exact Value.compute_integer Checked.add? Binary64.add
  | subtract => exact Value.compute_integer Checked.subtract? Binary64.subtract
  | multiply => exact Value.compute_integer Checked.multiply? Binary64.multiply
  | divide =>
    rw [← Checked.divide?_eq]
    exact Value.compute_integer Checked.divide? Binary64.divide
  | remainder =>
    rw [← Checked.remainder?_eq fun least => other ⟨rfl, least⟩]
    exact Value.compute_integer Checked.remainder? Binary64.remainder
  | or | and | equal | notEqual | less | lessEqual | greater | greaterEqual => cases arithmetic

/-- A result is missed where it is zero. -/
theorem MissesResult.apply_eq {operator : BinaryOperator}
    (misses : operator.MissesResult first second) :
    operator.apply (.integer first) (.integer second) = .null ∧
      operator.exactResult? first.toInt second.toInt = some 0 := by
  obtain ⟨rfl, least, minusOne⟩ := misses
  constructor
  · have missing : Checked.remainder? first second = none := by
      rw [Checked.remainder?, least, minusOne]
      decide
    exact (Value.compute_integer Checked.remainder? Binary64.remainder).trans
      (congrArg Value.ofWord? missing)
  · rw [least, minusOne]
    decide

end BinaryOperator

namespace Expr

variable {left right : Expr} {first second : Int64}

/-- Every operation on two integers gives the exact result or null, and null exactly when the
divisor is zero or the result does not fit, but for the remainder of the least integer by minus one:
that is zero, and null is given. The opposite of an integer is exact without exception. -/
theorem eval_arithmetic (store : Store) (leftValue : left.eval store = .integer first)
    (rightValue : right.eval store = .integer second) :
    (∀ operator : BinaryOperator, operator.isArithmetic = true →
      (((binary operator left right).eval store).IsExact
          (operator.exactResult? first.toInt second.toInt) ↔ ¬operator.MissesResult first second) ∧
        (operator.MissesResult first second → (binary operator left right).eval store = .null ∧
          operator.exactResult? first.toInt second.toInt = some 0)) ∧
      ((unary .negate left).eval store).IsExact (some (-first.toInt)) := by
  refine ⟨fun operator arithmetic => ?_, ?_⟩
  · rw [eval, leftValue, rightValue]
    refine ⟨⟨fun exact misses => ?_, fun other => ?_⟩, fun misses => misses.apply_eq⟩
    · obtain ⟨isNull, isZero⟩ := misses.apply_eq
      have beyond := exact.null_iff.mp isNull 0 isZero
      exact beyond ⟨by decide, by decide⟩
    · rw [BinaryOperator.apply_integer arithmetic other]
      exact Value.isExact_ofWord? _
  · have negated : (Value.integer first).negate = .ofWord? (Checked.negate? first) := by
      change (match Checked.negate? first with
        | some result => Value.integer result
        | none => .null) = _
      cases Checked.negate? first <;> rfl
    rw [eval, leftValue, UnaryOperator.apply, negated]
    exact Value.isExact_ofWord? (some (-first.toInt))

/-- The least integer and minus one: their remainder is missed, and their quotient and the opposite
of the least integer do not fit. -/
theorem eval_arithmetic_sample :
    let store : Store := ⟨[], []⟩
    let least : Expr := .binary .subtract (.literal (.integer (-9223372036854775807)))
      (.literal (.integer 1))
    let minusOne : Expr := .unary .negate (.literal (.integer 1))
    (least.eval store = .integer (-9223372036854775808) ∧
        minusOne.eval store = .integer (-1)) ∧
      (binary .remainder least minusOne).eval store = .null ∧
        (binary .divide least minusOne).eval store = .null ∧
          (unary .negate least).eval store = .null := by
  intro store least minusOne
  have leastValue : least.eval store = .integer (-9223372036854775808) := by rfl
  have minusOneValue : minusOne.eval store = .integer (-1) := by rfl
  obtain ⟨operations, opposite⟩ := eval_arithmetic store leastValue minusOneValue
  have remainder := (operations .remainder rfl).2 ⟨rfl, by decide, by decide⟩
  have quotient := (operations .divide rfl).1.mpr fun misses => by cases misses.1
  refine ⟨⟨leastValue, minusOneValue⟩, remainder.1, quotient.null_iff.mpr ?_,
    opposite.null_iff.mpr ?_⟩
  · rintro exact ⟨⟩
    decide
  · rintro exact ⟨⟩
    decide

end Expr

end Stencil
