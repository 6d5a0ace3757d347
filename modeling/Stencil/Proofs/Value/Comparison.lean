import Mathlib.Order.Compare
import Mathlib.Order.WithBot
import Stencil.Evaluation.Eval
import Stencil.Proofs.Number.Rounding

/-!
# The order of numbers

Two integers are compared exactly, and a number that meets a float is compared as a float. The main
statement says how far the two fit together: all numbers can be compared in both directions, equal
ones are those that are compared as equal, and equality and order carry over from one comparison to
the next, except across a float that two different integers are both rounded to. Such integers have
more than fifty-three binary digits.
-/

namespace Stencil

/-! ## Floats -/

/-- The integers with an infinity at both ends. -/
def Line : Type := WithBot (WithTop Int)

namespace Line

instance : LinearOrder Line := @WithBot.linearOrder _ (@WithTop.linearOrder _ Int.instLinearOrder)

/-- The place of an integer. -/
def ofInt (number : Int) : Line := WithBot.some (WithTop.some number)

/-- The place of an infinity. -/
def infinity (negative : Bool) : Line :=
  if negative then @Bot.bot _ WithBot.bot else WithBot.some (@Top.top _ WithTop.top)

variable {first second : Int}

/-- Integers are ordered on the line as they are. -/
@[simp] theorem ofInt_lt_ofInt : ofInt first < ofInt second ↔ first < second :=
  WithBot.coe_lt_coe.trans WithTop.coe_lt_coe

/-- Integers are ordered on the line as they are. -/
@[simp] theorem ofInt_le_ofInt : ofInt first ≤ ofInt second ↔ first ≤ second :=
  WithBot.coe_le_coe.trans WithTop.coe_le_coe

/-- No two integers have one place. -/
theorem ofInt_injective : Function.Injective ofInt :=
  WithBot.coe_injective.comp WithTop.coe_injective

/-- All integers are above the negative infinity. -/
@[simp] theorem infinity_lt_ofInt : infinity true < ofInt first := WithBot.bot_lt_coe _

/-- All integers are below the positive infinity. -/
@[simp] theorem ofInt_lt_infinity : ofInt first < infinity false :=
  WithBot.coe_lt_coe.mpr (WithTop.coe_lt_top _)

end Line

namespace Binary64

variable {left right : Binary64} {first second : Line}

/-- Where a float stands, in units; what is not a number stands nowhere. -/
def place? (number : Binary64) : Option Line :=
  match number.read with
  | .nan => none
  | .infinite negative => some (.infinity negative)
  | .finite negative magnitude => some (.ofInt (signed negative magnitude))

/-- A float stands somewhere when it is a number. -/
theorem exists_place_of_isNaN (number : left.isNaN = false) :
    ∃ place, left.place? = some place := by
  rw [isNaN, decide_eq_false_iff_not] at number
  unfold place?
  split
  · contradiction
  · exact ⟨_, rfl⟩
  · exact ⟨_, rfl⟩

/-- Integers are compared as places on the line. -/
theorem cmp_ofInt (first second : Int) :
    cmp (Line.ofInt first) (Line.ofInt second) = @cmp Int _ Int.decLt first second := by
  unfold cmp cmpUsing
  simp only [Line.ofInt_lt_ofInt]

/-- Floats are compared by where they stand. -/
theorem compare?_eq (leftPlace : left.place? = some first)
    (rightPlace : right.place? = some second) :
    left.compare? right = some (cmp first second) := by
  unfold place? at leftPlace rightPlace
  unfold compare?
  cases leftRead : left.read with
  | nan => rw [leftRead] at leftPlace; cases leftPlace
  | infinite negative =>
    rw [leftRead] at leftPlace
    cases leftPlace
    cases rightRead : right.read with
    | nan => rw [rightRead] at rightPlace; cases rightPlace
    | infinite other =>
      rw [rightRead] at rightPlace
      cases rightPlace
      cases negative <;> cases other <;> decide
    | finite other magnitude =>
      rw [rightRead] at rightPlace
      cases rightPlace
      cases negative with
      | false => exact congrArg some ((cmp_eq_gt_iff _ _).mpr Line.ofInt_lt_infinity).symm
      | true => exact congrArg some ((cmp_eq_lt_iff _ _).mpr Line.infinity_lt_ofInt).symm
  | finite negative magnitude =>
    rw [leftRead] at leftPlace
    cases leftPlace
    cases rightRead : right.read with
    | nan => rw [rightRead] at rightPlace; cases rightPlace
    | infinite other =>
      rw [rightRead] at rightPlace
      cases rightPlace
      cases other with
      | false => exact congrArg some ((cmp_eq_lt_iff _ _).mpr Line.ofInt_lt_infinity).symm
      | true => exact congrArg some ((cmp_eq_gt_iff _ _).mpr Line.infinity_lt_ofInt).symm
    | finite other size =>
      rw [rightRead] at rightPlace
      cases rightPlace
      exact congrArg some ((cmp_eq_compare _ _).symm.trans (cmp_ofInt _ _).symm)

/-- An integer stands where it is rounded to. -/
theorem place?_ofInt (number : Int64) :
    (ofInt number.toInt).place? = some (.ofInt (roundInt number.toInt)) := by
  have lower := number.le_toInt
  have upper := number.toInt_lt
  rw [place?, read_ofInt (by omega)]
  rfl

end Binary64

/-! ## Numbers -/

namespace Value

/-- Whether a value is an integer or a float that is a number. -/
def isNumber : Value → Bool
  | integer _ => true
  | float number => !number.isNaN
  | _ => false

/-- Where a number stands as a float, and which integer it is, if it is one. -/
inductive Stands : Value → Option Int → Line → Prop
  /-- An integer stands where it is rounded to. -/
  | integer (number : Int64) :
    Stands (integer number) (some number.toInt) (.ofInt (Binary64.roundInt number.toInt))
  /-- A float stands where it is. -/
  | float {number : Binary64} {place : Line} (stands : number.place? = some place) :
    Stands (float number) none place

/-- Every number stands somewhere. -/
theorem exists_stands {value : Value} (isNumber : value.isNumber = true) :
    ∃ exact place, Stands value exact place := by
  cases value with
  | integer number => exact ⟨_, _, .integer number⟩
  | float found =>
    obtain ⟨place, stands⟩ :=
      Binary64.exists_place_of_isNaN (by simpa [Value.isNumber] using isNumber)
    exact ⟨_, _, .float stands⟩
  | null | boolean | string | bytes | array | map => cases isNumber

/-- The order of two numbers: that of integers when both are, and else that of their places. -/
def order (exact other : Option Int) (place spot : Line) : Ordering :=
  match exact, other with
  | some first, some second => @cmp Int _ Int.decLt first second
  | _, _ => cmp place spot

variable {left right : Value} {exact other : Option Int} {place spot : Line}

/-- In the other direction the order is the opposite one. -/
theorem order_swap : (order exact other place spot).swap = order other exact spot place := by
  cases exact <;> cases other <;> exact cmp_swap _ _

/-- Numbers are compared by this order. -/
theorem Stands.compare?_eq (leftStands : Stands left exact place)
    (rightStands : Stands right other spot) :
    left.compare? right = some (order exact other place spot) := by
  cases leftStands with
  | integer first =>
    cases rightStands with
    | integer second => exact congrArg some (cmp_eq_compare first.toInt second.toInt).symm
    | float stands => exact Binary64.compare?_eq (Binary64.place?_ofInt first) stands
  | float stands =>
    cases rightStands with
    | integer second => exact Binary64.compare?_eq stands (Binary64.place?_ofInt second)
    | float alsoStands => exact Binary64.compare?_eq stands alsoStands

/-- Numbers are equal when they are compared as equal. -/
theorem Stands.equals_iff (leftStands : Stands left exact place)
    (rightStands : Stands right other spot) :
    left.equals right = true ↔ left.compare? right = some .eq := by
  cases leftStands with
  | integer first =>
    cases rightStands with
    | integer second =>
      rw [(Stands.integer first).compare?_eq (.integer second)]
      change (first == second) = true ↔ _
      rw [beq_iff_eq, Option.some_inj, ← Int64.toInt_inj]
      exact (cmp_eq_eq_iff _ _).symm
    | float stands => exact decide_eq_true_iff
  | float stands =>
    cases rightStands with
    | integer second => exact decide_eq_true_iff
    | float alsoStands => exact decide_eq_true_iff

/-- What is not compared as greater is at most the other one. -/
theorem le_of_cmp_ne_gt {α : Type} [LinearOrder α] {first second : α}
    (notAbove : cmp first second ≠ .gt) : first ≤ second :=
  not_lt.mp fun above => notAbove ((cmp_eq_gt_iff _ _).mpr above)

/-- A number that is not compared as greater does not stand behind the other one. -/
theorem Stands.place_le (leftStands : Stands left exact place)
    (rightStands : Stands right other spot)
    (atMost : order exact other place spot ≠ .gt) : place ≤ spot := by
  cases leftStands with
  | integer first =>
    cases rightStands with
    | integer second =>
      exact Line.ofInt_le_ofInt.mpr (Binary64.roundInt_mono (le_of_cmp_ne_gt atMost))
    | float stands => exact le_of_cmp_ne_gt atMost
  | float stands => exact le_of_cmp_ne_gt atMost

/-- The places of equal numbers are one. -/
theorem Stands.place_eq (leftStands : Stands left exact place)
    (rightStands : Stands right other spot)
    (equal : order exact other place spot = .eq) : place = spot := by
  cases leftStands with
  | integer first =>
    cases rightStands with
    | integer second =>
      have same : first.toInt = second.toInt := (cmp_eq_eq_iff _ _).mp equal
      rw [same]
    | float stands => exact (cmp_eq_eq_iff _ _).mp equal
  | float stands => exact (cmp_eq_eq_iff _ _).mp equal

/-- Numbers are compared by their places, unless both are integers. -/
theorem order_cases (exact other : Option Int) (place spot : Line) :
    order exact other place spot = cmp place spot ∨
      ∃ first second, exact = some first ∧ other = some second := by
  cases exact with
  | none => exact Or.inl rfl
  | some first =>
    cases other with
    | none => exact Or.inl rfl
    | some second => exact Or.inr ⟨first, second, rfl, rfl⟩

end Value

/-- Whether an operator gives true for two values. -/
def BinaryOperator.Holds (operator : BinaryOperator) (left right : Value) : Prop :=
  operator.apply left right = .boolean true

namespace Value

variable {left middle right : Value}

/-- A float that stands between two different integers and is equal to both. -/
def Conflates (left middle right : Value) : Prop :=
  ∃ first number second, left = integer first ∧ middle = float number ∧ right = integer second ∧
    first ≠ second ∧ left.equals middle = true ∧ middle.equals right = true

/-- Equality holds for what is equal. -/
theorem holds_equal_iff : BinaryOperator.equal.Holds left right ↔ left.equals right = true := by
  simp [BinaryOperator.Holds, BinaryOperator.apply]

/-- At most holds for what is not compared as greater. -/
theorem holds_lessEqual_iff {order : Ordering} (compared : left.compare? right = some order) :
    BinaryOperator.lessEqual.Holds left right ↔ order ≠ .gt := by
  rw [BinaryOperator.Holds, BinaryOperator.apply, compared]
  cases order <;> simp

variable {outer inner last : Option Int} {first second third : Line}

/-- Equality carries over from one number to the next, unless a float conflates integers. -/
theorem Stands.equal_carries_iff (leftStands : Stands left outer first)
    (middleStands : Stands middle inner second) (rightStands : Stands right last third) :
    (left.equals middle = true → middle.equals right = true → left.equals right = true) ↔
      ¬Conflates left middle right := by
  constructor
  · rintro carries ⟨number, _, other, rfl, rfl, rfl, different, below, above⟩
    exact different (eq_of_beq (carries below above))
  · intro apart below above
    have belowPlaces := (leftStands.equals_iff middleStands).mp below
    have abovePlaces := (middleStands.equals_iff rightStands).mp above
    rw [leftStands.compare?_eq middleStands, Option.some_inj] at belowPlaces
    rw [middleStands.compare?_eq rightStands, Option.some_inj] at abovePlaces
    rw [leftStands.equals_iff rightStands, leftStands.compare?_eq rightStands, Option.some_inj]
    rcases order_cases outer last first third with byPlace | ⟨_, _, rfl, rfl⟩
    · rw [byPlace, cmp_eq_eq_iff]
      exact (leftStands.place_eq middleStands belowPlaces).trans
        (middleStands.place_eq rightStands abovePlaces)
    · cases leftStands with
      | integer number =>
        cases rightStands with
        | integer other =>
          cases middleStands with
          | integer between =>
            have front : number.toInt = between.toInt := (cmp_eq_eq_iff _ _).mp belowPlaces
            have back : between.toInt = other.toInt := (cmp_eq_eq_iff _ _).mp abovePlaces
            exact (cmp_eq_eq_iff _ _).mpr (front.trans back)
          | float stands =>
            by_cases same : number = other
            · exact (cmp_eq_eq_iff _ _).mpr (congrArg Int64.toInt same)
            · exact absurd ⟨number, _, other, rfl, rfl, rfl, same, below, above⟩ apart

/-- The order carries over from one number to the next, unless a float conflates integers that are
the other way round. -/
theorem Stands.lessEqual_carries_iff (leftStands : Stands left outer first)
    (middleStands : Stands middle inner second) (rightStands : Stands right last third) :
    (order outer inner first second ≠ .gt → order inner last second third ≠ .gt →
        order outer last first third ≠ .gt) ↔
      ¬(Conflates left middle right ∧ left.compare? right = some .gt) := by
  rw [leftStands.compare?_eq rightStands, Option.some_inj]
  constructor
  · rintro carries ⟨⟨number, _, other, rfl, rfl, rfl, -, below, above⟩, greater⟩
    have belowPlaces := (leftStands.equals_iff middleStands).mp below
    have abovePlaces := (middleStands.equals_iff rightStands).mp above
    rw [leftStands.compare?_eq middleStands, Option.some_inj] at belowPlaces
    rw [middleStands.compare?_eq rightStands, Option.some_inj] at abovePlaces
    exact carries (by simp [belowPlaces]) (by simp [abovePlaces]) greater
  · intro apart below above greater
    have front := leftStands.place_le middleStands below
    have back := middleStands.place_le rightStands above
    rcases order_cases outer last first third with byPlace | ⟨_, _, rfl, rfl⟩
    · rw [byPlace, cmp_eq_gt_iff] at greater
      exact absurd (front.trans back) (not_le_of_gt greater)
    · cases leftStands with
      | integer number =>
        cases rightStands with
        | integer other =>
          have descends : other.toInt < number.toInt := (cmp_eq_gt_iff _ _).mp greater
          cases middleStands with
          | integer between =>
            have front : number.toInt ≤ between.toInt := le_of_cmp_ne_gt below
            have back : between.toInt ≤ other.toInt := le_of_cmp_ne_gt above
            omega
          | float stands =>
            -- Rounding keeps the order, so both integers are rounded to the float between them.
            have rounded := Line.ofInt_le_ofInt.mpr (Binary64.roundInt_mono descends.le)
            have numberStands := Stands.integer number
            have otherStands := Stands.integer other
            refine apart ⟨⟨number, _, other, rfl, rfl, rfl, ?_, ?_, ?_⟩, greater⟩
            · rintro rfl
              exact lt_irrefl _ descends
            · rw [numberStands.equals_iff (.float stands), numberStands.compare?_eq (.float stands),
                Option.some_inj]
              exact (cmp_eq_eq_iff _ _).mpr (le_antisymm front (back.trans rounded))
            · have floatStands := Stands.float stands
              rw [floatStands.equals_iff otherStands, floatStands.compare?_eq otherStands,
                Option.some_inj]
              exact (cmp_eq_eq_iff _ _).mpr (le_antisymm back (rounded.trans front))

/-- Integers that are conflated do not both have at most fifty-three digits. -/
theorem exists_long_of_conflates (middleStands : Stands middle inner second)
    (conflates : Conflates left middle right) :
    ∃ number, (left = integer number ∨ right = integer number) ∧ 2 ^ 53 < number.toInt.natAbs := by
  obtain ⟨number, between, other, rfl, rfl, rfl, different, below, above⟩ := conflates
  by_contra none
  simp only [not_exists, not_and, not_lt] at none
  rw [(Stands.integer number).equals_iff middleStands,
    (Stands.integer number).compare?_eq middleStands, Option.some_inj] at below
  rw [middleStands.equals_iff (.integer other), middleStands.compare?_eq (.integer other),
    Option.some_inj] at above
  have places := ((Stands.integer number).place_eq middleStands below).trans
    (middleStands.place_eq (.integer other) above)
  have rounded := Line.ofInt_injective places
  rw [Binary64.roundInt_eq (none number (Or.inl rfl)),
    Binary64.roundInt_eq (none other (Or.inr rfl))] at rounded
  have positive : (Binary64.unitsInOne : Int) ≠ 0 := by
    obtain ⟨power, -, units⟩ := Binary64.exists_unitsInOne_eq
    rw [units, Nat.pow_eq]
    exact_mod_cast (Nat.two_pow_pos power).ne'
  exact different (Int64.toInt_inj.mp (Int.eq_of_mul_eq_mul_right positive rounded))

/-- How numbers are ordered. Any two are compared, in both directions alike, and they are equal when
they are compared as equal. Equality carries over from one comparison to the next unless a float in
the middle is equal to two different integers, and so does the order unless the first of these
integers is the greater one. One of two such integers is beyond the fifty-three digits of a
float. -/
theorem compare_numbers (leftNumber : left.isNumber = true) (middleNumber : middle.isNumber = true)
    (rightNumber : right.isNumber = true) :
    (∃ order, left.compare? right = some order ∧ right.compare? left = some order.swap) ∧
      (left.equals right = true ↔ left.compare? right = some .eq) ∧
      ((BinaryOperator.equal.Holds left middle → BinaryOperator.equal.Holds middle right →
          BinaryOperator.equal.Holds left right) ↔ ¬Conflates left middle right) ∧
      ((BinaryOperator.lessEqual.Holds left middle → BinaryOperator.lessEqual.Holds middle right →
          BinaryOperator.lessEqual.Holds left right) ↔
        ¬(Conflates left middle right ∧ left.compare? right = some .gt)) ∧
      (Conflates left middle right → ∃ number, (left = integer number ∨ right = integer number) ∧
        2 ^ 53 < number.toInt.natAbs) := by
  obtain ⟨outer, first, leftStands⟩ := exists_stands leftNumber
  obtain ⟨inner, second, middleStands⟩ := exists_stands middleNumber
  obtain ⟨last, third, rightStands⟩ := exists_stands rightNumber
  refine ⟨⟨_, leftStands.compare?_eq rightStands, ?_⟩, leftStands.equals_iff rightStands, ?_, ?_,
    exists_long_of_conflates middleStands⟩
  · rw [rightStands.compare?_eq leftStands, order_swap]
  · simp only [holds_equal_iff]
    exact leftStands.equal_carries_iff middleStands rightStands
  · rw [holds_lessEqual_iff (leftStands.compare?_eq middleStands),
      holds_lessEqual_iff (middleStands.compare?_eq rightStands),
      holds_lessEqual_iff (leftStands.compare?_eq rightStands)]
    exact leftStands.lessEqual_carries_iff middleStands rightStands

/-- The first integer that a float does not hold, the float it is rounded to, and the integer that
this float is: each is equal to the next one, and yet the first integer is the greater one. -/
theorem compare_numbers_sample :
    let left : Value := .integer 9007199254740993
    let middle : Value := .float ⟨0x4340000000000000⟩
    let right : Value := .integer 9007199254740992
    (left.isNumber = true ∧ middle.isNumber = true ∧ right.isNumber = true) ∧
      left.compare? right = some .gt ∧
        ¬(BinaryOperator.equal.Holds left middle → BinaryOperator.equal.Holds middle right →
          BinaryOperator.equal.Holds left right) ∧
        ¬(BinaryOperator.lessEqual.Holds left middle →
          BinaryOperator.lessEqual.Holds middle right →
            BinaryOperator.lessEqual.Holds left right) := by
  intro left middle right
  have middleNumber : middle.isNumber = true := by decide +kernel
  have greater : left.compare? right = some .gt := by decide
  have conflates : Conflates left middle right :=
    ⟨_, _, _, rfl, rfl, rfl, by decide, by decide +kernel, by decide +kernel⟩
  obtain ⟨-, -, equality, order, -⟩ := @compare_numbers left middle right rfl middleNumber rfl
  exact ⟨⟨rfl, middleNumber, rfl⟩, greater, fun carries => equality.mp carries conflates,
    fun carries => order.mp carries ⟨conflates, greater⟩⟩

end Value

end Stencil
