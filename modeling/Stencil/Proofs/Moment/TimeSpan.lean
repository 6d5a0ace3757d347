import Mathlib.Tactic.Ring
import Stencil.Moment.TimeSpan

/-!
# Reading the text of a span of time

The text of a span reads back as the span cut off to ticks of a hundred nanoseconds, towards zero.
So spans that are cut off differently have different texts. The converse holds but for zero: the
sign is that of the whole span, and one that is cut off to zero keeps it.
-/

namespace Stencil.TimeSpan

/-! ## The reader -/

/-- How many ticks of a hundred nanoseconds make a second. -/
def ticksInSecond : Nat := 10000000

/-- A number below a bound that is written with as many digits as said, and the text after it. -/
def readNumber (width bound : Nat) (text : List Char) : Option (Nat × List Char) :=
  let digits := text.take width
  let number := Nat.ofDigitChars 10 digits 0
  if digits.length = width ∧ digits.all Char.isDigit ∧ number < bound then
    some (number, text.drop width)
  else none

/-- The text after a mark. -/
def readMark (mark : Char) : List Char → Option (List Char)
  | [] => none
  | first :: rest => if first = mark then some rest else none

/-- The ticks of a fraction `.fffffff` up to the end of the text, or none when the text has
ended. -/
def readFraction : List Char → Option Nat
  | [] => some 0
  | text => do
    let digits ← readMark '.' text
    let (fraction, rest) ← readNumber 7 ticksInSecond digits
    if rest = [] then some fraction else none

/-- The ticks of a time of the day `hh:mm:ss[.fffffff]`. -/
def readClock (text : List Char) : Option Nat := do
  let (hours, rest) ← readNumber 2 24 text
  let rest ← readMark ':' rest
  let (minutes, rest) ← readNumber 2 60 rest
  let rest ← readMark ':' rest
  let (seconds, rest) ← readNumber 2 60 rest
  let fraction ← readFraction rest
  some ((hours * 3600 + minutes * 60 + seconds) * ticksInSecond + fraction)

/-- The ticks of days and a time of the day, `[d.]hh:mm:ss[.fffffff]`. -/
def readLength (text : List Char) : Option Nat :=
  match text.dropWhile Char.isDigit with
  | '.' :: clock =>
    let days := text.takeWhile Char.isDigit
    if days = [] then none
    else (readClock clock).map fun ticks =>
      Nat.ofDigitChars 10 days 0 * 86400 * ticksInSecond + ticks
  | _ => readClock text

/-- The signed ticks of `[-][d.]hh:mm:ss[.fffffff]`. -/
def readSigned : List Char → Option Int
  | '-' :: rest => (readLength rest).map fun ticks : Nat => -(ticks : Int)
  | text => (readLength text).map Int.ofNat

/-! ## Padded numbers -/

/-- A padded number is zeros and the digits of the number. -/
theorem toList_padded (width number : Nat) : (padded width number).toList =
    List.replicate (width - (Nat.toDigits 10 number).length) '0' ++ Nat.toDigits 10 number :=
  String.toList_ofList

/-- A padded number has digits only. -/
theorem isDigit_of_mem_padded {width number : Nat} :
    ∀ character ∈ (padded width number).toList, character.isDigit = true := by
  intro character member
  rw [toList_padded, List.mem_append] at member
  rcases member with zero | digit
  · rw [List.eq_of_mem_replicate zero]
    rfl
  · exact Nat.isDigit_of_mem_toDigits (by decide) (by decide) digit

/-- A padded number that fits is as wide as said. -/
theorem length_padded {width number : Nat} (some : 0 < width) (fits : number < 10 ^ width) :
    (padded width number).toList.length = width := by
  have short := (Nat.length_toDigits_le_iff (by decide) some).mpr fits
  rw [toList_padded, List.length_append, List.length_replicate]
  omega

/-- Zeros in front of a number do not change it. -/
theorem ofDigitChars_padded (width number : Nat) :
    Nat.ofDigitChars 10 (padded width number).toList 0 = number := by
  rw [toList_padded, Nat.ofDigitChars_append, Nat.ofDigitChars_replicate_zero, Nat.mul_zero,
    Nat.ofDigitChars_ten_toDigits]

/-- A padded number is read in front of any text. -/
theorem readNumber_padded {width bound number : Nat} (some : 0 < width) (below : number < bound)
    (fits : bound ≤ 10 ^ width) (tail : List Char) :
    readNumber width bound ((padded width number).toList ++ tail) = .some (number, tail) := by
  have wide := length_padded some (Nat.lt_of_lt_of_le below fits)
  have front : ((padded width number).toList ++ tail).take width = (padded width number).toList :=
    List.take_left' wide
  have back : ((padded width number).toList ++ tail).drop width = tail := List.drop_left' wide
  rw [readNumber, front, back, ofDigitChars_padded]
  exact if_pos ⟨wide, List.all_eq_true.mpr isDigit_of_mem_padded, below⟩

/-- A mark is read in front of any text. -/
theorem readMark_cons (mark : Char) (tail : List Char) : readMark mark (mark :: tail) = some tail :=
  if_pos rfl

/-! ## The parts of a text -/

/-- The text of a time of the day, from its seconds and the ticks behind them. -/
def clockText (seconds fraction : Nat) : List Char :=
  (padded 2 (seconds / 3600)).toList ++ ':' :: ((padded 2 (seconds % 3600 / 60)).toList ++
    ':' :: ((padded 2 (seconds % 60)).toList ++
      if fraction = 0 then [] else '.' :: (padded 7 fraction).toList))

/-- The text of days and a time of the day, from whole ticks. -/
def lengthText (ticks : Nat) : List Char :=
  let seconds := ticks / ticksInSecond
  (if seconds / 86400 = 0 then [] else Nat.toDigits 10 (seconds / 86400) ++ ['.']) ++
    clockText (seconds % 86400) (ticks % ticksInSecond)

/-- The text of a span is its sign and the text of its ticks. -/
theorem toList_text (span : TimeSpan) :
    span.text.toList = (if span.negative then ['-'] else []) ++ lengthText span.ticks := by
  have seconds : span.nanoseconds / nanosecondsInSecond = span.ticks / ticksInSecond := by
    rw [ticks, Nat.div_div_eq_div_mul]
    rfl
  have hours : ∀ total : Nat, total % 86400 % 3600 = total % 3600 := by omega
  have minutes : ∀ total : Nat, total % 86400 % 60 = total % 60 := by omega
  rw [text, lengthText, clockText, seconds, hours, minutes]
  simp only [String.toList_append, List.append_assoc, apply_ite String.toList,
    Nat.toString_eq_ofList_toDigits, String.toList_ofList]
  rfl

/-- The text of whole ticks begins with a digit. -/
theorem exists_digit_lengthText (ticks : Nat) :
    ∃ digit rest, lengthText ticks = digit :: rest ∧ digit.isDigit = true := by
  have begins : ∀ {run : List Char} (tail : List Char), run ≠ [] →
      (∀ character ∈ run, character.isDigit = true) →
      ∃ digit rest, run ++ tail = digit :: rest ∧ digit.isDigit = true := by
    intro run tail some digits
    obtain ⟨digit, rest, rfl⟩ := List.exists_cons_of_ne_nil some
    exact ⟨digit, rest ++ tail, rfl, digits digit List.mem_cons_self⟩
  rw [lengthText]
  split
  · rw [List.nil_append, clockText]
    refine begins _ (List.ne_nil_of_length_pos ?_) isDigit_of_mem_padded
    rw [length_padded (by decide) (by omega)]
    decide
  · rw [List.append_assoc]
    exact begins _ Nat.toDigits_ne_nil fun character member =>
      Nat.isDigit_of_mem_toDigits (by decide) (by decide) member

/-! ## Reading back -/

/-- A fraction is read back, and no fraction as zero. -/
theorem readFraction_text {fraction : Nat} (below : fraction < ticksInSecond) :
    readFraction (if fraction = 0 then [] else '.' :: (padded 7 fraction).toList) =
      some fraction := by
  split
  case isTrue zero => rw [zero, readFraction]
  case isFalse =>
    have whole := readNumber_padded (by decide : 0 < 7) below (by decide) []
    rw [List.append_nil] at whole
    simp only [readFraction, readMark_cons, Option.bind_eq_bind, Option.bind_some, whole, if_true]

/-- A time of the day is read back. -/
theorem readClock_clockText {seconds fraction : Nat} (inDay : seconds < 86400)
    (below : fraction < ticksInSecond) :
    readClock (clockText seconds fraction) = some (seconds * ticksInSecond + fraction) := by
  have hours (tail : List Char) :
      readNumber 2 24 ((padded 2 (seconds / 3600)).toList ++ tail) =
        some (seconds / 3600, tail) :=
    readNumber_padded (by decide) (by omega) (by decide) tail
  have minutes (tail : List Char) :
      readNumber 2 60 ((padded 2 (seconds % 3600 / 60)).toList ++ tail) =
        some (seconds % 3600 / 60, tail) :=
    readNumber_padded (by decide) (by omega) (by decide) tail
  have others (tail : List Char) :
      readNumber 2 60 ((padded 2 (seconds % 60)).toList ++ tail) = some (seconds % 60, tail) :=
    readNumber_padded (by decide) (by omega) (by decide) tail
  have total : seconds / 3600 * 3600 + seconds % 3600 / 60 * 60 + seconds % 60 = seconds := by
    omega
  simp only [readClock, clockText, hours, minutes, others, readMark_cons, Option.bind_eq_bind,
    Option.bind_some, readFraction_text below, total]

/-- Ticks are read back. -/
theorem readLength_lengthText (ticks : Nat) : readLength (lengthText ticks) = some ticks := by
  have fraction : ticks % ticksInSecond < ticksInSecond := Nat.mod_lt _ (by decide)
  have whole := Nat.div_add_mod ticks ticksInSecond
  have clock := readClock_clockText (Nat.mod_lt (ticks / ticksInSecond) (by decide)) fraction
  rw [lengthText]
  split
  case isTrue short =>
    have seconds : ticks / ticksInSecond % 86400 = ticks / ticksInSecond := by omega
    have colon : ∃ rest, (clockText (ticks / ticksInSecond % 86400)
        (ticks % ticksInSecond)).dropWhile Char.isDigit = ':' :: rest := by
      rw [clockText, List.dropWhile_append_of_pos isDigit_of_mem_padded]
      exact ⟨_, rfl⟩
    obtain ⟨rest, after⟩ := colon
    rw [List.nil_append, readLength, after]
    refine clock.trans (congrArg some ?_)
    rw [seconds, Nat.mul_comm, whole]
  case isFalse long =>
    have digits : ∀ character ∈ Nat.toDigits 10 (ticks / ticksInSecond / 86400),
        character.isDigit = true := fun character member =>
      Nat.isDigit_of_mem_toDigits (by decide) (by decide) member
    have point : ('.' :: clockText (ticks / ticksInSecond % 86400)
        (ticks % ticksInSecond)).dropWhile Char.isDigit = '.' :: clockText
          (ticks / ticksInSecond % 86400) (ticks % ticksInSecond) := rfl
    have none : ('.' :: clockText (ticks / ticksInSecond % 86400)
        (ticks % ticksInSecond)).takeWhile Char.isDigit = [] := rfl
    rw [List.append_assoc, List.singleton_append, readLength,
      List.dropWhile_append_of_pos digits, point]
    simp only [List.takeWhile_append_of_pos digits, none, List.append_nil, clock,
      if_neg Nat.toDigits_ne_nil, Option.map_some, Nat.ofDigitChars_ten_toDigits, Option.some.injEq]
    have days := Nat.div_add_mod (ticks / ticksInSecond) 86400
    rw [← Nat.add_assoc, ← Nat.add_mul, Nat.mul_comm _ 86400, days, Nat.mul_comm, whole]

/-- The length of a span with its sign, in nanoseconds. -/
def signed (span : TimeSpan) : Int :=
  if span.negative then -(span.nanoseconds : Int) else span.nanoseconds

/-- What is left of a span that is cut off to ticks, towards zero. -/
theorem tdiv_signed (span : TimeSpan) :
    span.signed.tdiv 100 = if span.negative then -(span.ticks : Int) else span.ticks := by
  rw [signed]
  split
  · rw [Int.neg_tdiv]
    rfl
  · rfl

/-- A text that begins with a sign is that of a negative span. -/
theorem head?_text_eq_minus_iff (span : TimeSpan) :
    span.text.toList.head? = some '-' ↔ span.negative = true := by
  rw [toList_text]
  split
  case isTrue negative => exact iff_of_true rfl negative
  case isFalse positive =>
    obtain ⟨digit, rest, begins, isDigit⟩ := exists_digit_lengthText span.ticks
    rw [begins]
    refine iff_of_false (fun minus => ?_) positive
    rw [Option.some.inj minus] at isDigit
    exact absurd isDigit (by decide)

/-- The text of a span reads back as the span cut off to ticks. -/
theorem readSigned_text (span : TimeSpan) :
    readSigned span.text.toList = some (span.signed.tdiv 100) := by
  rw [toList_text, tdiv_signed]
  split
  case isTrue =>
    rw [List.singleton_append, readSigned, readLength_lengthText, Option.map_some]
  case isFalse =>
    obtain ⟨digit, rest, begins, isDigit⟩ := exists_digit_lengthText span.ticks
    have noSign : ∀ others, digit :: rest ≠ '-' :: others := by
      rintro others same
      rw [(List.cons.inj same).1] at isDigit
      exact absurd isDigit (by decide)
    have back := readLength_lengthText span.ticks
    rw [begins] at back ⊢
    rw [List.nil_append, readSigned, back, Option.map_some, Int.ofNat_eq_natCast]
    exact noSign

/-- Spans have one text when they are cut off to one number of ticks, with one sign if that number
is zero. -/
theorem text_eq_text_iff (first second : TimeSpan) :
    first.text = second.text ↔ first.signed.tdiv 100 = second.signed.tdiv 100 ∧
      (first.signed.tdiv 100 = 0 → first.negative = second.negative) := by
  constructor
  · intro same
    have back := readSigned_text first
    rw [same, readSigned_text] at back
    refine ⟨(Option.some.inj back).symm, fun _ => Bool.eq_iff_iff.mpr ?_⟩
    rw [← head?_text_eq_minus_iff, ← head?_text_eq_minus_iff, same]
  · rintro ⟨cut, signs⟩
    rw [tdiv_signed, tdiv_signed] at cut
    rw [tdiv_signed] at signs
    have both : first.negative = second.negative ∧ first.ticks = second.ticks := by
      grind
    rw [← String.toList_inj, toList_text, toList_text, both.1, both.2]

/-- A span that is cut off to zero is written as zero, with the sign of the span. -/
theorem text_of_tdiv_eq_zero {span : TimeSpan} (cut : span.signed.tdiv 100 = 0) :
    span.text = if span.negative then "-00:00:00" else "00:00:00" := by
  have same : span.text = (TimeSpan.mk span.negative 0).text := by
    rw [text_eq_text_iff, cut, tdiv_signed]
    cases span.negative <;> exact ⟨rfl, fun _ => rfl⟩
  rw [same]
  cases span.negative <;> decide +kernel

/-- The span between two moments has their signed distance, and a span of seconds and nanoseconds
has the sum of both with the sign that it is given. -/
theorem signed_eq : (∀ length : Int, (ofNanoseconds length).signed = length) ∧
    ∀ seconds nanoseconds : Nat,
      (ofSeconds false seconds nanoseconds).signed = seconds * 1000000000 + nanoseconds ∧
        (ofSeconds true seconds nanoseconds).signed = -(seconds * 1000000000 + nanoseconds) := by
  refine ⟨fun length => ?_, fun seconds nanoseconds => ?_⟩
  · rw [signed, ofNanoseconds]
    grind
  · simp [signed, ofSeconds, nanosecondsInSecond]

/-- The text of a span says its ticks, and of its sign what they leave open. It is read back as the
span cut off to ticks, towards zero, for the span between any two moments and for any number of
seconds and nanoseconds with either sign. Two spans that are cut off to one number of ticks have one
text, unless both are shorter than a tick and only one of them is negative: that one is written as
zero with a sign. -/
theorem text_says_ticks (first second : TimeSpan) :
    readSigned first.text.toList = some (first.signed.tdiv 100) ∧
      (first.text = second.text ↔ first.signed.tdiv 100 = second.signed.tdiv 100 ∧
        (first.signed.tdiv 100 = 0 → first.negative = second.negative)) ∧
      (first.signed.tdiv 100 = 0 →
        first.text = if first.negative then "-00:00:00" else "00:00:00") ∧
      (∀ length : Int, (ofNanoseconds length).signed = length) ∧
      ∀ seconds nanoseconds : Nat,
        (ofSeconds false seconds nanoseconds).signed = seconds * 1000000000 + nanoseconds ∧
          (ofSeconds true seconds nanoseconds).signed = -(seconds * 1000000000 + nanoseconds) :=
  ⟨readSigned_text first, text_eq_text_iff first second, text_of_tdiv_eq_zero, signed_eq⟩

/-- The longest span of a word of seconds, two spans within one tick, and two that are cut off to
zero from either side. -/
theorem text_says_ticks_sample :
    let longest := ofSeconds true 18446744073709551615 999999999
    let second := ofNanoseconds 1500000000
    let below := ofNanoseconds (-50)
    let above := ofNanoseconds 50
    longest.text = "-213503982334601.07:00:15.9999999" ∧
      readSigned longest.text.toList = some (-184467440737095516159999999) ∧
      second.text = (ofNanoseconds 1500000099).text ∧ second.text = "00:00:01.5000000" ∧
      below.signed.tdiv 100 = above.signed.tdiv 100 ∧ below.text = "-00:00:00" ∧
      above.text = "00:00:00" ∧ below.text ≠ above.text := by
  intro longest second below above
  obtain ⟨back, -⟩ := text_says_ticks longest longest
  obtain ⟨-, unique, -⟩ := text_says_ticks second (ofNanoseconds 1500000099)
  obtain ⟨-, apart, isZero, -⟩ := text_says_ticks below above
  obtain ⟨-, -, alsoZero, -⟩ := text_says_ticks above below
  have same : second.text = (ofNanoseconds 1500000099).text :=
    unique.mpr ⟨by decide, fun _ => by decide⟩
  have differ : below.text ≠ above.text := fun same =>
    absurd ((apart.mp same).2 (by decide)) (by decide)
  exact ⟨by decide +kernel, back, same, by decide +kernel, by decide, isZero (by decide),
    alsoZero (by decide), differ⟩

end Stencil.TimeSpan
