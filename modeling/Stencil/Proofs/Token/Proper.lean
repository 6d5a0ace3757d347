import Stencil.Proofs.Number.Rounding
import Stencil.Proofs.Outcome
import Stencil.Proofs.Token.Places
import Stencil.Value.Basic

/-!
# What tokens can be read

A name is a word that is no keyword, except right behind a dot, where every word is a name. A number
has no sign. So a stream of tokens that are passed one by one never has a keyword as a name in
front, as long as what is passed is no dot.
-/

namespace Stencil

/-- Whether a value is one that can be written out in an expression: a scalar that has no sign. -/
def Value.isLiteral : Value → Bool
  | .null | .boolean _ | .string _ => true
  | .integer number => 0 ≤ number.toInt
  | .float number => !number.isNaN && !number.isNegative
  | .bytes _ | .array _ | .map _ => false

namespace Token

/-- Whether a token can be read, behind a dot or not. -/
def isProper (afterDot : Bool) : Token → Bool
  | name text => afterDot || isName text
  | integer number => Value.isLiteral (.integer number)
  | float number => Value.isLiteral (.float number)
  | string _ | boolean _ | null | symbol _ | keyword _ | finish => true

/-- The longest run of a word that starts here is a word. -/
theorem isWord_takeWhile {first : Char} {rest : List Char}
    (starts : Text.startsWord first = true) :
    Text.isWord ((first :: rest).takeWhile Text.continuesWord) = true := by
  rw [List.takeWhile_cons_of_pos (Text.continuesWord_of_startsWord starts), Text.isWord, starts,
    Bool.true_and, List.all_eq_true]
  exact fun character member => List.mem_takeWhile_imp member

/-- Where keywords are recognized, a word is a name only if it is none. -/
theorem isProper_ofWord {word : List Char} (isWord : Text.isWord word = true) :
    (ofWord (String.ofList word)).isProper false = true := by
  have isSame : ∀ text, ofWord (String.ofList word) = name text → isName text = true := by
    intro text same
    obtain rfl := eq_of_ofWord_eq_name same
    rw [isName, String.toList_ofList, isWord, same, Bool.true_and, BEq.rfl]
  unfold ofWord at isSame ⊢
  split_ifs at isSame ⊢
  · rfl
  · rfl
  · rfl
  · split at isSame
    · rfl
    · exact isSame _ rfl

/-- A word is read as a proper token. -/
theorem ensures_readWord (afterDot : Bool) {first : Char} {rest : List Char}
    (starts : Text.startsWord first = true) :
    Ensures (readWord afterDot (first :: rest)).outcome fun token =>
      token.isProper afterDot = true := by
  have isWord : Text.isWord ((first :: rest).takeWhile Text.continuesWord) = true :=
    isWord_takeWhile starts
  simp only [readWord, List.span_eq_takeWhile_dropWhile]
  refine .ok ?_
  cases afterDot with
  | true => rfl
  | false => exact isProper_ofWord isWord

/-- An integer that digits write has no sign. -/
theorem ensures_integerOf (afterDot : Bool) (digits : List Char) :
    Ensures (integerOf digits) fun token => token.isProper afterDot = true := by
  unfold integerOf
  split
  case h_1 number fits =>
    refine .ok (decide_eq_true ?_)
    rw [(Checked.toInt_of_ofInt? fits).1]
    exact Int.natCast_nonneg _
  case h_2 => exact .error _

/-- A number is read as a proper token. -/
theorem ensures_readNumber (afterDot : Bool) (text : List Char) :
    Ensures (readNumber afterDot text).outcome fun token => token.isProper afterDot = true := by
  simp only [readNumber]
  split
  case h_1 fraction after found =>
    refine .ok ?_
    obtain ⟨isNumber, isPositive⟩ := Binary64.isNumber_ofDecimal false
      (decimalValue ((text.span Char.isDigit).1 ++ fraction)) (-fraction.length)
    rw [isProper, Value.isLiteral, isNumber, isPositive]
    rfl
  case h_2 => exact ensures_integerOf afterDot _

/-- What is read is a proper token. -/
theorem ensures_read (afterDot : Bool) (text : List Char) :
    Ensures (read afterDot text).outcome fun token => token.isProper afterDot = true := by
  unfold read
  split
  case h_1 => exact .ok rfl
  case h_2 first rest =>
    split
    · exact .ok rfl
    · split_ifs with quoted digit starts
      · dsimp only
        split
        · exact .ok rfl
        · exact .error _
      · exact ensures_readNumber afterDot _
      · exact ensures_readWord afterDot starts
      · exact .error _

end Token

namespace TokenStream

/-- Whether the tokens of a stream can be read one after the other, the first one behind a dot or
not. -/
def IsProper : Bool → TokenStream → Prop
  | _, finish _ => True
  | _, fault _ => True
  | afterDot, token first _ rest => first.isProper afterDot = true ∧
    IsProper (first = .symbol .dot) rest

end TokenStream

/-- The tokens of a lexer can be read one after the other. -/
theorem Lexer.Lexes.isProper {lexer : Lexer} {stream : TokenStream} (lexes : lexer.Lexes stream) :
    stream.IsProper lexer.afterDot := by
  induction lexes with
  | finish => trivial
  | fault => trivial
  | token blank solid read nonempty others ih =>
    have proper := Token.ensures_read _ _ _ (congrArg Token.Reading.outcome read)
    exact ⟨proper, ih⟩

namespace TokenStream

variable {stream : TokenStream} {afterDot : Bool}

/-- Outside of a dot's reach the token in front is no keyword under the name of a word. -/
theorem IsProper.peek (proper : stream.IsProper afterDot) :
    stream.peek.isProper afterDot = true := by
  cases stream with
  | finish | fault => rfl
  | token first position rest => exact proper.1

/-- A stream is proper where it can be read. -/
theorem IsProper.check (proper : stream.IsProper afterDot) :
    Ensures stream.check (IsProper afterDot) := by
  cases stream with
  | finish | token => exact .ok proper
  | fault => exact .error _

/-- Behind the token in front the stream is proper, and only behind a dot a keyword may be a
name. -/
theorem IsProper.advance (proper : stream.IsProper afterDot) :
    Ensures stream.advance (IsProper (stream.peek = .symbol .dot)) := by
  cases stream with
  | finish | fault => exact .ok trivial
  | token first position rest => exact IsProper.check proper.2

/-- Behind a token that is no dot the stream is proper. -/
theorem IsProper.pass {front : Token} (proper : stream.IsProper afterDot)
    (here : stream.peek = front) (other : front ≠ .symbol .dot) :
    Ensures stream.advance (IsProper false) := by
  have advanced := proper.advance
  rwa [here, decide_eq_false other] at advanced

/-- Behind a given token that is no dot the stream is proper. -/
theorem IsProper.expect (proper : stream.IsProper afterDot) {expected : Token}
    (other : expected ≠ .symbol .dot) : Ensures (stream.expect expected) (IsProper false) := by
  unfold TokenStream.expect
  split
  case isTrue here => exact proper.pass here other
  case isFalse => exact .error _

/-- A name that is passed outside of a dot's reach is no keyword. -/
theorem IsProper.expectName (proper : stream.IsProper false) (purpose : String) :
    Ensures (stream.expectName purpose) fun read =>
      Token.isName read.1 = true ∧ read.2.IsProper false := by
  have front := proper.peek
  unfold TokenStream.expectName
  split
  case h_1 text here =>
    rw [here] at front
    exact (proper.pass here nofun).bind fun rest others => .ok ⟨front, others⟩
  case h_2 => exact .error _

/-- The tokens of a text are proper. -/
theorem ensures_ofText (text : List Char) (position : Position) :
    Ensures (ofText text position) (IsProper false) :=
  IsProper.check (Lexer.lexes_stream (.starting text position)).isProper

end TokenStream

end Stencil
