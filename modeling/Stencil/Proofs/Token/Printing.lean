import Stencil.Proofs.Token.Places

/-!
# Reading printed tokens back

A printed text holds written tokens in order, with blanks between any two of them. What a lexer
reads in it depends on the dots alone: behind one every word is a name, and elsewhere no reserved
word is. The main statement is that the printed tokens are read back just when none of them stands
on the wrong side of a dot, and that digits of a number no integer holds are always refused.
-/

namespace Stencil

namespace Token

/-- The words that are names behind a dot only. -/
def reservedWords : List String := ["true", "false", "null"] ++ Keyword.all.map Keyword.spelling

/-- The word that a token is written as. -/
def word? : Token → Option String
  | name text => some text
  | boolean truth => some (if truth then "true" else "false")
  | null => some "null"
  | keyword found => some found.spelling
  | string _ | integer _ | float _ | symbol _ | finish => none

/-- What is read where a token is written. -/
def asRead (afterDot : Bool) (token : Token) : Token :=
  match token.word? with
  | some word => if afterDot then name word else ofWord word
  | none => token

/-- Whether a token may stand at a place: no reserved word is a name unless it stands behind a dot,
and behind a dot it is nothing else. -/
def MayStand (afterDot : Bool) : Token → Prop
  | name text => afterDot = true ∨ text ∉ reservedWords
  | boolean _ | null | keyword _ => afterDot = false
  | string _ | integer _ | float _ | symbol _ | finish => True

/-- The words that mean themselves are those that are not reserved. -/
theorem ofWord_eq_name_iff (word : String) : ofWord word = name word ↔ word ∉ reservedWords := by
  unfold ofWord
  split_ifs with isTrue isFalse isNull
  · simp [reservedWords, isTrue]
  · simp [reservedWords, isFalse]
  · simp [reservedWords, isNull]
  · cases found : Keyword.ofSpelling? word with
    | none =>
      simp only [Keyword.ofSpelling?, List.find?_eq_none, beq_iff_eq] at found
      simpa [reservedWords, isTrue, isFalse, isNull] using found
    | some keyword =>
      have spelled : keyword.spelling = word := by
        simpa using List.find?_some found
      have listed : keyword ∈ Keyword.all := List.mem_of_find?_eq_some found
      simpa [reservedWords, isTrue, isFalse, isNull] using ⟨keyword, listed, spelled⟩

/-- A token is read as itself where it may stand, and nowhere else. -/
theorem asRead_eq_self_iff {afterDot : Bool} {token : Token} :
    token.asRead afterDot = token ↔ token.MayStand afterDot := by
  cases token with
  | name text => cases afterDot <;> simp [asRead, word?, MayStand, ofWord_eq_name_iff]
  | boolean truth => cases afterDot <;> cases truth <;> simp [asRead, word?, MayStand, ofWord]
  | null => cases afterDot <;> simp [asRead, word?, MayStand, ofWord]
  | keyword found => cases afterDot <;> simp [asRead, word?, MayStand, ofWord_keyword]
  | string | integer | float | symbol | finish => simp [asRead, word?, MayStand]

/-- No word is read as a dot. -/
theorem asRead_eq_dot_iff {afterDot : Bool} {token : Token} :
    token.asRead afterDot = symbol .dot ↔ token = symbol .dot := by
  cases token <;> cases afterDot <;> simp [asRead, word?, ofWord_ne_symbol]

end Token

/-- What stands in a printed text: a token, or digits where an integer would stand. -/
inductive Lexeme where
  /-- A token. -/
  | token (printed : Token)
  /-- The digits of a number that no integer holds. -/
  | tooLarge (digits : List Char)

namespace Lexeme

/-- How a lexeme is written. -/
inductive Written : Lexeme → List Char → Prop
  /-- A name, a truth, null or a keyword is its word. -/
  | word {token : Token} {word : String} (spells : token.word? = some word)
    (isWord : Text.isWord word.toList = true) : Written (.token token) word.toList
  /-- A string stands between two quotes of either kind. -/
  | string {quote : Char} {content written : List Char} (isQuote : quote = '"' ∨ quote = '\'')
    (quotes : Token.Quotes quote content written) :
    Written (.token (.string (String.ofList content))) (quote :: (written ++ [quote]))
  /-- An integer is given by its digits. -/
  | integer {digits : List Char} {number : Int64} (nonempty : digits ≠ [])
    (isDigits : ∀ character ∈ digits, character.isDigit = true)
    (value : number.toInt = Nat.ofDigitChars 10 digits 0) :
    Written (.token (.integer number)) digits
  /-- A symbol has one spelling. -/
  | symbol (found : Symbol) : Written (.token (.symbol found)) found.spelling.toList
  /-- Digits may write a number above all integers. -/
  | tooLarge {digits : List Char} (isDigits : ∀ character ∈ digits, character.isDigit = true)
    (large : 9223372036854775807 < Nat.ofDigitChars 10 digits 0) : Written (.tooLarge digits) digits

/-- What a lexeme is meant to be read as. -/
def meant : Lexeme → Except SyntaxFault Token
  | token printed => .ok printed
  | tooLarge digits => .error (.integerOutOfRange (String.ofList digits))

/-- What is read where a lexeme is written. -/
def asRead (afterDot : Bool) : Lexeme → Except SyntaxFault Token
  | token printed => .ok (printed.asRead afterDot)
  | tooLarge digits => .error (.integerOutOfRange (String.ofList digits))

/-- Whether what follows a lexeme stands behind a dot; a refused number changes nothing. -/
def leavesDot (afterDot : Bool) : Lexeme → Bool
  | token printed => printed = .symbol .dot
  | tooLarge _ => afterDot

/-- What is read where lexemes are written one after the other. -/
def allAsRead : Bool → List Lexeme → List (Except SyntaxFault Token)
  | _, [] => []
  | afterDot, lexeme :: others =>
    lexeme.asRead afterDot :: allAsRead (lexeme.leavesDot afterDot) others

/-- Whether every token among some lexemes may stand where it stands. -/
def InOrder : Bool → List Lexeme → Prop
  | _, [] => True
  | afterDot, token first :: others =>
    first.MayStand afterDot ∧ InOrder (first = .symbol .dot) others
  | afterDot, tooLarge _ :: others => InOrder afterDot others

/-- A text that holds written lexemes in order, with blanks between any two of them. -/
inductive Printed : List Lexeme → List Char → Prop
  /-- Only blanks are left. -/
  | done {blanks : List Char} (blank : ∀ character ∈ blanks, Text.isBlank character = true) :
    Printed [] blanks
  /-- A lexeme is written, with blanks on both sides unless the text starts or ends there. -/
  | lexeme {first : Lexeme} {others : List Lexeme} {blanks written tail : List Char}
    (blank : ∀ character ∈ blanks, Text.isBlank character = true) (writes : first.Written written)
    (apart : tail.head?.all Text.isBlank = true) (rest : Printed others tail) :
    Printed (first :: others) (blanks ++ (written ++ tail))

/-! ## One lexeme -/

/-- A written lexeme starts with a character that is no blank. -/
theorem Written.head_solid {lexeme : Lexeme} {written : List Char}
    (writes : lexeme.Written written) :
    ∃ first others, written = first :: others ∧ Text.isBlank first = false := by
  have ofEdges {text : List Char} (edges : Token.hasSolidEdges text = true) :
      ∃ first others, text = first :: others ∧ Text.isBlank first = false := by
    cases text with
    | nil => cases edges
    | cons first others =>
      simp only [Token.hasSolidEdges, Token.isSolid, List.head?_cons, Option.any_some,
        Bool.and_eq_true, Bool.not_eq_true'] at edges
      exact ⟨first, others, rfl, edges.1.1.1⟩
  have ofWordly {text : List Char} (nonempty : text ≠ [])
      (continues : ∀ character ∈ text, Text.continuesWord character = true) :=
    ofEdges (Token.hasSolidEdges_of_continuesWord nonempty continues)
  cases writes with
  | word spells isWord =>
    exact ofWordly (fun empty => by simp [empty, Text.isWord] at isWord)
      (Text.continuesWord_of_isWord isWord)
  | string isQuote quotes =>
    refine ⟨_, _, rfl, ?_⟩
    rcases isQuote with rfl | rfl <;> decide
  | integer nonempty isDigits value =>
    exact ofWordly nonempty fun digit member =>
      Text.continuesWord_of_isDigit (isDigits digit member)
  | symbol found => cases found <;> exact ⟨_, _, rfl, by decide⟩
  | tooLarge isDigits large =>
    refine ofWordly ?_ fun digit member => Text.continuesWord_of_isDigit (isDigits digit member)
    rintro rfl
    simp at large

/-- A written lexeme is read up to the blank behind it. -/
theorem Written.read {lexeme : Lexeme} {written tail : List Char}
    (writes : lexeme.Written written) (apart : tail.head?.all Text.isBlank = true)
    (afterDot : Bool) :
    Token.read afterDot (written ++ tail) = ⟨lexeme.asRead afterDot, written, tail⟩ := by
  -- No blank goes on with a word, with digits or with a symbol.
  have ends (holds : Char → Bool) (stops : ∀ next, Text.isBlank next = true → holds next = true) :
      tail.head?.all holds = true := by
    cases tail with
    | nil => rfl
    | cons next tail => exact stops next apart
  have endsDigits : tail.head?.all (fun next => !next.isDigit && next != '.') = true := by
    refine ends _ fun next blank => ?_
    have notWord := Text.continuesWord_of_isBlank blank
    have notDigit : next.isDigit = false := by
      cases digit : next.isDigit with
      | false => rfl
      | true => rw [Text.continuesWord_of_isDigit digit] at notWord; cases notWord
    have notDot : next ≠ '.' := by
      rintro rfl
      exact absurd blank (by decide)
    simp [notDigit, notDot]
  cases writes with
  | word spells isWord =>
    have stops := ends (fun next => !Text.continuesWord next)
      fun next blank => by simp [Text.continuesWord_of_isBlank blank]
    simpa [asRead, Token.asRead, spells] using Token.read_word afterDot isWord stops
  | string isQuote quotes => exact Token.read_quoted afterDot isQuote quotes tail
  | integer nonempty isDigits value =>
    rw [Token.read_digits afterDot nonempty isDigits endsDigits, Token.integerOf,
      Token.decimalValue_eq, ← value, Checked.ofInt?_toInt]
    rfl
  | symbol found =>
    refine Token.read_symbol afterDot found (ends _ fun next blank => ?_)
    have notAssign : next ≠ '=' := by
      rintro rfl
      exact absurd blank (by decide)
    simp [Token.isExtendedBy, notAssign]
  | tooLarge isDigits large =>
    have nonempty : written ≠ [] := by
      rintro rfl
      simp at large
    have beyond : Checked.ofInt? (Token.decimalValue written) = none := by
      rw [Token.decimalValue_eq, Checked.ofInt?, if_neg (by omega)]
    rw [Token.read_digits afterDot nonempty isDigits endsDigits, Token.integerOf, beyond]
    rfl

/-! ## All lexemes -/

/-- Pieces are read as they are meant when they are in order, and not otherwise. -/
theorem allAsRead_eq_map_meant_iff {afterDot : Bool} {lexemes : List Lexeme} :
    allAsRead afterDot lexemes = lexemes.map meant ↔ InOrder afterDot lexemes := by
  induction lexemes generalizing afterDot with
  | nil => simp [allAsRead, InOrder]
  | cons first others ih =>
    cases first with
    | token printed =>
      simp [allAsRead, asRead, meant, InOrder, leavesDot, ih, Token.asRead_eq_self_iff]
    | tooLarge digits => simp [allAsRead, asRead, meant, InOrder, leavesDot, ih]

/-- Something is read for each lexeme. -/
theorem length_allAsRead (afterDot : Bool) (lexemes : List Lexeme) :
    (allAsRead afterDot lexemes).length = lexemes.length := by
  induction lexemes generalizing afterDot with
  | nil => rfl
  | cons first others ih => simp [allAsRead, ih]

/-- Digits of a number above all integers are refused wherever they stand. -/
theorem getElem?_allAsRead (afterDot : Bool) {lexemes : List Lexeme} {index : Nat}
    {digits : List Char} (stands : lexemes[index]? = some (tooLarge digits)) :
    (allAsRead afterDot lexemes)[index]? =
      some (.error (.integerOutOfRange (String.ofList digits))) := by
  induction lexemes generalizing afterDot index with
  | nil => simp at stands
  | cons first others ih =>
    cases index with
    | zero =>
      obtain rfl : first = tooLarge digits := by simpa using stands
      rfl
    | succ index =>
      have later : others[index]? = some (tooLarge digits) := by simpa using stands
      simpa [allAsRead] using ih _ later

end Lexeme

namespace Lexer

/-- What the calls of a lexer give up to the end, wherever they stand. -/
def outcomes (lexer : Lexer) : List (Except SyntaxFault Token) :=
  lexer.steps.map fun step => step.outcome.mapError SyntaxError.fault

variable {blanks : List Char} {position : Position} {afterDot : Bool}

/-- Behind blanks without anything else only the end is left. -/
theorem outcomes_blank (blank : ∀ character ∈ blanks, Text.isBlank character = true) :
    outcomes ⟨blanks, position, afterDot⟩ = [.ok .finish] := by
  have ends : next ⟨blanks ++ [], position, afterDot⟩ = _ := next_eq blank rfl rfl
  rw [List.append_nil] at ends
  rw [outcomes, steps, ends]
  cases blanks <;> rfl

/-- Behind blanks a written lexeme is read, and then what follows it. -/
theorem outcomes_lexeme (blank : ∀ character ∈ blanks, Text.isBlank character = true)
    {lexeme : Lexeme} {written tail : List Char} (writes : lexeme.Written written)
    (apart : tail.head?.all Text.isBlank = true) :
    outcomes ⟨blanks ++ (written ++ tail), position, afterDot⟩ =
      lexeme.asRead afterDot :: outcomes
        ⟨tail, (position.advance blanks).advance written, lexeme.leavesDot afterDot⟩ := by
  obtain ⟨first, others, start, notBlank⟩ := writes.head_solid
  have solid : (written ++ tail).head?.all (fun next => !Text.isBlank next) = true := by
    simp [start, notBlank]
  have shorter : tail.length < (blanks ++ (written ++ tail)).length := by
    simp only [start, List.length_append, List.length_cons]
    omega
  rw [outcomes, steps, next_eq blank solid (writes.read apart afterDot)]
  cases lexeme with
  | token printed =>
    have notFinish : printed.asRead afterDot ≠ .finish :=
      Token.ne_finish_of_read (writes.read apart afterDot) (by simp [start])
    simp only [Lexeme.asRead, Lexeme.leavesDot, Token.asRead_eq_dot_iff, shorter, ↓reduceIte]
    split
    · rename_i found
      exact absurd (Except.ok.inj found) notFinish
    · rfl
  | tooLarge digits =>
    simp only [Lexeme.asRead, Lexeme.leavesDot, shorter, ↓reduceIte]
    rfl

/-- A printed text is read lexeme by lexeme. -/
theorem outcomes_eq_allAsRead {lexemes : List Lexeme} {text : List Char}
    (printed : Lexeme.Printed lexemes text) :
    outcomes ⟨text, position, afterDot⟩ = Lexeme.allAsRead afterDot lexemes ++ [.ok .finish] := by
  induction printed generalizing position afterDot with
  | done blank => exact outcomes_blank blank
  | lexeme blank writes apart _ ih =>
    rw [outcomes_lexeme blank writes apart, ih]
    rfl

/-- Printed tokens are read back, followed by the end, just when no reserved word is a name away
from a dot and no other word stands behind one. Digits of a number above all integers are refused in
any order of the lexemes around them. -/
theorem outcomes_printed {lexemes : List Lexeme} {text : List Char}
    (printed : Lexeme.Printed lexemes text) (position : Position) :
    ((starting text position).outcomes = lexemes.map Lexeme.meant ++ [.ok .finish] ↔
        Lexeme.InOrder false lexemes) ∧
      (starting text position).outcomes.length = lexemes.length + 1 ∧
      ∀ (index : Nat) (digits : List Char), lexemes[index]? = some (.tooLarge digits) →
        ∃ fault, (starting text position).outcomes[index]? = some (.error fault) ∧
          fault = .integerOutOfRange (String.ofList digits) ∧ fault.code = 102 := by
  rw [starting, outcomes_eq_allAsRead printed]
  refine ⟨?_, ?_, fun index digits stands => ⟨_, ?_, rfl, rfl⟩⟩
  · rw [List.append_cancel_right_eq, Lexeme.allAsRead_eq_map_meant_iff]
  · simp [Lexeme.length_allAsRead]
  · have refused := Lexeme.getElem?_allAsRead false stands
    rwa [List.getElem?_append_left (List.getElem?_eq_some_iff.mp refused).1]

/-- A keyword, a name behind a dot that is a keyword elsewhere, a quoted quote and a number that is
too large, with a line break between two of them. -/
theorem outcomes_printed_sample :
    let lexemes : List Lexeme := [.token (.keyword .forWord), .token (.symbol .dot),
      .token (.name "to"), .token (.string "'"), .tooLarge "9223372036854775808".toList]
    let text := "for . to\n'\\'' 9223372036854775808".toList
    Lexeme.Printed lexemes text ∧
      (starting text ⟨1, 1⟩).outcomes =
        [.ok (.keyword .forWord), .ok (.symbol .dot), .ok (.name "to"), .ok (.string "'"),
          .error (.integerOutOfRange "9223372036854775808"), .ok .finish] := by
  intro lexemes text
  have space : ∀ character ∈ [' '], Text.isBlank character = true := List.all_eq_true.mp rfl
  have large := @Lexeme.Printed.lexeme (.tooLarge "9223372036854775808".toList) [] [' '] _ []
    space (.tooLarge (List.all_eq_true.mp rfl) (by decide)) rfl (.done (by simp))
  have quoted := @Lexeme.Printed.lexeme _ _ ['\n'] _ _ (List.all_eq_true.mp rfl)
    (@Lexeme.Written.string '\'' ['\''] _ (Or.inr rfl)
      (@Token.Quotes.escape '\'' '\'' '\'' _ _ (by simp [Token.escapes]) .done)) rfl large
  have name := @Lexeme.Printed.lexeme (.token (.name "to")) _ [' '] _ _ space
    (.word rfl (by decide)) rfl quoted
  have dot := @Lexeme.Printed.lexeme _ _ [' '] _ _ space (.symbol .dot) rfl name
  have printed : Lexeme.Printed lexemes text :=
    @Lexeme.Printed.lexeme (.token (.keyword .forWord)) _ [] _ _ (by simp)
      (.word rfl (by decide)) rfl dot
  refine ⟨printed, ?_⟩
  exact (outcomes_printed printed ⟨1, 1⟩).1.mpr (by simp [Lexeme.InOrder, Token.MayStand, lexemes])

end Lexer

end Stencil
