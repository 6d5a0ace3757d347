import Mathlib.Data.List.TakeDrop
import Stencil.Template.Token.Lexer

/-!
# How tokens are written

Every token of an expression or of a header has a spelling. Reading a spelling gives the token back
and stops right behind it, as long as the next character does not go on with the token.
-/

namespace Stencil

namespace Text

/-- A text that starts and goes on like a word. -/
def isWord : List Char → Bool
  | [] => false
  | first :: others => startsWord first && others.all continuesWord

/-- All characters of a word continue a word. -/
theorem continuesWord_of_isWord {word : List Char} (isWord : isWord word = true) :
    ∀ character ∈ word, continuesWord character = true := by
  cases word with
  | nil => simp
  | cons first others =>
    simp only [Text.isWord, Bool.and_eq_true, List.all_eq_true] at isWord
    intro character member
    rcases List.mem_cons.mp member with rfl | later
    · exact continuesWord_of_startsWord isWord.1
    · exact isWord.2 character later

/-- The code points of the blanks. -/
def blankCodes : List Nat :=
  List.range' 9 5 ++ [0x20, 0x85, 0xA0, 0x1680] ++ List.range' 0x2000 11 ++
    [0x2028, 0x2029, 0x202F, 0x205F, 0x3000]

/-- A blank has one of these code points. -/
theorem mem_blankCodes {character : Char} (blank : isBlank character = true) :
    character.toNat ∈ blankCodes := by
  simp only [isBlank, Bool.or_eq_true, Bool.and_eq_true, decide_eq_true_eq] at blank
  simp only [blankCodes, List.mem_append, List.mem_range'_1, List.mem_cons, List.not_mem_nil]
  omega

/-- No blank is part of a word. -/
theorem continuesWord_of_isBlank {character : Char} (blank : isBlank character = true) :
    continuesWord character = false := by
  have all : ∀ code ∈ blankCodes, continuesWord (Char.ofNat code) = false := by decide +kernel
  have known := all character.toNat (mem_blankCodes blank)
  rwa [Char.ofNat_toNat] at known

/-- No blank goes on with a word, and what stands behind no blanks must not either. -/
theorem ends_of_blanks {blanks tail : List Char}
    (blank : ∀ character ∈ blanks, isBlank character = true)
    (ends : blanks = [] → tail.head?.all (fun next => !continuesWord next) = true) :
    (blanks ++ tail).head?.all (fun next => !continuesWord next) = true := by
  cases blanks with
  | nil => exact ends rfl
  | cons first others => simp [continuesWord_of_isBlank (blank first List.mem_cons_self)]

/-- A digit is part of a word. -/
theorem continuesWord_of_isDigit {character : Char} (digit : character.isDigit = true) :
    continuesWord character = true := by
  have range : 48 ≤ character.toNat ∧ character.toNat ≤ 57 := by
    simpa [Char.isDigit, UInt32.le_iff_toNat_le] using digit
  simp [continuesWord, isNumeral, show character.toNat < 128 by omega, digit]

/-- A digit starts no word. -/
theorem startsWord_of_isDigit {character : Char} (digit : character.isDigit = true) :
    startsWord character = false := by
  have range : 48 ≤ character.toNat ∧ character.toNat ≤ 57 := by
    simpa [Char.isDigit, UInt32.le_iff_toNat_le] using digit
  have digits : ∀ code ∈ List.range' 48 10, startsWord (Char.ofNat code) = false := by decide
  have whole := digits character.toNat (by rw [List.mem_range'_1]; omega)
  rwa [Char.ofNat_toNat] at whole

/-- A piece that starts with another character is not in front. -/
theorem dropPrefix?_eq_none {piece rest : List Char} {first : Char}
    (other : piece.head? ≠ some first) (nonempty : piece ≠ []) :
    dropPrefix? piece (first :: rest) = none := by
  cases piece with
  | nil => exact absurd rfl nonempty
  | cons start piece =>
    have different : start ≠ first := fun same => other (by simp [same])
    simp [dropPrefix?, different]

/-- A piece that a text does not start with is not in front where the text goes on either, when the
text is long enough for it. -/
theorem dropPrefix?_append_eq_none {piece text : List Char}
    (missing : dropPrefix? piece text = none) (long : piece.length ≤ text.length)
    (tail : List Char) : dropPrefix? piece (text ++ tail) = none := by
  cases found : dropPrefix? piece (text ++ tail) with
  | none => rfl
  | some after =>
    have starts : piece <+: text ++ tail := ⟨after, (dropPrefix?_eq_some_iff.mp found).symm⟩
    obtain ⟨others, whole⟩ :=
      List.prefix_of_prefix_length_le starts (List.prefix_append text tail) long
    rw [dropPrefix?_eq_some_iff.mpr whole.symm] at missing
    cases missing

end Text

namespace Token

/-- A text that is written as a word and is no keyword. -/
def isName (text : String) : Bool := Text.isWord text.toList && ofWord text == .name text

/-- A character as it stands between double quotes. -/
def escaped (character : Char) : List Char :=
  if character = '\n' then ['\\', 'n']
  else if character = '\t' then ['\\', 't']
  else if character = '\r' then ['\\', 'r']
  else if character = '"' || character = '\\' then ['\\', character]
  else [character]

/-- How a token is written; floats and the end of a tag have no spelling. -/
def spelling : Token → List Char
  | name text => text.toList
  | string text => '"' :: (text.toList.flatMap escaped ++ ['"'])
  | integer number => Nat.toDigits 10 number.toInt.toNat
  | boolean truth => (if truth then "true" else "false").toList
  | null => "null".toList
  | symbol found => found.spelling.toList
  | keyword found => found.spelling.toList
  | float _ | finish => []

/-- Whether a token can be written so that it is read back wherever it stands. The dot is left out,
because it changes how the next token is read. -/
def hasSpelling : Token → Bool
  | name text => isName text
  | integer number => 0 ≤ number.toInt
  | symbol found => found ≠ .dot
  | string _ | boolean _ | null | keyword _ => true
  | float _ | finish => false

/-- Whether a character right behind a token is read as part of it. -/
def isExtendedBy : Token → Char → Bool
  | name _, next | boolean _, next | null, next | keyword _, next => Text.continuesWord next
  | integer _, next => next.isDigit || next == '.'
  | symbol found, next => [.less, .greater, .assign, .bang].contains found && next == '='
  | string _, _ | float _, _ | finish, _ => false

/-- Whether a token ends where a text begins. -/
def endsBefore (token : Token) (tail : List Char) : Bool :=
  tail.head?.all fun next => !token.isExtendedBy next

/-! ## Symbols -/

/-- A symbol is written with a character that starts no word, no number and no string. -/
theorem symbol_head (found : Symbol) : ∃ first others, found.spelling.toList = first :: others ∧
    Text.startsWord first = false ∧ first.isDigit = false ∧ first ≠ '"' ∧ first ≠ '\'' := by
  cases found <;> exact ⟨_, _, rfl, by decide, by decide, by decide, by decide⟩

/-- A text that starts with a character of another kind starts with no symbol. -/
theorem symbol?_eq_none {first : Char} {rest : List Char}
    (other : Text.startsWord first = true ∨ first.isDigit = true ∨ first = '"' ∨ first = '\'') :
    symbol? (first :: rest) = none := by
  rw [symbol?, List.findSome?_eq_none_iff]
  intro found _
  obtain ⟨start, others, written, word, digit, double, single⟩ := symbol_head found
  have different : start ≠ first := by
    rintro rfl
    rcases other with starts | isDigit | rfl | rfl
    · exact absurd starts (by simp [word])
    · exact absurd isDigit (by simp [digit])
    · exact double rfl
    · exact single rfl
  rw [written, Text.dropPrefix?_eq_none (by simpa using different) (by simp)]
  rfl

/-- A symbol is found where it is written. -/
theorem symbol?_spelling (found : Symbol) {tail : List Char}
    (ends : (symbol found).endsBefore tail = true) :
    symbol? (found.spelling.toList ++ tail) = some (found, tail) := by
  cases tail with
  | nil => cases found <;> rfl
  | cons next tail =>
    cases found
    case less | greater | assign | bang =>
      have other : '=' ≠ next := by
        rintro rfl
        simp [endsBefore, isExtendedBy] at ends
      simp [symbol?, symbols, Symbol.spelling, Text.dropPrefix?, other]
    all_goals rfl

/-- A symbol is read back. -/
theorem read_symbol (afterDot : Bool) (found : Symbol) {tail : List Char}
    (ends : (symbol found).endsBefore tail = true) :
    read afterDot (found.spelling.toList ++ tail) =
      ⟨.ok (symbol found), found.spelling.toList, tail⟩ := by
  obtain ⟨first, others, written, -⟩ := symbol_head found
  have matched := symbol?_spelling found ends
  rw [written] at matched ⊢
  simp only [List.cons_append] at matched ⊢
  simp [read, matched, written]

/-! ## Words -/

/-- The longest run of word characters in front of a tail that starts with none is the run. -/
theorem span_append {holds : Char → Bool} {run tail : List Char}
    (inside : ∀ character ∈ run, holds character = true)
    (outside : tail.head?.all (fun next => !holds next) = true) :
    (run ++ tail).span holds = (run, tail) := by
  rw [List.span_eq_takeWhile_dropWhile, List.takeWhile_append_of_pos inside,
    List.dropWhile_append_of_pos inside]
  cases tail with
  | nil => simp
  | cons next tail =>
    have stops : holds next = false := by simpa using outside
    simp [stops]

/-- A word is read as what it spells, and behind a dot as a name. -/
theorem read_word (afterDot : Bool) {word tail : List Char} (isWord : Text.isWord word = true)
    (ends : tail.head?.all (fun next => !Text.continuesWord next) = true) :
    read afterDot (word ++ tail) =
      ⟨.ok (if afterDot then name (String.ofList word) else ofWord (String.ofList word)), word,
        tail⟩ := by
  have continues := Text.continuesWord_of_isWord isWord
  cases word with
  | nil => cases isWord
  | cons first others =>
    have starts : Text.startsWord first = true := by
      simp only [Text.isWord, Bool.and_eq_true] at isWord
      exact isWord.1
    have noSymbol : symbol? (first :: (others ++ tail)) = none := symbol?_eq_none (Or.inl starts)
    have noQuote : first ≠ '"' ∧ first ≠ '\'' := by
      constructor <;> (rintro rfl; exact absurd starts (by decide))
    have noDigit : first.isDigit = false := by
      cases digit : first.isDigit with
      | false => rfl
      | true => rw [Text.startsWord_of_isDigit digit] at starts; cases starts
    have run := span_append continues ends
    rw [List.cons_append] at run ⊢
    simp only [read, noSymbol, noQuote, noDigit, starts, readWord, run]
    simp

/-- The keyword of a spelling is written as a word. -/
theorem isWord_keyword (found : Keyword) : Text.isWord found.spelling.toList = true := by
  cases found <;> decide

/-- A keyword is what its spelling means. -/
theorem ofWord_keyword (found : Keyword) : ofWord found.spelling = keyword found := by
  have others : found.spelling ≠ "true" ∧ found.spelling ≠ "false" ∧ found.spelling ≠ "null" := by
    cases found <;> simp [Keyword.spelling]
  rw [ofWord, if_neg others.1, if_neg others.2.1, if_neg others.2.2, Keyword.ofSpelling?_spelling]

/-- No word is a symbol. -/
theorem ofWord_ne_symbol (word : String) (found : Symbol) : ofWord word ≠ symbol found := by
  unfold ofWord
  split_ifs
  · simp
  · simp
  · simp
  · cases Keyword.ofSpelling? word <;> simp

/-! ## Strings -/

/-- The characters that may stand behind a backslash for another one or for themselves: each
character with the letter that writes it. -/
def escapes (quote : Char) : List (Char × Char) :=
  [('\n', 'n'), ('\t', 't'), ('\r', 'r'), ('\\', '\\'), (quote, quote)]

/-- A text that writes some content between two quotes of a kind. -/
inductive Quotes (quote : Char) : List Char → List Char → Prop
  /-- Nothing is left. -/
  | done : Quotes quote [] []
  /-- A character stands for itself. -/
  | plain {character : Char} {content written : List Char} (notQuote : character ≠ quote)
    (notBackslash : character ≠ '\\') (others : Quotes quote content written) :
    Quotes quote (character :: content) (character :: written)
  /-- A backslash and a letter stand for a character. -/
  | escape {character letter : Char} {content written : List Char}
    (pair : (character, letter) ∈ escapes quote) (others : Quotes quote content written) :
    Quotes quote (character :: content) ('\\' :: letter :: written)

/-- The letter behind a backslash means the character it writes. -/
theorem unescaped_of_mem_escapes {quote character letter : Char}
    (isQuote : quote = '"' ∨ quote = '\'') (pair : (character, letter) ∈ escapes quote) :
    unescaped letter = character := by
  simp only [escapes, List.mem_cons, Prod.mk.injEq, List.not_mem_nil, or_false] at pair
  rcases pair with ⟨rfl, rfl⟩ | ⟨rfl, rfl⟩ | ⟨rfl, rfl⟩ | ⟨rfl, rfl⟩ | ⟨rfl, rfl⟩
  case inr.inr.inr.inr => rcases isQuote with rfl | rfl <;> rfl
  all_goals rfl

/-- The content of a string literal is read back up to its closing quote. -/
theorem readQuoted_of_quotes {quote : Char} (isQuote : quote = '"' ∨ quote = '\'')
    {content written : List Char} (quotes : Quotes quote content written) (tail : List Char) :
    readQuoted quote (written ++ quote :: tail) = (some content, written ++ [quote], tail) := by
  have notBackslash : quote ≠ '\\' := by rcases isQuote with rfl | rfl <;> decide
  induction quotes with
  | done => simp [readQuoted, notBackslash]
  | plain notQuote plain _ ih => simp [readQuoted, notQuote, plain, ih]
  | escape pair _ ih => simp [readQuoted, unescaped_of_mem_escapes isQuote pair, ih]

/-- The usual way to write a content between double quotes is one of the ways to write it. -/
theorem quotes_escaped (content : List Char) : Quotes '"' content (content.flatMap escaped) := by
  induction content with
  | nil => exact .done
  | cons character content ih =>
    rw [List.flatMap_cons]
    generalize content.flatMap escaped = written at ih ⊢
    by_cases special : character = '\n' ∨ character = '\t' ∨ character = '\r' ∨
        character = '"' ∨ character = '\\'
    · rcases special with rfl | rfl | rfl | rfl | rfl <;> exact .escape (by simp [escapes]) ih
    · simp only [not_or] at special
      simpa [escaped, special] using Quotes.plain special.2.2.2.1 special.2.2.2.2 ih

/-- A string literal is read back from between quotes of either kind. -/
theorem read_quoted (afterDot : Bool) {quote : Char} (isQuote : quote = '"' ∨ quote = '\'')
    {content written : List Char} (quotes : Quotes quote content written) (tail : List Char) :
    read afterDot (quote :: (written ++ [quote]) ++ tail) =
      ⟨.ok (string (String.ofList content)), quote :: (written ++ [quote]), tail⟩ := by
  have noSymbol : symbol? (quote :: (written ++ quote :: tail)) = none :=
    symbol?_eq_none (Or.inr (Or.inr isQuote))
  simp [read, noSymbol, isQuote, readQuoted_of_quotes isQuote quotes tail]

/-! ## Integers -/

/-- The number that digits write is the one they write in base ten. -/
theorem decimalValue_eq (digits : List Char) :
    decimalValue digits = Nat.ofDigitChars 10 digits 0 := by
  simp only [decimalValue, Nat.ofDigitChars_eq_foldl, Nat.mul_comm 10]

/-- The digits of a number give it back. -/
theorem decimalValue_toDigits (number : Nat) : decimalValue (Nat.toDigits 10 number) = number := by
  rw [decimalValue_eq, Nat.ofDigitChars_ten_toDigits]

/-- A text that goes on with no point has no fraction. -/
theorem fraction?_eq_none {tail : List Char} (noPoint : tail.head? ≠ some '.') :
    fraction? tail = none := by
  cases tail with
  | nil => rfl
  | cons next tail =>
    unfold fraction?
    split
    · rename_i same
      exact absurd (congrArg List.head? same) noPoint
    · rfl

/-- A run of digits is read as a whole, as an integer or as one that is out of range. -/
theorem read_digits (afterDot : Bool) {digits tail : List Char} (nonempty : digits ≠ [])
    (isDigits : ∀ character ∈ digits, character.isDigit = true)
    (ends : tail.head?.all (fun next => !next.isDigit && next != '.') = true) :
    read afterDot (digits ++ tail) = ⟨integerOf digits, digits, tail⟩ := by
  have stops : tail.head?.all (fun next => !next.isDigit) = true := by
    cases tail with
    | nil => rfl
    | cons next tail => simp_all
  have noFraction : fraction? tail = none := by
    refine fraction?_eq_none fun point => ?_
    rw [point] at ends
    cases ends
  have run := span_append isDigits stops
  cases digits with
  | nil => exact absurd rfl nonempty
  | cons first others =>
    have digit := isDigits first (by simp)
    have noSymbol : symbol? (first :: (others ++ tail)) = none :=
      symbol?_eq_none (Or.inr (Or.inl digit))
    have noQuote : first ≠ '"' ∧ first ≠ '\'' := by
      constructor <;> (rintro rfl; exact absurd digit (by decide))
    rw [List.cons_append] at run ⊢
    simp only [read, noSymbol, noQuote, digit, readNumber, run, noFraction]
    simp

/-- An integer that is not negative is read back from its digits. -/
theorem read_integer {number : Int64} (nonnegative : 0 ≤ number.toInt) {tail : List Char}
    (ends : (integer number).endsBefore tail = true) :
    read false ((integer number).spelling ++ tail) =
      ⟨.ok (integer number), (integer number).spelling, tail⟩ := by
  have digits : ∀ character ∈ Nat.toDigits 10 number.toInt.toNat, character.isDigit = true :=
    fun character member => Nat.isDigit_of_mem_toDigits (by decide) (by decide) member
  have stops : tail.head?.all (fun next => !next.isDigit && next != '.') = true := by
    cases tail with
    | nil => rfl
    | cons next tail => simpa [endsBefore, isExtendedBy] using ends
  have value : integerOf (Nat.toDigits 10 number.toInt.toNat) = .ok (integer number) := by
    have fits : Checked.ofInt? (decimalValue (Nat.toDigits 10 number.toInt.toNat)) =
        some number := by
      rw [decimalValue_toDigits, Int.toNat_of_nonneg nonnegative]
      exact Checked.ofInt?_toInt number
    simp only [integerOf, fits]
  have whole := read_digits false Nat.toDigits_ne_nil digits stops
  rwa [value] at whole

/-! ## All tokens -/

/-- A string is read back from between its quotes. -/
theorem read_string (text : String) (tail : List Char) :
    read false ((string text).spelling ++ tail) =
      ⟨.ok (string text), (string text).spelling, tail⟩ := by
  have quoted := read_quoted false (Or.inl rfl) (quotes_escaped text.toList) tail
  rwa [String.ofList_toList] at quoted

/-- Every written token is read back, and what follows it is left. -/
theorem read_spelling {token : Token} (written : token.hasSpelling = true) {tail : List Char}
    (ends : token.endsBefore tail = true) :
    read false (token.spelling ++ tail) = ⟨.ok token, token.spelling, tail⟩ := by
  cases token with
  | name text =>
    simp only [hasSpelling, isName, Bool.and_eq_true, beq_iff_eq] at written
    have word := read_word false written.1 ends
    rwa [String.ofList_toList, if_neg Bool.false_ne_true, written.2] at word
  | string text => exact read_string text tail
  | integer number =>
    exact read_integer (by simpa [hasSpelling] using written) ends
  | boolean truth =>
    cases truth
    · exact @read_word false "false".toList tail (by decide) ends
    · exact @read_word false "true".toList tail (by decide) ends
  | null => exact @read_word false "null".toList tail (by decide) ends
  | symbol found => exact read_symbol false found ends
  | keyword found =>
    have word := read_word false (isWord_keyword found) ends
    rwa [String.ofList_toList, if_neg Bool.false_ne_true, ofWord_keyword] at word
  | float number => cases written
  | finish => cases written

/-! ## The edges of a spelling -/

/-- A character that is no blank, no bar and no number sign. -/
def isSolid (character : Char) : Bool :=
  !Text.isBlank character && character != '|' && character != '#'

/-- A text that starts and ends with solid characters. -/
def hasSolidEdges (text : List Char) : Bool :=
  text.head?.any isSolid && text.getLast?.any isSolid

/-- Word characters are solid. -/
theorem isSolid_of_continuesWord {character : Char}
    (continues : Text.continuesWord character = true) : isSolid character = true := by
  have notBlank : Text.isBlank character = false := by
    cases blank : Text.isBlank character with
    | false => rfl
    | true => rw [Text.continuesWord_of_isBlank blank] at continues; cases continues
  have notBar : character ≠ '|' := by
    rintro rfl
    exact absurd continues (by decide)
  have notSign : character ≠ '#' := by
    rintro rfl
    exact absurd continues (by decide)
  simp [isSolid, notBlank, notBar, notSign]

/-- A nonempty text of word characters has solid edges. -/
theorem hasSolidEdges_of_continuesWord {text : List Char} (nonempty : text ≠ [])
    (continues : ∀ character ∈ text, Text.continuesWord character = true) :
    hasSolidEdges text = true := by
  have first := isSolid_of_continuesWord (continues _ (List.head_mem nonempty))
  have last := isSolid_of_continuesWord (continues _ (List.getLast_mem nonempty))
  simp [hasSolidEdges, List.head?_eq_some_head nonempty, List.getLast?_eq_some_getLast nonempty,
    first, last]

/-- Every spelling has solid edges. -/
theorem hasSolidEdges_spelling {token : Token} (written : token.hasSpelling = true) :
    hasSolidEdges token.spelling = true := by
  have ofWord {word : List Char} (isWord : Text.isWord word = true) :
      hasSolidEdges word = true :=
    hasSolidEdges_of_continuesWord (by rintro rfl; cases isWord)
      (Text.continuesWord_of_isWord isWord)
  cases token with
  | name text =>
    simp only [hasSpelling, isName, Bool.and_eq_true] at written
    exact ofWord written.1
  | string text =>
    have quote : isSolid '"' = true := by decide
    simp [hasSolidEdges, spelling, List.getLast?_cons, quote]
  | integer number =>
    exact hasSolidEdges_of_continuesWord Nat.toDigits_ne_nil fun character member =>
      Text.continuesWord_of_isDigit (Nat.isDigit_of_mem_toDigits (by decide) (by decide) member)
  | boolean truth => cases truth <;> exact ofWord (by decide)
  | null => exact ofWord (by decide)
  | symbol found => cases found <;> decide
  | keyword found => exact ofWord (isWord_keyword found)
  | float number => cases written
  | finish => cases written

/-- A spelling is not empty. -/
theorem spelling_ne_nil {token : Token} (written : token.hasSpelling = true) :
    token.spelling ≠ [] := by
  intro empty
  have edges := hasSolidEdges_spelling written
  rw [empty] at edges
  cases edges

end Token

end Stencil
