import Stencil.Proofs.Token.Spelling
import Stencil.Script.Token

/-!
# Driving scripts that write tokens

A text writes the tokens of calls with texts for arguments when it holds their spellings in order,
with blanks anywhere between them. A character of such an argument may stand for itself, behind a
backslash by any escape, and a double quote twice. The main statement is that a script which writes
tokens is read into exactly these.
-/

namespace Stencil.Script

namespace Token

/-- A text that writes a content, as it stands between double quotes. -/
inductive WritesText : List Char → List Char → Prop
  /-- Nothing is left. -/
  | nil : WritesText [] []
  /-- A character that stands for itself. -/
  | plain {character : Char} {content text : List Char} (noQuote : character ≠ '"')
    (noBackslash : character ≠ '\\') (noLineEnd : character ≠ '\n')
    (others : WritesText content text) : WritesText (character :: content) (character :: text)
  /-- A character that an escape stands for. -/
  | escape {character : Char} {code content text : List Char}
    (stands : ∀ rest, readEscape '"' (code ++ rest) = some (character, rest))
    (others : WritesText content text) : WritesText (character :: content) ('\\' :: (code ++ text))
  /-- A double quote, written twice. -/
  | twice {content text : List Char} (others : WritesText content text) :
    WritesText ('"' :: content) ('"' :: '"' :: text)

/-- A written text has at least one character for every character of its content. -/
theorem WritesText.length_le {content text : List Char} (writes : WritesText content text) :
    content.length ≤ text.length := by
  induction writes with
  | nil => exact Nat.le_refl 0
  | plain _ _ _ _ ih => exact Nat.succ_le_succ ih
  | escape _ _ ih =>
    simp only [List.length_cons, List.length_append]
    omega
  | twice _ ih =>
    simp only [List.length_cons]
    omega

/-- A character without a meaning of its own belongs to the content. -/
theorem readQuoted_plain {character : Char} {content rest tail : List Char} {length : Nat}
    (noQuote : character ≠ '"') (noBackslash : character ≠ '\\') (noLineEnd : character ≠ '\n')
    (reads : readQuoted '"' length rest = some (content, tail)) :
    readQuoted '"' (length + 1) (character :: rest) = some (character :: content, tail) := by
  cases rest <;> simp [readQuoted, noQuote, noLineEnd, reads]

/-- A written text is read back up to its closing quote, when no other quote follows. -/
theorem readQuoted_of_writesText {content text tail : List Char} {length : Nat}
    (writes : WritesText content text) (enough : content.length < length)
    (ends : tail.head? ≠ some '"') :
    readQuoted '"' length (text ++ '"' :: tail) = some (content, tail) := by
  induction writes generalizing length with
  | nil =>
    obtain ⟨length, rfl⟩ := Nat.exists_eq_succ_of_ne_zero (Nat.ne_of_gt enough)
    cases tail with
    | nil => rfl
    | cons next tail =>
      have other : next ≠ '"' := fun same => ends (congrArg some same)
      simp [readQuoted, other]
  | plain noQuote noBackslash noLineEnd others ih =>
    obtain ⟨length, rfl⟩ := Nat.exists_eq_succ_of_ne_zero (Nat.ne_zero_of_lt enough)
    exact readQuoted_plain noQuote noBackslash noLineEnd (ih (Nat.lt_of_succ_lt_succ enough))
  | @escape character code content text stands others ih =>
    obtain ⟨length, rfl⟩ := Nat.exists_eq_succ_of_ne_zero (Nat.ne_zero_of_lt enough)
    rw [List.cons_append, List.append_assoc, readQuoted, stands]
    simp [ih (Nat.lt_of_succ_lt_succ enough)]
  | twice others ih =>
    obtain ⟨length, rfl⟩ := Nat.exists_eq_succ_of_ne_zero (Nat.ne_zero_of_lt enough)
    simp [readQuoted, ih (Nat.lt_of_succ_lt_succ enough)]

/-- The signs in calls. -/
def callMarks : List String := ["(", ")", "[", "]", ",", ";"]

/-- A text that writes one token of a call. -/
inductive IsWritten : Token → List Char → Prop
  /-- A name. -/
  | word {letters : List Char} (name : isName letters = true)
    (inside : ∀ letter ∈ letters, isWordCharacter letter = true) :
    IsWritten (word (String.ofList letters)) letters
  /-- A text between quotes. -/
  | text {content text : List Char} (writes : WritesText content text) :
    IsWritten (literal (.string (String.ofList content))) ('"' :: (text ++ ['"']))
  /-- A sign. -/
  | mark {sign : String} (known : sign ∈ callMarks) : IsWritten (mark sign) sign.toList

/-- Whether a token goes on with a character right behind it, or is refused in front of it. -/
def isExtendedBy : Token → Char → Bool
  | word _, next => isWordCharacter next
  | literal _, next => next = '"'
  | mark _, next => next = '*'
  | joined _, _ => false

/-- Whether a token ends where a text begins. -/
def endsBefore (token : Token) (tail : List Char) : Bool :=
  tail.head?.all fun next => !token.isExtendedBy next

/-- A text that writes tokens in order. -/
inductive Writes : List Token → List Char → Prop
  /-- Only blanks are left. -/
  | done {blanks : List Char} (blank : ∀ character ∈ blanks, Text.isBlank character = true) :
    Writes [] blanks
  /-- Blanks, a token that ends where the rest begins, and the rest. -/
  | token {first : Token} {tokens : List Token} {text tail : List Char} (blanks : List Char)
    (blank : ∀ character ∈ blanks, Text.isBlank character = true)
    (written : IsWritten first text) (ends : first.endsBefore tail = true)
    (others : Writes tokens tail) : Writes (first :: tokens) (blanks ++ (text ++ tail))

/-- No blank is a word character. -/
theorem isWordCharacter_of_isBlank {character : Char} (blank : Text.isBlank character = true) :
    isWordCharacter character = false := by
  have blanks : ∀ code ∈ Text.blankCodes, isWordCharacter (Char.ofNat code) = false := by decide
  have whole := blanks character.toNat (Text.mem_blankCodes blank)
  rwa [Char.ofNat_toNat] at whole

/-- A name starts with a letter or an underscore. -/
theorem exists_of_isName {letters : List Char} (name : isName letters = true) :
    ∃ first rest, letters = first :: rest ∧ first.isDigit = false := by
  cases letters with
  | nil => cases name
  | cons first rest =>
    refine ⟨first, rest, rfl, ?_⟩
    cases digit : first.isDigit with
    | false => rfl
    | true =>
      have noUnderscore : first ≠ '_' := by
        rintro rfl
        cases digit
      have noLetter : first.isAlpha = false := by
        have range : 48 ≤ first.toNat ∧ first.toNat ≤ 57 := by
          simpa [Char.isDigit, UInt32.le_iff_toNat_le] using digit
        have digits : ∀ code ∈ List.range' 48 10, (Char.ofNat code).isAlpha = false := by decide
        have whole := digits first.toNat (by rw [List.mem_range'_1]; omega)
        rwa [Char.ofNat_toNat] at whole
      simp [isName, noUnderscore, noLetter] at name

/-- A token in a call starts with a letter, an underscore, a double quote or a sign. -/
theorem IsWritten.head {token : Token} {text : List Char} (written : IsWritten token text) :
    ∃ first rest, text = first :: rest ∧ Text.isBlank first = false ∧ first ≠ '/' ∧
      first ≠ '`' := by
  cases written with
  | word name inside =>
    obtain ⟨first, rest, rfl, -⟩ := exists_of_isName name
    have part : isWordCharacter first = true := inside first List.mem_cons_self
    refine ⟨first, rest, rfl, ?_, ?_, ?_⟩
    · cases blank : Text.isBlank first with
      | false => rfl
      | true =>
        rw [isWordCharacter_of_isBlank blank] at part
        cases part
    · rintro rfl
      exact absurd part (by decide)
    · rintro rfl
      exact absurd part (by decide)
  | text writes => exact ⟨'"', _, rfl, by decide, by decide, by decide⟩
  | mark known =>
    simp only [callMarks, List.mem_cons, List.not_mem_nil, or_false] at known
    rcases known with rfl | rfl | rfl | rfl | rfl | rfl <;>
      exact ⟨_, _, rfl, by decide, by decide, by decide⟩

/-- A sign of a call is read back, when no star follows. -/
theorem readMark_of_mem_callMarks {sign : String} {tail : List Char} (known : sign ∈ callMarks)
    (ends : tail.head? ≠ some '*') : readMark (sign.toList ++ tail) = some (sign, tail) := by
  have noComment : Text.dropPrefix? ['*'] tail = none := by
    cases tail with
    | nil => rfl
    | cons next tail => exact if_neg fun same => ends (congrArg some same.symm)
  simp only [callMarks, List.mem_cons, List.not_mem_nil, or_false] at known
  rcases known with rfl | rfl | rfl | rfl | rfl | rfl <;>
    simp [readMark, refusedMarks, marks, Text.dropPrefix?, noComment]

/-- A text that starts with no quote and no minus is read as a number, a name or a sign. -/
theorem readPlain_eq (operand : Bool) {first : Char} (rest : List Char)
    (other : first ∉ ['"', '\'', '-']) :
    readPlain operand (first :: rest) =
      if first.isDigit then do
        let (value, after) ← readNumber false (first :: rest)
        return (literal value, after)
      else if isWordCharacter first then
        let (name, after) := (first :: rest).span isWordCharacter
        if isName name then some (word (String.ofList name), after) else none
      else do
        let (found, after) ← readMark (first :: rest)
        return (mark found, after) := by
  simp only [List.mem_cons, List.not_mem_nil, or_false, not_or] at other
  rw [readPlain.eq_def]
  split
  · contradiction
  · rename_i same
    exact absurd (List.cons.inj same).1 other.1
  · rename_i same
    exact absurd (List.cons.inj same).1 other.2.1
  · rename_i same
    exact absurd (List.cons.inj same).1 other.2.2
  · rename_i same
    cases same
    rfl

/-- A text that starts with no word, number, text or minus is read as a sign. -/
theorem readPlain_of_readMark {first : Char} {rest tail : List Char} {sign : String}
    (operand : Bool) (noWord : isWordCharacter first = false)
    (other : first ∉ ['"', '\'', '-']) (reads : readMark (first :: rest) = some (sign, tail)) :
    readPlain operand (first :: rest) = some (mark sign, tail) := by
  have noDigit : first.isDigit = false := by
    simp only [isWordCharacter, Char.isAlphanum, Bool.or_eq_false_iff] at noWord
    exact noWord.1.2
  rw [readPlain_eq operand rest other]
  simp [noDigit, noWord, reads]

/-- A token is read back where it ends. -/
theorem readPlain_of_written {token : Token} {text tail : List Char} (operand : Bool)
    (written : IsWritten token text) (ends : token.endsBefore tail = true) :
    readPlain operand (text ++ tail) = some (token, tail) := by
  cases written with
  | word name inside =>
    obtain ⟨first, rest, rfl, noDigit⟩ := exists_of_isName name
    have part : isWordCharacter first = true := inside first List.mem_cons_self
    have run : ((first :: rest) ++ tail).span isWordCharacter = (first :: rest, tail) :=
      Stencil.Token.span_append inside ends
    have differs (sign : Char) (outside : isWordCharacter sign = false) : first ≠ sign := by
      rintro rfl
      rw [part] at outside
      cases outside
    have other : first ∉ ['"', '\'', '-'] := by
      simp only [List.mem_cons, List.not_mem_nil, or_false, not_or]
      exact ⟨differs _ (by decide), differs _ (by decide), differs _ (by decide)⟩
    rw [List.cons_append] at run ⊢
    rw [readPlain_eq operand _ other, run, noDigit, if_neg Bool.false_ne_true, if_pos part]
    exact if_pos name
  | @text content text writes =>
    have enough : content.length < ('"' :: (text ++ ['"']) ++ tail).length := by
      have shorter := writes.length_le
      simp only [List.length_append, List.length_cons]
      omega
    have noQuote : tail.head? ≠ some '"' := by
      intro quote
      rw [endsBefore, quote] at ends
      cases ends
    have reads := readQuoted_of_writesText writes enough noQuote
    rw [List.cons_append, List.append_assoc] at reads ⊢
    rw [readPlain.eq_def]
    exact (congrArg (· >>= _) reads).trans rfl
  | @mark sign known =>
    have noStar : tail.head? ≠ some '*' := by
      intro star
      rw [endsBefore, star] at ends
      cases ends
    have reads := readMark_of_mem_callMarks known noStar
    simp only [callMarks, List.mem_cons, List.not_mem_nil, or_false] at known
    rcases known with rfl | rfl | rfl | rfl | rfl | rfl <;>
      exact readPlain_of_readMark operand (by decide) (by decide) reads

/-- A character that starts no comment is skipped when it is blank. -/
theorem skipIdle_cons (length : Nat) {first : Char} (rest : List Char) (noSlash : first ≠ '/') :
    skipIdle (length + 1) (first :: rest) =
      if Text.isBlank first then skipIdle length rest else first :: rest := by
  rw [skipIdle.eq_def]
  split
  · contradiction
  · rename_i same
    exact absurd (List.cons.inj same).1 noSlash
  · rename_i same
    exact absurd (List.cons.inj same).1 noSlash
  · rename_i fewer same
    cases fewer
    cases same
    rfl
  · contradiction

/-- Blanks in front of a text that starts with none, and with no comment, are skipped. -/
theorem skipIdle_append {blanks text : List Char} {length : Nat}
    (blank : ∀ character ∈ blanks, Text.isBlank character = true) (enough : blanks.length < length)
    (stops : text.head?.all (fun next => !Text.isBlank next && next ≠ '/') = true) :
    skipIdle length (blanks ++ text) = text := by
  induction blanks generalizing length with
  | nil =>
    obtain ⟨length, rfl⟩ := Nat.exists_eq_succ_of_ne_zero (Nat.ne_of_gt enough)
    cases text with
    | nil => rfl
    | cons first rest =>
      simp only [List.head?_cons, Option.all_some, Bool.and_eq_true, Bool.not_eq_true',
        decide_eq_true_eq] at stops
      rw [List.nil_append, skipIdle_cons length rest stops.2, stops.1, if_neg Bool.false_ne_true]
  | cons first blanks ih =>
    obtain ⟨length, rfl⟩ := Nat.exists_eq_succ_of_ne_zero (Nat.ne_zero_of_lt enough)
    have leading := blank first List.mem_cons_self
    have noSlash : first ≠ '/' := by
      rintro rfl
      exact absurd leading (by decide)
    rw [List.cons_append, skipIdle_cons length _ noSlash, if_pos leading]
    exact ih (fun character member => blank character (List.mem_cons_of_mem first member))
      (Nat.lt_of_succ_lt_succ enough)

/-- A text that writes tokens is read into them. -/
theorem readAll_of_writes {tokens : List Token} {text : List Char} (writes : Writes tokens text)
    {length : Nat} (enough : text.length < length) (depth : Nat) (operand : Bool) :
    readAll length false depth operand text = some (tokens, []) := by
  induction writes generalizing length depth operand with
  | @done blanks blank =>
    obtain ⟨length, rfl⟩ := Nat.exists_eq_succ_of_ne_zero (Nat.ne_zero_of_lt enough)
    have skipped : skipIdle (length + 1) blanks = [] := by
      have skips := @skipIdle_append blanks [] (length + 1) blank enough rfl
      rwa [List.append_nil] at skips
    rw [readAll, skipped]
    rfl
  | @token first tokens text tail blanks blank written ends others ih =>
    obtain ⟨length, rfl⟩ := Nat.exists_eq_succ_of_ne_zero (Nat.ne_zero_of_lt enough)
    obtain ⟨start, rest, rfl, noBlank, noSlash, noBacktick⟩ := written.head
    have reads := readPlain_of_written operand written ends
    have skipped : skipIdle (length + 1) (blanks ++ (start :: rest ++ tail)) =
        start :: rest ++ tail := by
      refine skipIdle_append blank ?_ (by simp [noBlank, noSlash])
      simp only [List.length_append] at enough
      omega
    have later : readAll length false (depthAfter depth first) first.endsOperand tail =
        some (tokens, []) := by
      refine ih ?_ _ _
      simp only [List.length_append, List.length_cons] at enough
      omega
    rw [readAll, skipped]
    rw [List.cons_append] at reads ⊢
    simp [noBacktick, reads, later]

/-- The tokens of a script that writes tokens are these. -/
theorem ofText_of_writes {tokens : List Token} {text : String}
    (writes : Writes tokens text.toList) : ofText text = some tokens := by
  rw [ofText, readAll_of_writes writes]
  · rfl
  · rw [String.length_toList]
    exact Nat.lt_succ_self _

/-- A text has at least one character for every token it writes. -/
theorem Writes.length_le {tokens : List Token} {text : List Char} (writes : Writes tokens text) :
    tokens.length ≤ text.length := by
  induction writes with
  | done blank => exact Nat.zero_le _
  | token blanks blank written ends others ih =>
    obtain ⟨first, rest, rfl, -⟩ := written.head
    simp only [List.length_cons, List.length_append]
    omega

/-- How a token of a call is written, with escapes for the characters that need one. -/
def spelling : Token → List Char
  | word text => text.toList
  | literal (.string text) => '"' :: (text.toList.flatMap Stencil.Token.escaped ++ ['"'])
  | mark sign => sign.toList
  | _ => []

/-- Whether a token can stand in a call. -/
def hasSpelling : Token → Bool
  | word text => isName text.toList && text.toList.all isWordCharacter
  | literal (.string _) => true
  | mark sign => callMarks.contains sign
  | _ => false

/-- The text of tokens with a space behind each of them. -/
def spaced : List Token → List Char
  | [] => []
  | first :: others => first.spelling ++ ' ' :: spaced others

/-- A content is written with escapes. -/
theorem writesText_escaped (content : List Char) :
    WritesText content (content.flatMap Stencil.Token.escaped) := by
  induction content with
  | nil => exact .nil
  | cons first content ih =>
    rw [List.flatMap_cons]
    by_cases special : first = '\n' ∨ first = '\t' ∨ first = '\r' ∨ first = '"' ∨ first = '\\'
    · rcases special with rfl | rfl | rfl | rfl | rfl
      · exact @WritesText.escape _ ['n'] _ _ (fun _ => rfl) ih
      · exact @WritesText.escape _ ['t'] _ _ (fun _ => rfl) ih
      · exact @WritesText.escape _ ['r'] _ _ (fun _ => rfl) ih
      · exact @WritesText.escape _ ['"'] _ _ (fun _ => rfl) ih
      · exact @WritesText.escape _ ['\\'] _ _ (fun _ => rfl) ih
    · simp only [not_or] at special
      obtain ⟨noLineEnd, noTab, noReturn, noQuote, noBackslash⟩ := special
      have plain : Stencil.Token.escaped first = [first] := by
        simp [Stencil.Token.escaped, noLineEnd, noTab, noReturn, noQuote, noBackslash]
      rw [plain]
      exact .plain noQuote noBackslash noLineEnd ih

/-- A token is written by its spelling. -/
theorem isWritten_spelling {token : Token} (spelled : token.hasSpelling = true) :
    IsWritten token token.spelling := by
  cases token with
  | word text =>
    rw [hasSpelling, Bool.and_eq_true, List.all_eq_true] at spelled
    have written := IsWritten.word spelled.1 spelled.2
    rwa [String.ofList_toList] at written
  | literal value =>
    cases value with
    | string text =>
      have written := IsWritten.text (writesText_escaped text.toList)
      rwa [String.ofList_toList] at written
    | _ => cases spelled
  | joined parts => cases spelled
  | mark sign => exact .mark (List.contains_iff_mem.mp spelled)

/-- Every token ends before a space. -/
theorem endsBefore_space (token : Token) (tail : List Char) :
    token.endsBefore (' ' :: tail) = true := by
  cases token <;> rfl

/-- A blank may be put in front of a text that writes tokens. -/
theorem Writes.blank_cons {tokens : List Token} {text : List Char} (writes : Writes tokens text)
    {blank : Char} (isBlank : Text.isBlank blank = true) : Writes tokens (blank :: text) := by
  cases writes with
  | done blanks => exact .done (by simpa [isBlank] using blanks)
  | token blanks isBlanks written ends others =>
    exact .token (blank :: blanks) (by simpa [isBlank] using isBlanks) written ends others

/-- Tokens with spaces behind them are written. -/
theorem writes_spaced {tokens : List Token}
    (spelled : ∀ token ∈ tokens, token.hasSpelling = true) : Writes tokens (spaced tokens) := by
  induction tokens with
  | nil => exact .done (by simp [spaced])
  | cons first others ih =>
    have later := ih fun token member => spelled token (List.mem_cons_of_mem first member)
    exact .token [] (by simp) (isWritten_spelling (spelled first List.mem_cons_self))
      (endsBefore_space first _) (later.blank_cons (by decide))

end Token

end Stencil.Script
