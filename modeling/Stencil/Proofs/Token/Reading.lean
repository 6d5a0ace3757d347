import Mathlib.Data.List.TakeWhile
import Stencil.Proofs.Token.Spelling

/-!
# What a reading takes

Every reading takes a piece off the front of its text: a symbol, a string with its quotes, a number,
a word, or the character or the open string that it cannot make a token of. `Reads` lists these
pieces with what is made of them, and the main statement is that the lexer reads nothing else.
-/

namespace Stencil

namespace Token

/-- What follows an opening quote is cut into what the literal takes and the rest. -/
theorem taken_append_of_readQuoted {quote : Char} {text taken rest : List Char}
    {content : Option (List Char)} (reads : readQuoted quote text = (content, taken, rest)) :
    taken ++ rest = text := by
  fun_induction readQuoted quote text generalizing content taken rest with
  | case1 => cases reads; rfl
  | case2 escape others inside before behind read ih =>
    cases reads
    rw [← ih read]
    rfl
  | case3 | case4 => cases reads; rfl
  | case5 character others notEscape notQuote notBackslash inside before behind read ih =>
    cases reads
    rw [← ih read]
    rfl

/-- A fraction is a point with digits behind it. -/
theorem fraction?_eq_some {text fraction rest : List Char}
    (found : fraction? text = some (fraction, rest)) :
    text = '.' :: (fraction ++ rest) ∧ ∀ digit ∈ fraction, digit.isDigit = true := by
  unfold fraction? at found
  split at found
  · split at found
    · rename_i digit others isDigit
      rw [List.span_eq_takeWhile_dropWhile] at found
      cases found
      exact ⟨by rw [List.takeWhile_append_dropWhile], fun _ member => List.mem_takeWhile_imp member⟩
    · cases found
  · cases found

/-- A symbol is found where it is written. -/
theorem eq_of_symbol? {text rest : List Char} {found : Symbol}
    (starts : symbol? text = some (found, rest)) : text = found.spelling.toList ++ rest := by
  obtain ⟨candidate, -, matched⟩ := List.exists_of_findSome?_eq_some starts
  obtain ⟨after, dropped, same⟩ := Option.map_eq_some_iff.mp matched
  cases same
  exact Text.dropPrefix?_eq_some_iff.mp dropped

/-- The readings of a text without leading blanks. -/
inductive Reads (afterDot : Bool) : List Char → Reading → Prop
  /-- Nothing is left. -/
  | finish : Reads afterDot [] ⟨.ok finish, [], []⟩
  /-- A symbol. -/
  | symbol (found : Symbol) (rest : List Char) :
    Reads afterDot (found.spelling.toList ++ rest)
      ⟨.ok (symbol found), found.spelling.toList, rest⟩
  /-- A string that is closed. -/
  | string {quote : Char} {content taken rest : List Char} (isQuote : quote = '"' ∨ quote = '\'')
    (closed : readQuoted quote (taken ++ rest) = (some content, taken, rest)) :
    Reads afterDot (quote :: (taken ++ rest))
      ⟨.ok (string (String.ofList content)), quote :: taken, rest⟩
  /-- A string that is never closed. -/
  | unclosed {quote : Char} {taken rest : List Char} (isQuote : quote = '"' ∨ quote = '\'')
    (opened : readQuoted quote (taken ++ rest) = (none, taken, rest)) :
    Reads afterDot (quote :: (taken ++ rest)) ⟨.error (.unclosedString quote), quote :: taken, rest⟩
  /-- All digits in a row. -/
  | integer {digits rest : List Char} (nonempty : digits ≠ [])
    (areDigits : ∀ digit ∈ digits, digit.isDigit = true)
    (ends : rest.head?.all (fun next => !next.isDigit) = true) :
    Reads afterDot (digits ++ rest) ⟨integerOf digits, digits, rest⟩
  /-- Digits, a point and digits. -/
  | float {digits fraction : List Char} (rest : List Char) (number : Binary64)
    (nonempty : digits ≠ []) (areDigits : ∀ digit ∈ digits, digit.isDigit = true)
    (alsoDigits : ∀ digit ∈ fraction, digit.isDigit = true) :
    Reads afterDot ((digits ++ '.' :: fraction) ++ rest)
      ⟨.ok (float number), digits ++ '.' :: fraction, rest⟩
  /-- A word, which is a name behind a dot. -/
  | word {word : List Char} (rest : List Char) (nonempty : word ≠ [])
    (continues : ∀ character ∈ word, Text.continuesWord character = true) :
    Reads afterDot (word ++ rest)
      ⟨.ok (if afterDot then name (String.ofList word) else ofWord (String.ofList word)), word,
        rest⟩
  /-- A character that starts no token. -/
  | unexpected (character : Char) (rest : List Char) :
    Reads afterDot (character :: rest)
      ⟨.error (.unexpectedCharacter character), [character], rest⟩

/-- The rest behind the longest run of some characters starts with none of them. -/
theorem head?_dropWhile (holds : Char → Bool) (text : List Char) :
    (text.dropWhile holds).head?.all (fun next => !holds next) = true := by
  have stops := List.head?_dropWhile_not holds text
  cases tail : (text.dropWhile holds).head? with
  | none => rfl
  | some next =>
    rw [tail] at stops
    simpa using stops

/-- A number is read from its digits. -/
theorem reads_readNumber (afterDot : Bool) {first : Char} (rest : List Char)
    (isDigit : first.isDigit = true) :
    Reads afterDot (first :: rest) (readNumber afterDot (first :: rest)) := by
  have run : first :: rest = (first :: rest).takeWhile Char.isDigit ++
      (first :: rest).dropWhile Char.isDigit := List.takeWhile_append_dropWhile.symm
  have areDigits : ∀ digit ∈ (first :: rest).takeWhile Char.isDigit, digit.isDigit = true :=
    fun _ member => List.mem_takeWhile_imp member
  have nonempty : (first :: rest).takeWhile Char.isDigit ≠ [] := by simp [isDigit]
  simp only [readNumber, List.span_eq_takeWhile_dropWhile]
  split
  · rename_i fraction after found
    have matched : fraction? ((first :: rest).dropWhile Char.isDigit) = some (fraction, after) := by
      split at found
      · cases found
      · exact found
    obtain ⟨behind, alsoDigits⟩ := fraction?_eq_some matched
    have whole : first :: rest =
        ((first :: rest).takeWhile Char.isDigit ++ '.' :: fraction) ++ after := by
      rw [List.append_assoc, List.cons_append, ← behind]
      exact run
    have reads := @Reads.float afterDot _ fraction after
      (Binary64.ofDecimal false (decimalValue ((first :: rest).takeWhile Char.isDigit ++ fraction))
        (-fraction.length)) nonempty areDigits alsoDigits
    rwa [← whole] at reads
  · have reads : Reads afterDot _ _ := .integer nonempty areDigits
      (head?_dropWhile Char.isDigit (first :: rest))
    rwa [← run] at reads

/-- A word is read from its characters. -/
theorem reads_readWord (afterDot : Bool) {first : Char} (rest : List Char)
    (starts : Text.startsWord first = true) :
    Reads afterDot (first :: rest) (readWord afterDot (first :: rest)) := by
  have run : first :: rest = (first :: rest).takeWhile Text.continuesWord ++
      (first :: rest).dropWhile Text.continuesWord := List.takeWhile_append_dropWhile.symm
  have nonempty : (first :: rest).takeWhile Text.continuesWord ≠ [] := by
    simp [Text.continuesWord_of_startsWord starts]
  have reads : Reads afterDot _ _ := .word ((first :: rest).dropWhile Text.continuesWord) nonempty
    fun _ member => List.mem_takeWhile_imp member
  rw [← run] at reads
  rwa [readWord, List.span_eq_takeWhile_dropWhile]

/-- Every reading is one of those listed. -/
theorem reads_read (afterDot : Bool) (text : List Char) :
    Reads afterDot text (read afterDot text) := by
  cases text with
  | nil => exact .finish
  | cons first after =>
    rw [read]
    split
    · rename_i found rest starts
      have reads : Reads afterDot _ _ := .symbol found rest
      rwa [← eq_of_symbol? starts] at reads
    · split_ifs with quoted digit starts
      · have isQuote : first = '"' ∨ first = '\'' := by simpa using quoted
        rcases literal : readQuoted first after with ⟨content, taken, rest⟩
        obtain rfl := taken_append_of_readQuoted literal
        cases content with
        | none => exact .unclosed isQuote literal
        | some characters => exact .string isQuote literal
      · exact reads_readNumber afterDot after digit
      · exact reads_readWord afterDot after starts
      · exact .unexpected first after

variable {afterDot : Bool} {text : List Char} {reading : Reading}

/-- A reading takes its piece off the front of the text. -/
theorem Reads.taken_append_rest (reads : Reads afterDot text reading) :
    reading.taken ++ reading.rest = text := by
  cases reads <;> rfl

/-- A word never means the end of the tag. -/
theorem ofWord_ne_finish (word : String) : ofWord word ≠ finish := by
  unfold ofWord
  split_ifs
  · exact Token.noConfusion
  · exact Token.noConfusion
  · exact Token.noConfusion
  · split <;> exact Token.noConfusion

/-- A word that means a name spells it. -/
theorem eq_of_ofWord_eq_name {word text : String} (same : ofWord word = name text) :
    word = text := by
  unfold ofWord at same
  split_ifs at same
  split at same
  · cases same
  · exact Token.name.inj same

/-- The digits of an integer make no other token. -/
theorem integerOf_cases (digits : List Char) : (∃ number, integerOf digits = .ok (integer number)) ∨
    integerOf digits = .error (.integerOutOfRange (String.ofList digits)) := by
  unfold integerOf
  split
  · exact Or.inl ⟨_, rfl⟩
  · exact Or.inr rfl

/-- Only where nothing is left the end of the tag is read. -/
theorem Reads.eq_nil_of_finish (reads : Reads afterDot text reading)
    (ends : reading.outcome = .ok .finish) : text = [] := by
  cases reads with
  | finish => rfl
  | @integer digits rest nonempty areDigits stops =>
    rcases integerOf_cases digits with ⟨number, made⟩ | failed
    · rw [made] at ends
      cases ends
    · rw [failed] at ends
      cases ends
  | word =>
    split_ifs at ends
    · cases ends
    · exact absurd (Except.ok.inj ends) (ofWord_ne_finish _)
  | symbol | string | unclosed | float | unexpected => cases ends

/-- A word that means a keyword spells it. -/
theorem eq_spelling_of_ofWord {word : String} {found : Keyword}
    (same : ofWord word = keyword found) : word = found.spelling := by
  unfold ofWord at same
  split_ifs at same
  split at same
  · rename_i spelled
    cases same
    have same := List.find?_some spelled
    exact (beq_iff_eq.mp same).symm
  · cases same

/-- A keyword is read from its spelling. -/
theorem Reads.taken_eq_spelling {afterDot : Bool} {text : List Char} {reading : Reading}
    {found : Keyword} (reads : Reads afterDot text reading)
    (outcome : reading.outcome = .ok (keyword found)) : reading.taken = found.spelling.toList := by
  cases reads with
  | @integer digits rest nonempty areDigits stops =>
    rcases integerOf_cases digits with ⟨number, made⟩ | failed
    · rw [made] at outcome
      cases outcome
    · rw [failed] at outcome
      cases outcome
  | word =>
    split_ifs at outcome
    · cases outcome
    · rw [← eq_spelling_of_ofWord (Except.ok.inj outcome), String.toList_ofList]
  | finish | symbol | string | unclosed | float | unexpected => cases outcome

/-- A token for which something was taken is not the end of the tag. -/
theorem ne_finish_of_read {taken rest : List Char} {token : Token}
    (reads : read afterDot (taken ++ rest) = ⟨.ok token, taken, rest⟩) (nonempty : taken ≠ []) :
    token ≠ finish := by
  rintro rfl
  have listed := reads_read afterDot (taken ++ rest)
  rw [reads] at listed
  exact nonempty (List.append_eq_nil_iff.mp (listed.eq_nil_of_finish rfl)).1

/-- A symbol has a spelling. -/
theorem spelling_symbol_ne_nil (found : Symbol) : found.spelling.toList ≠ [] := by
  obtain ⟨first, others, written, -⟩ := symbol_head found
  rw [written]
  exact List.cons_ne_nil first others

/-- Where something is left a reading takes some of it. -/
theorem Reads.taken_ne_nil (reads : Reads afterDot text reading) (left : text ≠ []) :
    reading.taken ≠ [] := by
  cases reads with
  | finish => exact absurd rfl left
  | symbol found => exact spelling_symbol_ne_nil found
  | integer nonempty | word _ nonempty => exact nonempty
  | string | unclosed | unexpected => exact List.cons_ne_nil _ _
  | float => simp

end Token

end Stencil
