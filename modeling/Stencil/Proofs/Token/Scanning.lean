import Stencil.Proofs.Token.Places
import Stencil.Template.Token.Scanner

/-!
# Scanning and reading

The scanner passes characters one by one and counts lines and columns as it goes; the lexer takes
whole pieces off the front of its text and moves its position over each of them. The main statement
follows a scanner through any number of calls, past every error: what it has passed is the front of
its text, its count is the position behind that front, each call passes the blanks and then some
character of a token, and the end is found exactly when only blanks are left.
-/

namespace Stencil

namespace Scanner

/-- What one routine does to a scanner: it passes some text at the front, and counts it. -/
structure Passes (scanner : Scanner) (taken : List Char) (after : Scanner) : Prop where
  /-- The text is taken off the front. -/
  rest : scanner.rest = taken ++ after.rest
  /-- The position is the one behind the text. -/
  position : after.position = scanner.position.advance taken
  /-- Where the token starts is not touched. -/
  start : after.start = scanner.start
  /-- Nor whether it stands behind a dot. -/
  afterDot : after.afterDot = scanner.afterDot

variable {scanner : Scanner}

/-- A routine that does nothing passes nothing. -/
theorem Passes.refl (scanner : Scanner) : Passes scanner [] scanner := ⟨rfl, rfl, rfl, rfl⟩

/-- Two routines in a row pass two texts in a row. -/
theorem Passes.trans {middle after : Scanner} {first second : List Char}
    (former : Passes scanner first middle) (latter : Passes middle second after) :
    Passes scanner (first ++ second) after where
  rest := by rw [former.rest, latter.rest, List.append_assoc]
  position := by rw [latter.position, former.position, Position.advance_append]
  start := latter.start.trans former.start
  afterDot := latter.afterDot.trans former.afterDot

/-- One character is passed and counted: a line feed by the line, every other by the column. -/
theorem passes_bump {character : Char} {others : List Char}
    (front : scanner.rest = character :: others) : Passes scanner [character] scanner.bump := by
  obtain ⟨rest, line, column, start, afterDot⟩ := scanner
  obtain rfl : rest = character :: others := front
  by_cases feed : character = '\n'
  · simp only [bump, if_pos feed]
    exact ⟨rfl, by simp [position, Position.next, feed], rfl, rfl⟩
  · simp only [bump, if_neg feed]
    exact ⟨rfl, by simp [position, Position.next, feed], rfl, rfl⟩

/-- One character and what another routine passes behind it. -/
theorem Passes.cons {character : Char} {others taken : List Char} {after : Scanner}
    (front : scanner.rest = character :: others) (later : Passes scanner.bump taken after) :
    Passes scanner (character :: taken) after :=
  (passes_bump front).trans later

/-- The longest run of a kind is passed. -/
theorem passes_readWhile (isKind : Char → Bool) (scanner : Scanner) :
    (scanner.readWhile isKind).1 = scanner.rest.takeWhile isKind ∧
      Passes scanner (scanner.rest.takeWhile isKind) (scanner.readWhile isKind).2 := by
  fun_induction readWhile isKind scanner with
  | case1 scanner front =>
    rw [front]
    exact ⟨rfl, .refl scanner⟩
  | case2 scanner character others front kind run after read ih =>
    rw [read, rest_bump, front] at ih
    rw [front, List.takeWhile_cons_of_pos kind]
    exact ⟨congrArg (character :: ·) ih.1, .cons front ih.2⟩
  | case3 scanner character others front other =>
    rw [front, List.takeWhile_cons_of_neg other]
    exact ⟨rfl, .refl scanner⟩

/-- Behind the longest run of a kind stands what the run leaves. -/
theorem rest_readWhile (isKind : Char → Bool) (scanner : Scanner) :
    (scanner.readWhile isKind).2.rest = scanner.rest.dropWhile isKind := by
  have whole := (passes_readWhile isKind scanner).2.rest
  have cut : scanner.rest.takeWhile isKind ++ scanner.rest.dropWhile isKind = scanner.rest :=
    List.takeWhile_append_dropWhile
  exact (List.append_cancel_left (cut.trans whole)).symm

/-- A string literal is read as from its text. -/
theorem passes_readQuoted {quote : Char} (notBackslash : quote ≠ '\\') (scanner : Scanner) :
    (scanner.readQuoted quote).1 = (Token.readQuoted quote scanner.rest).1 ∧
      Passes scanner (Token.readQuoted quote scanner.rest).2.1 (scanner.readQuoted quote).2 := by
  fun_induction readQuoted quote scanner with
  | case1 scanner front =>
    rw [front]
    exact ⟨rfl, .refl scanner⟩
  | case2 scanner others front =>
    have closed : Token.readQuoted quote (quote :: others) = (some [], [quote], others) := by
      rw [Token.readQuoted.eq_3 quote quote others fun _ _ same _ => notBackslash same, if_pos rfl]
    rw [front, closed]
    exact ⟨rfl, passes_bump front⟩
  | case3 scanner other front seen =>
    simp only [front, Token.readQuoted, other, reduceIte]
    exact ⟨trivial, passes_bump front⟩
  | case4 scanner escape others content after read other front seen ih =>
    have behind : scanner.bump.rest = escape :: others := by rw [rest_bump, front, List.tail_cons]
    rw [read, rest_bump, behind, List.tail_cons] at ih
    rw [front, Token.readQuoted]
    exact ⟨congrArg (Option.map (Token.unescaped escape :: ·)) ih.1,
      .cons front (.cons behind ih.2)⟩
  | case5 scanner character others front notQuote notEscape content after read ih =>
    rw [read, rest_bump, front, List.tail_cons] at ih
    have plain : Token.readQuoted quote (character :: others) =
        ((Token.readQuoted quote others).1.map (character :: ·),
          character :: (Token.readQuoted quote others).2.1,
          (Token.readQuoted quote others).2.2) := by
      rw [Token.readQuoted.eq_3 quote character others fun _ _ same _ => notEscape same,
        if_neg notQuote, if_neg notEscape]
    rw [front, plain]
    exact ⟨congrArg (Option.map (character :: ·)) ih.1, .cons front ih.2⟩

/-- What a routine makes of the front of its text is what reading makes of it, and it passes what
reading takes. -/
def Agrees (scanner : Scanner) (result : Except SyntaxFault Token × Scanner)
    (reading : Token.Reading) : Prop :=
  result.1 = reading.outcome ∧ Passes scanner reading.taken result.2

/-- A fraction is a point and digits behind it, and none follows an index behind a dot. -/
theorem fraction?_eq (afterDot : Bool) (text : List Char) :
    (if afterDot then none else Token.fraction? text) =
      if !afterDot && text.head? = some '.' && text.tail.head?.any Char.isDigit then
        some (text.tail.span Char.isDigit)
      else none := by
  cases afterDot with
  | true => rfl
  | false =>
    simp only [Bool.not_false, Bool.true_and, Bool.false_eq_true, reduceIte]
    unfold Token.fraction?
    split
    · simp
    · rename_i other
      rw [if_neg]
      intro goesOn
      obtain ⟨point, digit⟩ := (Bool.and_eq_true _ _).mp goesOn
      obtain ⟨others, rfl⟩ := List.head?_eq_some_iff.mp (of_decide_eq_true point)
      cases others with
      | nil => cases digit
      | cons second others => exact other second others rfl

/-- A number is read as from its text. -/
theorem agrees_readNumber (scanner : Scanner) :
    Agrees scanner scanner.readNumber (Token.readNumber scanner.afterDot scanner.rest) := by
  obtain ⟨whole, passes⟩ := passes_readWhile Char.isDigit scanner
  have left := rest_readWhile Char.isDigit scanner
  rcases run : scanner.readWhile Char.isDigit with ⟨digits, behind⟩
  rw [run] at whole passes left
  simp only [readNumber, Token.readNumber, run, List.span_eq_takeWhile_dropWhile, ← whole, ← left,
    fraction?_eq, ← passes.afterDot, peek, peekSecond]
  rw [← whole] at passes
  split_ifs with goesOn
  · simp only [Bool.and_eq_true, decide_eq_true_eq] at goesOn
    obtain ⟨others, front⟩ := List.head?_eq_some_iff.mp goesOn.1.2
    obtain ⟨fraction, passesFraction⟩ := passes_readWhile Char.isDigit behind.bump
    rw [rest_bump] at fraction passesFraction
    rw [fraction]
    exact ⟨rfl, passes.trans (.cons front passesFraction)⟩
  · exact ⟨rfl, passes⟩

/-- A word is read as from its text. -/
theorem agrees_readWord (scanner : Scanner) :
    Agrees scanner scanner.readWord (Token.readWord scanner.afterDot scanner.rest) := by
  obtain ⟨word, passes⟩ := passes_readWhile Text.continuesWord scanner
  simp only [readWord, Token.readWord, List.span_eq_takeWhile_dropWhile, word]
  exact ⟨rfl, passes⟩

/-- A character that is a symbol wherever it stands is read as that symbol. -/
theorem spelling_single {first : Char} {found : Symbol} (alone : single? first = some found) :
    found.spelling.toList = [first] ∧
      ∀ next, (Token.symbol found).isExtendedBy next = false := by
  unfold single? at alone
  split at alone
  case h_12 => cases alone
  all_goals
    cases alone
    exact ⟨rfl, fun _ => rfl⟩

/-- A character of two symbols is spelled alone as one of them, and with an equality sign as the
other. -/
theorem spelling_paired {first : Char} {double alone : Symbol}
    (pair : paired? first = some (double, alone)) :
    double.spelling.toList = [first, '='] ∧ alone.spelling.toList = [first] ∧
      (∀ next, (Token.symbol double).isExtendedBy next = false) ∧
      ∀ next, (Token.symbol alone).isExtendedBy next = (next == '=') := by
  unfold paired? at pair
  split at pair
  case h_5 => cases pair
  all_goals
    cases pair
    exact ⟨rfl, rfl, fun _ => rfl, fun _ => rfl⟩

/-- The first character of a symbol tells what symbols it may start. -/
theorem symbol_front (found : Symbol) : found = .both ∨
    ∃ first others, found.spelling.toList = first :: others ∧
      (single? first ≠ none ∨ paired? first ≠ none) := by
  cases found
  case both => exact Or.inl rfl
  all_goals exact Or.inr ⟨_, _, rfl, by decide⟩

/-- A text starts with no symbol when its first character starts none. -/
theorem symbol?_eq_none {first : Char} {others : List Char} (notSingle : single? first = none)
    (notPaired : paired? first = none) (notBoth : ¬(first = '&' ∧ others.head? = some '&')) :
    Token.symbol? (first :: others) = none := by
  cases front : Token.symbol? (first :: others) with
  | none => rfl
  | some read =>
    exfalso
    obtain ⟨found, rest⟩ := read
    have written := Token.eq_of_symbol? front
    rcases symbol_front found with rfl | ⟨start, tail, spelled, starts⟩
    · obtain ⟨rfl, rfl⟩ := List.cons.inj written
      exact notBoth ⟨rfl, rfl⟩
    · rw [spelled] at written
      obtain ⟨rfl, -⟩ := List.cons.inj written
      exact starts.elim (· notSingle) (· notPaired)

/-- A symbol of one character is read where it stands, when what follows does not go on with it. -/
theorem agrees_one {first : Char} {others : List Char} {found : Symbol}
    (front : scanner.rest = first :: others) (spelled : found.spelling.toList = [first])
    (ends : (Token.symbol found).endsBefore others = true) :
    Agrees scanner (.ok (.symbol found), scanner.bump)
      (Token.read scanner.afterDot scanner.rest) := by
  have reads := Token.read_symbol scanner.afterDot found ends
  rw [spelled] at reads
  rw [show scanner.rest = [first] ++ others from front, reads]
  exact ⟨rfl, passes_bump front⟩

/-- A symbol of two characters is read where both stand, since nothing goes on with it. -/
theorem agrees_two {first second : Char} {others : List Char} {found : Symbol}
    (front : scanner.rest = first :: second :: others)
    (spelled : found.spelling.toList = [first, second])
    (complete : ∀ next, (Token.symbol found).isExtendedBy next = false) :
    Agrees scanner (.ok (.symbol found), scanner.bump.bump)
      (Token.read scanner.afterDot scanner.rest) := by
  have behind : scanner.bump.rest = second :: others := by rw [rest_bump, front, List.tail_cons]
  have ends : (Token.symbol found).endsBefore others = true := by
    cases others <;> simp [Token.endsBefore, complete]
  have reads := Token.read_symbol scanner.afterDot found ends
  rw [spelled] at reads
  rw [show scanner.rest = [first, second] ++ others from front, reads]
  exact ⟨rfl, .cons front (passes_bump behind)⟩

/-- The token in front is read as from the text. -/
theorem agrees_read (scanner : Scanner) :
    Agrees scanner scanner.read (Token.read scanner.afterDot scanner.rest) := by
  unfold read
  split
  · rename_i ended
    rw [List.head?_eq_none_iff.mp ended]
    exact ⟨rfl, .refl scanner⟩
  · rename_i first seen
    obtain ⟨others, front⟩ := List.head?_eq_some_iff.mp seen
    have behind : scanner.bump.rest = others := by rw [rest_bump, front, List.tail_cons]
    split
    · rename_i found alone
      obtain ⟨spelled, complete⟩ := spelling_single alone
      exact agrees_one front spelled (by cases others <;> simp [Token.endsBefore, complete])
    · rename_i double alone notSingle pair
      obtain ⟨both, one, complete, extended⟩ := spelling_paired pair
      split_ifs with equals
      · obtain ⟨rest, second⟩ := List.head?_eq_some_iff.mp equals
        rw [behind] at second
        exact agrees_two (front.trans (congrArg (first :: ·) second)) both complete
      · refine agrees_one front one ?_
        rw [peek, behind] at equals
        cases others with
        | nil => rfl
        | cons next others => simpa [Token.endsBefore, extended] using equals
    · rename_i notSingle notPaired
      by_cases both : (first = '&' && scanner.peekSecond = some '&') = true
      · rw [if_pos both]
        obtain ⟨same, second⟩ := (Bool.and_eq_true _ _).mp both
        obtain ⟨rest, tail⟩ := List.head?_eq_some_iff.mp (of_decide_eq_true second)
        rw [front, List.tail_cons] at tail
        obtain rfl := of_decide_eq_true same
        exact agrees_two (front.trans (congrArg ('&' :: ·) tail)) rfl fun _ => rfl
      · rw [if_neg both]
        have noSymbol : Token.symbol? (first :: others) = none := by
          refine symbol?_eq_none notSingle notPaired fun same => both ?_
          simp [peekSecond, front, same]
        rw [front, Token.read, noSymbol]
        split_ifs with isQuote digit starts
        · have notBackslash : first ≠ '\\' := by
            rintro rfl
            exact absurd isQuote (by decide)
          obtain ⟨content, passes⟩ := passes_readQuoted notBackslash scanner.bump
          rw [behind] at content passes
          cases closed : (scanner.bump.readQuoted first).1 with
          | none =>
            simp only [← content, closed]
            exact ⟨rfl, .cons front passes⟩
          | some characters =>
            simp only [← content, closed]
            exact ⟨rfl, .cons front passes⟩
        · rw [← front]
          exact agrees_readNumber scanner
        · rw [← front]
          exact agrees_readWord scanner
        · exact ⟨rfl, passes_bump front⟩

/-- The lexer that stands where a scanner stands. -/
def lexer (scanner : Scanner) : Lexer := ⟨scanner.rest, scanner.position, scanner.afterDot⟩

/-- A call of the scanner is a call of the lexer that stands there. -/
theorem next_lexer (scanner : Scanner) :
    scanner.lexer.next = ⟨scanner.next.1, scanner.next.2.start, scanner.next.2.lexer⟩ := by
  obtain ⟨-, passesBlanks⟩ := passes_readWhile Text.isBlank scanner
  have left := rest_readWhile Text.isBlank scanner
  rcases run : scanner.readWhile Text.isBlank with ⟨blanks, behind⟩
  rw [run] at passesBlanks left
  rcases reads : { behind with start := behind.position }.read with ⟨outcome, after⟩
  obtain ⟨same, passes⟩ := agrees_read { behind with start := behind.position }
  rw [reads] at same passes
  dsimp only at left same passes
  have listed := Token.reads_read behind.afterDot behind.rest
  have rest : (Token.read behind.afterDot behind.rest).rest = after.rest :=
    List.append_cancel_left (listed.taken_append_rest.trans passes.rest)
  simp only [Lexer.next, lexer, List.span_eq_takeWhile_dropWhile, ← left, ← passesBlanks.afterDot,
    ← passesBlanks.position, next, run, reads, ← same, rest]
  have position : after.position =
      behind.position.advance (Token.read behind.afterDot behind.rest).taken := passes.position
  have afterDot : after.afterDot = behind.afterDot := passes.afterDot
  have start : after.start = behind.position := passes.start
  cases outcome with
  | ok token =>
    simp only [← position, start]
    rfl
  | error fault => simp only [← position, afterDot, start]

/-! ## One call -/

/-- One call passes the blanks in front and then the text of a token, or of what is none. -/
structure Call (scanner : Scanner) (blanks taken : List Char) : Prop where
  /-- Both texts are taken off the front. -/
  rest : scanner.rest = blanks ++ (taken ++ scanner.next.2.rest)
  /-- The first is blank. -/
  blank : ∀ character ∈ blanks, Text.isBlank character = true
  /-- No blank is left in front of the second. -/
  solid : (taken ++ scanner.next.2.rest).head?.all (fun next => !Text.isBlank next) = true
  /-- The token starts behind the blanks. -/
  start : scanner.next.2.start = scanner.position.advance blanks
  /-- The next character stands behind the token. -/
  position : scanner.next.2.position = scanner.next.2.start.advance taken
  /-- The end is found where nothing stands behind the blanks. -/
  ended : scanner.next.1 = .ok .finish ↔ taken ++ scanner.next.2.rest = []
  /-- Otherwise some character is passed. -/
  nonempty : scanner.next.1 ≠ .ok .finish → taken ≠ []

/-- A call tells and takes what is read behind the blanks. -/
theorem next_eq {blanks text : List Char} (parts : scanner.rest = blanks ++ text)
    (blank : ∀ character ∈ blanks, Text.isBlank character = true)
    (solid : text.head?.all (fun next => !Text.isBlank next) = true) {reading : Token.Reading}
    (read : Token.read scanner.afterDot text = reading) :
    scanner.next.1 = reading.outcome.mapError (⟨·, scanner.position.advance blanks⟩) ∧
      scanner.next.2.rest = reading.rest ∧
      scanner.next.2.start = scanner.position.advance blanks ∧
      scanner.next.2.position = (scanner.position.advance blanks).advance reading.taken := by
  have called := next_lexer scanner
  rw [lexer, parts, Lexer.next_eq blank solid read] at called
  cases outcome : reading.outcome with
  | ok token =>
    simp only [outcome, lexer, Lexer.Step.mk.injEq, Lexer.mk.injEq] at called
    obtain ⟨told, start, rest, position, -⟩ := called
    exact ⟨told.symm, rest.symm, start.symm, position.symm⟩
  | error fault =>
    simp only [outcome, lexer, Lexer.Step.mk.injEq, Lexer.mk.injEq] at called
    obtain ⟨told, start, rest, position, -⟩ := called
    exact ⟨told.symm, rest.symm, start.symm, position.symm⟩

/-- Every call is one of these. -/
theorem exists_call (scanner : Scanner) : ∃ blanks taken, Call scanner blanks taken := by
  have blank : ∀ character ∈ scanner.rest.takeWhile Text.isBlank,
      Text.isBlank character = true := fun _ member => List.mem_takeWhile_imp member
  have solid := Token.head?_dropWhile Text.isBlank scanner.rest
  have parts : scanner.rest = scanner.rest.takeWhile Text.isBlank ++
      scanner.rest.dropWhile Text.isBlank := List.takeWhile_append_dropWhile.symm
  generalize scanner.rest.takeWhile Text.isBlank = blanks at blank parts
  generalize scanner.rest.dropWhile Text.isBlank = text at solid parts
  have reads := Token.reads_read scanner.afterDot text
  obtain ⟨told, rest, start, position⟩ := next_eq parts blank solid rfl
  have cut : (Token.read scanner.afterDot text).taken ++ scanner.next.2.rest = text := by
    rw [rest]
    exact reads.taken_append_rest
  have ended : scanner.next.1 = .ok .finish ↔ text = [] := by
    rw [told]
    constructor
    · intro finished
      refine reads.eq_nil_of_finish ?_
      cases outcome : (Token.read scanner.afterDot text).outcome with
      | ok token =>
        rw [outcome] at finished
        exact congrArg Except.ok (Except.ok.inj finished)
      | error fault =>
        rw [outcome] at finished
        cases finished
    · rintro rfl
      rfl
  refine ⟨blanks, (Token.read scanner.afterDot text).taken, ?_, blank, ?_, start, ?_, ?_, ?_⟩
  · rw [cut]
    exact parts
  · rw [cut]
    exact solid
  · rw [position, start]
  · rw [cut]
    exact ended
  · exact fun goesOn => reads.taken_ne_nil fun nothing => goesOn (ended.mpr nothing)

/-- The end is found exactly where only blanks are left. -/
theorem next_eq_finish_iff (scanner : Scanner) : scanner.next.1 = .ok .finish ↔
    ∀ character ∈ scanner.rest, Text.isBlank character = true := by
  obtain ⟨blanks, taken, call⟩ := exists_call scanner
  rw [call.ended, call.rest]
  constructor
  · intro nothing
    rw [nothing, List.append_nil]
    exact call.blank
  · intro blank
    cases left : taken ++ scanner.next.2.rest with
    | nil => rfl
    | cons first others =>
      have solid := call.solid
      rw [left] at blank solid
      have isBlank := blank first (List.mem_append_right blanks List.mem_cons_self)
      rw [List.head?_cons, Option.all_some, isBlank] at solid
      cases solid

/-! ## Any number of calls -/

/-- After some calls a front of the text is passed, and the position is the one behind it. -/
theorem exists_passed (scanner : Scanner) (calls : Nat) : ∃ passed,
    scanner.rest = passed ++ (scanner.after calls).rest ∧
      (scanner.after calls).position = scanner.position.advance passed := by
  induction calls generalizing scanner with
  | zero => exact ⟨[], rfl, rfl⟩
  | succ calls ih =>
    obtain ⟨blanks, taken, call⟩ := exists_call scanner
    obtain ⟨passed, rest, position⟩ := ih scanner.next.2
    refine ⟨blanks ++ (taken ++ passed), ?_, ?_⟩
    · rw [after, List.append_assoc, List.append_assoc, ← rest]
      exact call.rest
    · rw [after, position, call.position, call.start, Position.advance_append,
        Position.advance_append]

/-- The end is found by every call behind one that has found it. -/
theorem next_after_of_finish (finished : scanner.next.1 = .ok .finish) (calls : Nat) :
    (scanner.after calls).next.1 = .ok .finish := by
  obtain ⟨passed, rest, -⟩ := exists_passed scanner calls
  rw [next_eq_finish_iff, rest] at finished
  rw [next_eq_finish_iff]
  exact fun character member => finished character (List.mem_append_right passed member)

/-- A call that does not find the end leaves less text. -/
theorem length_rest_next (goesOn : scanner.next.1 ≠ .ok .finish) :
    scanner.next.2.rest.length < scanner.rest.length := by
  obtain ⟨blanks, taken, call⟩ := exists_call scanner
  have positive := List.length_pos_iff.mpr (call.nonempty goesOn)
  have lengths := congrArg List.length call.rest
  simp only [List.length_append] at lengths
  omega

/-- The lexer stops with the call that finds the end. -/
theorem steps_lexer_of_finish (finished : scanner.next.1 = .ok .finish) :
    scanner.lexer.steps = [scanner.lexer.next] := by
  rw [Lexer.steps]
  simp only [next_lexer, finished, ite_self]

/-- Behind every other call the lexer goes on where the scanner does. -/
theorem steps_lexer_of_ne_finish (goesOn : scanner.next.1 ≠ .ok .finish) :
    scanner.lexer.steps = scanner.lexer.next :: scanner.next.2.lexer.steps := by
  have shorter : scanner.next.2.lexer.rest.length < scanner.lexer.rest.length :=
    length_rest_next goesOn
  rw [Lexer.steps]
  simp only [next_lexer, if_pos shorter]

/-- The lexer's calls up to the end, past errors, are the scanner's: at most one for each character
and one for the end. -/
theorem exists_steps (scanner : Scanner) : ∃ calls ≤ scanner.rest.length,
    (scanner.after calls).next.1 = .ok .finish ∧
      scanner.lexer.steps =
        (List.range (calls + 1)).map fun before => (scanner.after before).lexer.next := by
  induction size : scanner.rest.length using Nat.strongRecOn generalizing scanner with
  | ind size ih =>
    by_cases finished : scanner.next.1 = .ok .finish
    · exact ⟨0, Nat.zero_le _, finished, steps_lexer_of_finish finished⟩
    · have shorter := length_rest_next finished
      obtain ⟨calls, bounded, found, steps⟩ := ih _ (size ▸ shorter) scanner.next.2 rfl
      refine ⟨calls + 1, by omega, found, ?_⟩
      rw [steps_lexer_of_ne_finish finished, steps, @List.range_succ_eq_map (calls + 1),
        List.map_cons, List.map_map]
      rfl

/-- A scanner starts where the lexer starts. -/
theorem lexer_starting (text : List Char) (position : Position) :
    (starting text position).lexer = Lexer.starting text position := by
  have column : position.column - 1 + 1 = max 1 position.column := by omega
  simp only [lexer, starting, Scanner.position, Lexer.starting, column]

/-- Counting starts at the position it is given. -/
theorem position_starting (text : List Char) {position : Position} (counted : 1 ≤ position.column) :
    (starting text position).position = position := by
  simp only [starting, Scanner.position, Nat.sub_add_cancel counted]

/-- However often a scanner is called, also past errors, it has passed a front of its text and
counted the position behind it. The next call passes the blanks in front, reports where they end,
and passes some character of what stands there, unless it finds the end; it finds the end exactly
when only blanks are left, and so does every call behind it. Within one call for each character and
one more the end is found, and these are the calls of the lexer. -/
theorem scans_whole_text (text : List Char) (position : Position) (counted : 1 ≤ position.column) :
    (∀ calls scanner, scanner = (starting text position).after calls →
      (∃ passed, text = passed ++ scanner.rest ∧
        scanner.position = position.advance passed) ∧
      (∃ blanks taken, scanner.rest = blanks ++ (taken ++ scanner.next.2.rest) ∧
        (∀ character ∈ blanks, Text.isBlank character = true) ∧
        (taken ++ scanner.next.2.rest).head?.all (fun next => !Text.isBlank next) = true ∧
        scanner.next.2.start = scanner.position.advance blanks ∧
        (scanner.next.1 ≠ .ok .finish → taken ≠ [])) ∧
      (scanner.next.1 = .ok .finish ↔
        ∀ character ∈ scanner.rest, Text.isBlank character = true) ∧
      (scanner.next.1 = .ok .finish → ∀ more, (scanner.after more).next.1 = .ok .finish)) ∧
    ∃ calls ≤ text.length, ((starting text position).after calls).next.1 = .ok .finish ∧
      (Lexer.starting text position).steps = (List.range (calls + 1)).map fun before =>
        let scanner := (starting text position).after before
        ⟨scanner.next.1, scanner.next.2.start, scanner.next.2.lexer⟩ := by
  refine ⟨?_, ?_⟩
  · rintro calls scanner rfl
    refine ⟨?_, ?_, next_eq_finish_iff _, next_after_of_finish⟩
    · obtain ⟨passed, rest, counts⟩ := exists_passed (starting text position) calls
      rw [position_starting text counted] at counts
      exact ⟨passed, rest, counts⟩
    · obtain ⟨blanks, taken, call⟩ := exists_call ((starting text position).after calls)
      exact ⟨blanks, taken, call.rest, call.blank, call.solid, call.start, call.nonempty⟩
  · obtain ⟨calls, bounded, found, steps⟩ := exists_steps (starting text position)
    rw [lexer_starting] at steps
    refine ⟨calls, bounded, found, steps.trans ?_⟩
    simp only [next_lexer]

/-- A name, a line break and a string that is never closed: the second call fails where the string
starts, and the third finds the end behind it. -/
theorem scans_whole_text_sample :
    let scanner := starting "x\n 'a".toList ⟨3, 7⟩
    1 ≤ 7 ∧ (scanner.after 1).next.1 = .error ⟨.unclosedString '\'', ⟨4, 2⟩⟩ ∧
      (∃ passed, "x\n 'a".toList = passed ++ (scanner.after 2).rest ∧
        (scanner.after 2).position = (⟨3, 7⟩ : Position).advance passed) ∧
      ∀ more, ((scanner.after 2).after more).next.1 = .ok .finish := by
  intro scanner
  have failed : (scanner.after 1).next.1 = .error ⟨.unclosedString '\'', ⟨4, 2⟩⟩ := by
    decide +kernel
  have finished : (scanner.after 2).next.1 = .ok .finish := by decide +kernel
  obtain ⟨passed, -, -, stays⟩ :=
    (scans_whole_text "x\n 'a".toList ⟨3, 7⟩ (by decide)).1 2 (scanner.after 2) rfl
  exact ⟨by decide, failed, passed, stays finished⟩

end Scanner

end Stencil
