import Stencil.Proofs.Token.Reading
import Stencil.Template.Token.Stream

/-!
# Places in a stream of tokens

A place in a stream is given by how many tokens have been passed. The main statements are that what
stands at a place is what the lexer reads there, at the position of that text, and that a text has
the same tokens wherever it starts.
-/

namespace Stencil

namespace TokenStream

/-- The stream behind some tokens; the end and a fault are never passed. -/
def drop : Nat → TokenStream → TokenStream
  | passed + 1, token _ _ rest => rest.drop passed
  | _, stream => stream

/-- Streams of the same tokens up to the same end or fault, at any positions; no token in them is
itself the end. -/
def Alike : TokenStream → TokenStream → Prop
  | finish _, finish _ => True
  | fault error, fault other => error.fault = other.fault
  | token first _ rest, token second _ others =>
    first = second ∧ first ≠ .finish ∧ rest.Alike others
  | _, _ => False

/-- Whether all tokens up to the end can be read. -/
def isWhole : TokenStream → Bool
  | finish _ => true
  | fault _ => false
  | token _ _ rest => rest.isWhole

@[simp] theorem drop_zero (stream : TokenStream) : stream.drop 0 = stream := by
  cases stream <;> rfl

@[simp] theorem drop_finish (passed : Nat) (position : Position) :
    (finish position).drop passed = finish position := by
  cases passed <;> rfl

@[simp] theorem drop_fault (passed : Nat) (error : SyntaxError) :
    (fault error).drop passed = fault error := by
  cases passed <;> rfl

@[simp] theorem drop_token (passed : Nat) (first : Token) (position : Position)
    (rest : TokenStream) : (token first position rest).drop (passed + 1) = rest.drop passed := rfl

/-- Passing tokens and then others is passing all of them. -/
theorem drop_drop (stream : TokenStream) (first second : Nat) :
    (stream.drop first).drop second = stream.drop (first + second) := by
  induction first generalizing stream with
  | zero => simp
  | succ first ih =>
    rw [Nat.add_right_comm]
    cases stream with
    | finish | fault => simp
    | token => exact ih _

/-- A stream can be read to its end from any place on, when it can be read to its end. -/
theorem isWhole_drop (stream : TokenStream) (passed : Nat) :
    (stream.drop passed).isWhole = stream.isWhole := by
  induction passed generalizing stream with
  | zero => simp
  | succ passed ih =>
    cases stream with
    | finish | fault => simp
    | token => exact ih _

namespace Alike

variable {stream other : TokenStream}

/-- Streams that are alike have the same token in front. -/
theorem peek_eq (alike : stream.Alike other) : other.peek = stream.peek := by
  cases stream <;> cases other <;> first | rfl | exact alike.1.symm | cases alike

/-- Streams that are alike are equally long. -/
theorem size_eq (alike : stream.Alike other) : other.size = stream.size := by
  induction stream generalizing other with
  | finish | fault => cases other <;> first | rfl | cases alike
  | token first position rest ih =>
    cases other with
    | finish | fault => cases alike
    | token => simp only [size, ih alike.2.2]

/-- Streams that are alike are alike behind the same number of tokens. -/
theorem drop (alike : stream.Alike other) (passed : Nat) :
    (stream.drop passed).Alike (other.drop passed) := by
  induction passed generalizing stream other with
  | zero => simpa using alike
  | succ passed ih =>
    cases stream <;> cases other <;> first | exact ih alike.2.2 | exact alike | cases alike

/-- Streams that are alike can both be read to their ends or not. -/
theorem isWhole_eq (alike : stream.Alike other) : other.isWhole = stream.isWhole := by
  induction stream generalizing other with
  | finish | fault => cases other <;> first | rfl | cases alike
  | token first position rest ih =>
    cases other with
    | finish | fault => cases alike
    | token => simp only [isWhole, ih alike.2.2]

/-- A readable place where no token stands is the end. -/
theorem isWhole_of_peek (alike : stream.Alike other) (readable : stream.check = .ok stream)
    (ends : stream.peek = .finish) : stream.isWhole = true := by
  cases stream with
  | finish => rfl
  | fault => cases readable
  | token => cases other <;> first | exact absurd ends alike.2.1 | cases alike

/-- Streams that are alike can both be read or not. -/
theorem check_eq (alike : stream.Alike other) (readable : stream.check = .ok stream) :
    other.check = .ok other := by
  cases other with
  | finish | token => rfl
  | fault => cases stream <;> first | cases alike | cases readable

end Alike

/-- What stands in front of a stream is what is read from a text. -/
def Starts (afterDot : Bool) (text : List Char) : TokenStream → Prop
  | finish _ => text = []
  | fault error => (Token.read afterDot text).outcome = .error error.fault
  | token first _ _ => (Token.read afterDot text).outcome = .ok first

end TokenStream

/-- The stream a lexer makes of its text, token by token. -/
inductive Lexer.Lexes : Lexer → TokenStream → Prop
  /-- Only blanks are left. -/
  | finish {blanks : List Char} (blank : ∀ character ∈ blanks, Text.isBlank character = true)
    (position : Position) (afterDot : Bool) :
    Lexes ⟨blanks, position, afterDot⟩ (.finish (position.advance blanks))
  /-- Behind blanks stands something that is no token. -/
  | fault {blanks text : List Char} (blank : ∀ character ∈ blanks, Text.isBlank character = true)
    (solid : text.head?.all (fun next => !Text.isBlank next) = true) (position : Position)
    {afterDot : Bool} {refusal : SyntaxFault}
    (failed : (Token.read afterDot text).outcome = .error refusal) :
    Lexes ⟨blanks ++ text, position, afterDot⟩ (.fault ⟨refusal, position.advance blanks⟩)
  /-- Behind blanks stands a token, and behind that the others. -/
  | token {blanks taken rest : List Char}
    (blank : ∀ character ∈ blanks, Text.isBlank character = true)
    (solid : (taken ++ rest).head?.all (fun next => !Text.isBlank next) = true)
    {position : Position} {afterDot : Bool} {first : Token} {stream : TokenStream}
    (read : Token.read afterDot (taken ++ rest) = ⟨.ok first, taken, rest⟩) (nonempty : taken ≠ [])
    (others : Lexes ⟨rest, (position.advance blanks).advance taken, first = .symbol .dot⟩ stream) :
    Lexes ⟨blanks ++ (taken ++ rest), position, afterDot⟩
      (.token first (position.advance blanks) stream)

namespace Lexer

variable {blanks text taken rest : List Char} {position : Position} {afterDot : Bool}

/-- A lexer passes the blanks in front and reads what stands behind them. -/
theorem next_eq (blank : ∀ character ∈ blanks, Text.isBlank character = true)
    (solid : text.head?.all (fun next => !Text.isBlank next) = true) {reading : Token.Reading}
    (read : Token.read afterDot text = reading) :
    next ⟨blanks ++ text, position, afterDot⟩ =
      match reading.outcome with
      | .ok token => ⟨.ok token, position.advance blanks,
          ⟨reading.rest, (position.advance blanks).advance reading.taken,
            token = .symbol .dot⟩⟩
      | .error fault => ⟨.error ⟨fault, position.advance blanks⟩, position.advance blanks,
          ⟨reading.rest, (position.advance blanks).advance reading.taken, afterDot⟩⟩ := by
  cases outcome : reading.outcome <;>
    simp only [next, Token.span_append blank solid, read, outcome]

/-- Behind blanks without anything else the stream ends. -/
theorem stream_finish (blank : ∀ character ∈ blanks, Text.isBlank character = true) :
    stream ⟨blanks, position, afterDot⟩ = .finish (position.advance blanks) := by
  have ends : next ⟨blanks ++ [], position, afterDot⟩ = _ := next_eq blank rfl rfl
  rw [List.append_nil] at ends
  rw [stream, ends]
  rfl

/-- Behind blanks the stream ends in the fault that is read there. -/
theorem stream_fault (blank : ∀ character ∈ blanks, Text.isBlank character = true)
    (solid : text.head?.all (fun next => !Text.isBlank next) = true) {refusal : SyntaxFault}
    (failed : (Token.read afterDot text).outcome = .error refusal) :
    stream ⟨blanks ++ text, position, afterDot⟩ =
      .fault ⟨refusal, position.advance blanks⟩ := by
  rw [stream, next_eq blank solid rfl, failed]

/-- Behind blanks the stream goes on with the token that is read there. -/
theorem stream_token (blank : ∀ character ∈ blanks, Text.isBlank character = true)
    (solid : (taken ++ rest).head?.all (fun next => !Text.isBlank next) = true) {first : Token}
    (read : Token.read afterDot (taken ++ rest) = ⟨.ok first, taken, rest⟩)
    (nonempty : taken ≠ []) :
    stream ⟨blanks ++ (taken ++ rest), position, afterDot⟩ =
      .token first (position.advance blanks)
        (stream ⟨rest, (position.advance blanks).advance taken, first = .symbol .dot⟩) := by
  have shorter : rest.length < (blanks ++ (taken ++ rest)).length := by
    have positive := List.length_pos_iff.mpr nonempty
    simp only [List.length_append]
    omega
  have notFinish := Token.ne_finish_of_read read nonempty
  rw [stream, next_eq blank solid read]
  simp only [shorter, ↓reduceIte]

/-- Every lexer makes its stream token by token. -/
theorem lexes_stream (lexer : Lexer) : Lexes lexer lexer.stream := by
  induction size : lexer.rest.length using Nat.strongRecOn generalizing lexer with
  | ind size ih =>
    obtain ⟨whole, position, afterDot⟩ := lexer
    have parts : whole = whole.takeWhile Text.isBlank ++ whole.dropWhile Text.isBlank :=
      List.takeWhile_append_dropWhile.symm
    have blank : ∀ character ∈ whole.takeWhile Text.isBlank, Text.isBlank character = true :=
      fun _ member => List.mem_takeWhile_imp member
    have solid := Token.head?_dropWhile Text.isBlank whole
    generalize whole.takeWhile Text.isBlank = blanks at parts blank
    generalize whole.dropWhile Text.isBlank = text at parts solid
    subst parts
    have reads := Token.reads_read afterDot text
    have cut := reads.taken_append_rest
    cases outcome : (Token.read afterDot text).outcome with
    | error refusal =>
      rw [stream_fault blank solid outcome]
      exact .fault blank solid position outcome
    | ok first =>
      by_cases left : text = []
      · subst left
        rw [List.append_nil, stream_finish blank]
        exact .finish blank position afterDot
      · have nonempty := reads.taken_ne_nil left
        have read : Token.read afterDot text =
            ⟨.ok first, (Token.read afterDot text).taken, (Token.read afterDot text).rest⟩ := by
          rw [← outcome]
        generalize (Token.read afterDot text).taken = taken at cut nonempty read
        generalize (Token.read afterDot text).rest = rest at cut read
        subst cut
        rw [stream_token blank solid read nonempty]
        refine .token blank solid read nonempty (ih rest.length ?_ _ rfl)
        have positive := List.length_pos_iff.mpr nonempty
        simp only [← size, List.length_append]
        omega

/-- The stream that a lexer makes is the only one. -/
theorem Lexes.stream_eq {lexer : Lexer} {stream : TokenStream} (lexes : lexer.Lexes stream) :
    lexer.stream = stream := by
  induction lexes with
  | finish blank => exact stream_finish blank
  | fault blank solid position failed => exact stream_fault blank solid failed
  | token blank solid read nonempty _ ih => rw [stream_token blank solid read nonempty, ih]

/-- Blanks in front of a text move its tokens. -/
theorem stream_blanks (blank : ∀ character ∈ blanks, Text.isBlank character = true) :
    stream ⟨blanks ++ text, position, afterDot⟩ =
      stream ⟨text, position.advance blanks, afterDot⟩ := by
  refine Lexes.stream_eq ?_
  have lexes := lexes_stream ⟨text, position.advance blanks, afterDot⟩
  generalize stream ⟨text, position.advance blanks, afterDot⟩ = tokens at lexes ⊢
  have both {more : List Char} (also : ∀ character ∈ more, Text.isBlank character = true) :
      ∀ character ∈ blanks ++ more, Text.isBlank character = true := fun character member =>
    (List.mem_append.mp member).elim (blank character) (also character)
  cases lexes with
  | finish also =>
    rw [← Position.advance_append]
    exact .finish (both also) position afterDot
  | fault also solid _ failed =>
    rw [← Position.advance_append, ← List.append_assoc]
    exact .fault (both also) solid position failed
  | @token more _ _ also solid _ _ _ _ read nonempty others =>
    rw [← Position.advance_append position blanks more] at others ⊢
    rw [← List.append_assoc]
    exact .token (both also) solid read nonempty others

/-- A word in front of a text is its first token. -/
theorem stream_word {word tail : List Char} (isWord : Text.isWord word = true)
    (ends : tail.head?.all (fun next => !Text.continuesWord next) = true) :
    stream ⟨word ++ tail, position, false⟩ =
      .token (Token.ofWord (String.ofList word)) position
        (stream ⟨tail, position.advance word, false⟩) := by
  have read := Token.read_word false isWord ends
  rw [if_neg Bool.false_ne_true] at read
  have solid : (word ++ tail).head?.all (fun next => !Text.isBlank next) = true := by
    cases word with
    | nil => cases isWord
    | cons first others =>
      have continues := Text.continuesWord_of_isWord isWord first List.mem_cons_self
      have apart := Token.isSolid_of_continuesWord continues
      simp only [Token.isSolid, Bool.and_eq_true] at apart
      exact apart.1.1
  have nonempty : word ≠ [] := by
    rintro rfl
    cases isWord
  have behind := @stream_token [] word tail position false (by simp) solid _ read nonempty
  rw [List.nil_append, Position.advance_nil, decide_eq_false (Token.ofWord_ne_symbol _ _)] at behind
  exact behind

/-- A text has the same tokens wherever it starts. -/
theorem alike_stream (text : List Char) (afterDot : Bool) (position other : Position) :
    (stream ⟨text, position, afterDot⟩).Alike (stream ⟨text, other, afterDot⟩) := by
  generalize same : (⟨text, position, afterDot⟩ : Lexer) = lexer
  have lexes := lexes_stream lexer
  generalize lexer.stream = whole at lexes ⊢
  induction lexes generalizing text afterDot position other with
  | finish blank =>
    cases same
    rw [stream_finish blank]
    trivial
  | fault blank solid _ failed =>
    cases same
    rw [stream_fault blank solid failed]
    rfl
  | token blank solid read nonempty others ih =>
    cases same
    rw [stream_token blank solid read nonempty]
    exact ⟨rfl, Token.ne_finish_of_read read nonempty, ih _ _ _ _ rfl⟩

/-- What stands at a place of a stream is what is read from a part of the text, at the position of
that part. -/
theorem Lexes.place {text : List Char} {position : Position} {afterDot : Bool}
    {stream : TokenStream} (lexes : Lexes ⟨text, position, afterDot⟩ stream) (passed : Nat) :
    ∃ before rest behindDot, text = before ++ rest ∧
      (stream.drop passed).position = position.advance before ∧
        (stream.drop passed).Starts behindDot rest := by
  generalize same : (⟨text, position, afterDot⟩ : Lexer) = lexer at lexes
  induction lexes generalizing text position afterDot passed with
  | @finish blanks blank =>
    cases same
    refine ⟨blanks, [], false, (List.append_nil blanks).symm, ?_, ?_⟩ <;>
      rw [TokenStream.drop_finish]
    · rfl
    · rfl
  | @fault blanks behind blank solid start dotted refusal failed =>
    cases same
    refine ⟨blanks, behind, dotted, rfl, ?_, ?_⟩ <;> rw [TokenStream.drop_fault]
    · rfl
    · exact failed
  | @token blanks taken rest blank solid start dotted first others read nonempty _ ih =>
    cases same
    cases passed with
    | zero =>
      refine ⟨blanks, taken ++ rest, dotted, rfl, rfl, ?_⟩
      rw [TokenStream.drop_zero]
      exact congrArg Token.Reading.outcome read
    | succ passed =>
      obtain ⟨before, behind, behindDot, rfl, placed, starts⟩ := ih passed rfl
      refine ⟨blanks ++ (taken ++ before), behind, behindDot, ?_, ?_, starts⟩
      · simp only [List.append_assoc]
      · rw [TokenStream.drop_token, placed, Position.advance_append, Position.advance_append]

end Lexer

namespace TokenStream

/-- A keyword in front of a stream is spelled in front of its text. -/
theorem exists_of_peek_eq_keyword {text : List Char} {position : Position} {stream : TokenStream}
    {found : Keyword} (solid : text.head?.all (fun next => !Text.isBlank next) = true)
    (lexed : ofText text position = .ok stream) (front : stream.peek = .keyword found) :
    ∃ rest place tail, text = found.spelling.toList ++ rest ∧ stream.advance = tail.check ∧
      Lexer.Lexes ⟨rest, place, false⟩ tail := by
  rw [ofText] at lexed
  generalize same : Lexer.starting text position = lexer at lexed
  have lexes := Lexer.lexes_stream lexer
  generalize lexer.stream = whole at lexed lexes
  cases lexes with
  | finish =>
    cases lexed
    cases front
  | fault => cases lexed
  | @token blanks taken rest blank _ _ _ _ tail read nonempty others =>
    cases lexed
    cases same
    obtain rfl : _ = Token.keyword found := front
    have listed := Token.reads_read false (taken ++ rest)
    rw [read] at listed
    have spelled : taken = _ := listed.taken_eq_spelling rfl
    cases blanks with
    | nil => exact ⟨rest, _, tail, by rw [List.nil_append, spelled], rfl, by simpa using others⟩
    | cons first blanks =>
      have isBlank := blank first List.mem_cons_self
      rw [List.cons_append, List.head?_cons, Option.all_some, isBlank] at solid
      cases solid

/-- Where nothing is left but the end, the text is blank. -/
theorem blank_of_expectFinish {lexer : Lexer} {tail stream : TokenStream}
    (lexes : lexer.Lexes tail) (readable : tail.check = .ok stream)
    (ends : stream.expectFinish = .ok ()) :
    ∀ character ∈ lexer.rest, Text.isBlank character = true := by
  cases lexes with
  | finish blank => exact blank
  | fault => cases readable
  | token _ _ read nonempty =>
    cases readable
    have notFinish := Token.ne_finish_of_read read nonempty
    rw [expectFinish] at ends
    split at ends
    · rename_i finished
      exact absurd finished notFinish
    · cases ends

end TokenStream

end Stencil
