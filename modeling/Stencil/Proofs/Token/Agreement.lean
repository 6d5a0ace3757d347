import Stencil.Proofs.Token.Places
import Stencil.Template.Expr.Parser

/-!
# Agreement of parsers

Streams with the same tokens are read in the same way, wherever their tokens stand. `Agree` states
this for the results of two computations on such streams: both make related values, or both fail
with the same fault at the same place, where what stands there is what the fault is about. The two
streams may be one, and then it says where an error of that stream is reported.
-/

namespace Stencil

/-- Whether a fault is one that a parser finds where a token stands. -/
def SyntaxFault.IsAbout (found : Token) : SyntaxFault → Prop
  | .unknownFunction name => found = .name name
  | .wrongCount builtin _ => found = .name builtin.name
  | .expectedToken _ _ | .expectedName _ _ | .trailing _ | .tooDeep | .missingExpression
  | .noExpression _ | .expectedProperty | .expectedSeparator _ | .expectedBranch
  | .expectedAssignment _ => True
  | _ => False

/-- Whether a fault is what a lexer finds at a place or what a parser finds at the token there. -/
def SyntaxFault.Suits (fault : SyntaxFault) : TokenStream → Prop
  | .fault error => fault = error.fault
  | place => fault.IsAbout place.peek

namespace TokenStream

variable {α β : Type} {stream other here there : TokenStream}

/-- Two readable places in streams with the same tokens, behind the same number of tokens. -/
structure SamePlace (stream other here there : TokenStream) : Prop where
  /-- The streams have the same tokens. -/
  alike : stream.Alike other
  /-- The same number of tokens has been passed. -/
  passed : ∃ passed, here = stream.drop passed ∧ there = other.drop passed
  /-- What stands there can be read. -/
  readable : here.check = .ok here

/-- Results on two streams that succeed with related values, or fail alike at the same place. -/
inductive Agree (stream other : TokenStream) (relate : α → α → Prop) :
    Except SyntaxError α → Except SyntaxError α → Prop
  /-- Both succeed. -/
  | ok {value twin : α} (related : relate value twin) :
    Agree stream other relate (.ok value) (.ok twin)
  /-- Both fail behind the same number of tokens. -/
  | error {fault : SyntaxFault} (passed : Nat) (suits : fault.Suits (stream.drop passed)) :
    Agree stream other relate (.error ⟨fault, (stream.drop passed).position⟩)
      (.error ⟨fault, (other.drop passed).position⟩)

/-- The same value, and the same place behind it. -/
def Leaves (stream other : TokenStream) (result twin : α × TokenStream) : Prop :=
  result.1 = twin.1 ∧ SamePlace stream other result.2 twin.2

/-- The same value, behind which nothing is left. -/
def Exhausts (stream : TokenStream) (value twin : α) : Prop :=
  value = twin ∧ stream.isWhole = true

/-- A parser that does the same at the same place of any two streams with the same tokens. -/
def IsLocal (parser : TokenStream → Except SyntaxError (α × TokenStream)) : Prop :=
  ∀ ⦃stream other here there : TokenStream⦄, SamePlace stream other here there →
    Agree stream other (Leaves stream other) (parser here) (parser there)

/-- What follows two results that agree agrees when it does for related values. -/
theorem Agree.bind {relate : α → α → Prop} {goal : β → β → Prop} {first twin : Except SyntaxError α}
    {next following : α → Except SyntaxError β} (agree : Agree stream other relate first twin)
    (continues : ∀ value image, relate value image →
      Agree stream other goal (next value) (following image)) :
    Agree stream other goal (first >>= next) (twin >>= following) := by
  cases agree with
  | ok related => exact continues _ _ related
  | error passed suits => exact .error passed suits

/-- Where one result succeeds, the other one succeeds with a related value. -/
theorem Agree.exists_ok {relate : α → α → Prop} {result twin : Except SyntaxError α} {value : α}
    (agree : Agree stream other relate result twin) (succeeds : result = .ok value) :
    ∃ image, twin = .ok image ∧ relate value image := by
  cases agree with
  | ok related =>
    cases succeeds
    exact ⟨_, rfl, related⟩
  | error => cases succeeds

/-- Behind the same number of tokens there is the same place, unless there is something that is no
token. -/
theorem Alike.check (alike : stream.Alike other) (passed : Nat) :
    Agree stream other (SamePlace stream other) (stream.drop passed).check
      (other.drop passed).check := by
  have behind := alike.drop passed
  cases found : stream.drop passed with
  | fault error =>
    cases image : other.drop passed with
    | fault twin =>
      have suits : error.fault.Suits (stream.drop passed) := by
        rw [found]
        rfl
      have failed : Agree stream other (SamePlace stream other) _ _ := .error passed suits
      rw [found, image] at failed behind
      obtain ⟨refusal, position⟩ := error
      obtain ⟨_, place⟩ := twin
      obtain rfl : refusal = _ := behind
      exact failed
    | finish | token => rw [found, image] at behind; cases behind
  | finish | token =>
    have readable : (stream.drop passed).check = .ok (stream.drop passed) := by
      rw [found]
      rfl
    rw [← found, readable, behind.check_eq readable]
    exact .ok ⟨alike, ⟨passed, rfl, rfl⟩, readable⟩

namespace SamePlace

variable (place : SamePlace stream other here there)
include place

/-- The same token stands at both places. -/
theorem peek_eq : there.peek = here.peek := by
  obtain ⟨passed, rfl, rfl⟩ := place.passed
  exact (place.alike.drop passed).peek_eq

/-- The streams go on equally long. -/
theorem size_eq : there.size = here.size := by
  obtain ⟨passed, rfl, rfl⟩ := place.passed
  exact (place.alike.drop passed).size_eq

/-- A fault that is about the token at the place is reported there. -/
theorem error {relate : α → α → Prop} {fault : SyntaxFault} (about : fault.IsAbout here.peek) :
    Agree stream other relate (.error ⟨fault, here.position⟩) (.error ⟨fault, there.position⟩) := by
  have readable := place.readable
  obtain ⟨passed, rfl, rfl⟩ := place.passed
  refine .error passed ?_
  cases found : stream.drop passed with
  | fault => rw [found] at readable; cases readable
  | finish | token => rw [found] at about; exact about

/-- What is refused at one place is refused at the other. -/
theorem refuse {relate : α → α → Prop} {fault : SyntaxFault} (about : fault.IsAbout here.peek) :
    Agree stream other relate (here.refuse fault) (there.refuse fault) :=
  place.error about

/-- The next tokens stand at the same place again, unless there is something that is no token. -/
theorem advance : Agree stream other (SamePlace stream other) here.advance there.advance := by
  have next (tail : TokenStream) (readable : tail.check = .ok tail) :
      tail.advance = (tail.drop 1).check := by
    cases tail with
    | finish => rfl
    | fault => cases readable
    | token first position rest => exact congrArg check (drop_zero rest).symm
  have readable := place.readable
  obtain ⟨passed, rfl, rfl⟩ := place.passed
  rw [next _ readable, next _ ((place.alike.drop passed).check_eq readable), drop_drop, drop_drop]
  exact place.alike.check (passed + 1)

/-- A token that must be there is passed at both places or missed at both. -/
theorem expect (expected : Token) :
    Agree stream other (SamePlace stream other) (here.expect expected) (there.expect expected) := by
  rw [TokenStream.expect, TokenStream.expect, place.peek_eq]
  split
  · exact place.advance
  · exact place.refuse trivial

/-- A name that must be there is passed at both places or missed at both. -/
theorem expectName (purpose : String) :
    Agree stream other (Leaves stream other) (here.expectName purpose)
      (there.expectName purpose) := by
  rw [TokenStream.expectName, TokenStream.expectName, place.peek_eq]
  split
  · exact place.advance.bind fun _ _ next => .ok ⟨rfl, next⟩
  · exact place.refuse trivial

/-- Where nothing may be left, either the stream has been read to its end or both places are
refused. -/
theorem expectFinish :
    Agree stream other (Exhausts stream) here.expectFinish there.expectFinish := by
  rw [TokenStream.expectFinish, TokenStream.expectFinish, place.peek_eq]
  split
  · rename_i ends
    have readable := place.readable
    obtain ⟨passed, rfl, rfl⟩ := place.passed
    have whole := (place.alike.drop passed).isWhole_of_peek readable ends
    exact .ok ⟨rfl, by rwa [isWhole_drop] at whole⟩
  · exact place.refuse trivial

end SamePlace

end TokenStream

/-! ## What stands where a fault is reported -/

namespace SyntaxFault

/-- Whether a fault may be found within a single tag, whatever blocks are open around it. -/
def isOfTag : SyntaxFault → Bool
  | unterminatedTag _ | strayEnd | strayContinuation _ | afterLastBranch _ | emptyInConditional
  | elifInLoop | continuationInBinding | unterminatedBlock _ _ _ | blocksTooDeep => false
  | integerOutOfRange _ | unclosedString _ | unexpectedCharacter _ | expectedToken _ _
  | expectedName _ _ | trailing _ | tooDeep | missingExpression | noExpression _
  | unknownFunction _ | wrongCount _ _ | expectedProperty | expectedSeparator _ | emptyTag
  | expectedBranch | expectedAssignment _ => true

/-- Whether the part of a tag from some place on starts with what a fault names: the character, the
quote of a literal that is not closed, the digits of the literal or the name of the function. -/
def StandsAt (text : List Char) : SyntaxFault → Prop
  | unexpectedCharacter character => text.head? = some character
  | unclosedString quote => ∃ inside, text = quote :: inside ∧ (quote = '"' ∨ quote = '\'') ∧
    (Token.readQuoted quote inside).1 = none
  | integerOutOfRange digits => ∃ after, text = digits.toList ++ after ∧ digits.toList ≠ [] ∧
    ∀ digit ∈ digits.toList, digit.isDigit = true
  | unknownFunction name => ∃ after, text = name.toList ++ after ∧ name.toList ≠ []
  | wrongCount builtin _ => ∃ after, text = builtin.name.toList ++ after
  | _ => True

/-- What a reading fails with stands there. -/
theorem standsAt_of_reads {afterDot : Bool} {text : List Char} {reading : Token.Reading}
    {fault : SyntaxFault} (reads : Token.Reads afterDot text reading)
    (fails : reading.outcome = .error fault) :
    fault.isOfTag = true ∧ fault.StandsAt text := by
  cases reads with
  | @unclosed quote taken rest isQuote opened =>
    cases fails
    exact ⟨rfl, _, rfl, isQuote, congrArg Prod.fst opened⟩
  | @integer digits rest nonempty areDigits =>
    rcases Token.integerOf_cases digits with ⟨number, made⟩ | failed
    · rw [made] at fails
      cases fails
    · rw [failed] at fails
      cases fails
      refine ⟨rfl, rest, ?_⟩
      rw [String.toList_ofList]
      exact ⟨rfl, nonempty, areDigits⟩
  | unexpected =>
    cases fails
    exact ⟨rfl, rfl⟩
  | finish | symbol | string | float | word => cases fails

/-- Where a name is read its spelling stands. -/
theorem exists_append_of_reads_name {afterDot : Bool} {text : List Char} {reading : Token.Reading}
    {name : String} (reads : Token.Reads afterDot text reading)
    (named : reading.outcome = .ok (.name name)) :
    ∃ after, text = name.toList ++ after ∧ name.toList ≠ [] := by
  cases reads with
  | @word word rest nonempty =>
    have spelled : String.ofList word = name := by
      split_ifs at named
      · cases named
        rfl
      · exact Token.eq_of_ofWord_eq_name (Except.ok.inj named)
    rw [← spelled, String.toList_ofList]
    exact ⟨rest, rfl, nonempty⟩
  | @integer digits =>
    rcases Token.integerOf_cases digits with ⟨number, made⟩ | failed
    · rw [made] at named
      cases named
    · rw [failed] at named
      cases named
  | finish | symbol | string | unclosed | float | unexpected => cases named

/-- What a fault at a place of a stream names stands in the text that is read there. -/
theorem Suits.standsAt {fault : SyntaxFault} {place : TokenStream} {afterDot : Bool}
    {text : List Char} (suits : fault.Suits place) (starts : place.Starts afterDot text) :
    fault.isOfTag = true ∧ fault.StandsAt text := by
  have reads := Token.reads_read afterDot text
  have token (found : Token) (about : fault.IsAbout found) (spelled : ∀ name, found = .name name →
      (Token.read afterDot text).outcome = .ok (.name name)) :
      fault.isOfTag = true ∧ fault.StandsAt text := by
    cases fault with
    | unknownFunction name => exact ⟨rfl, exists_append_of_reads_name reads (spelled _ about)⟩
    | wrongCount builtin count =>
      obtain ⟨after, whole, -⟩ := exists_append_of_reads_name reads (spelled _ about)
      exact ⟨rfl, after, whole⟩
    | expectedToken | expectedName | trailing | tooDeep | missingExpression | noExpression
    | expectedProperty | expectedSeparator | expectedBranch | expectedAssignment =>
      exact ⟨rfl, trivial⟩
    | _ => cases about
  cases place with
  | finish => exact token .finish suits fun _ same => by cases same
  | token first => exact token first suits fun _ same => same ▸ starts
  | fault error =>
    obtain rfl : fault = error.fault := suits
    exact standsAt_of_reads reads starts

end SyntaxFault

end Stencil
