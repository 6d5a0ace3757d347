import Stencil.Template.Token.Lexer

/-!
# Token streams

All tokens of a tag in a row. A stream ends where the tag ends or where reading tokens first
fails; a parser that stands before the failure meets it only when it moves on.
-/

namespace Stencil

/-- The tokens of a tag from some place on. -/
inductive TokenStream where
  /-- The end of the tag. -/
  | finish (position : Position)
  /-- The place where no token can be read. -/
  | fault (error : SyntaxError)
  /-- A token and what follows it. -/
  | token (first : Token) (position : Position) (rest : TokenStream)
deriving DecidableEq, Repr

namespace TokenStream

/-- The token in front. -/
def peek : TokenStream → Token
  | finish _ => .finish
  | fault _ => .finish
  | token first _ _ => first

/-- The position of the token in front. -/
def position : TokenStream → Position
  | finish position => position
  | fault error => error.position
  | token _ position _ => position

/-- How many tokens there are before the end. -/
def size : TokenStream → Nat
  | finish _ => 0
  | fault _ => 0
  | token _ _ rest => rest.size + 1

/-- The stream itself, unless reading has failed here. -/
def check : TokenStream → Except SyntaxError TokenStream
  | fault error => .error error
  | stream => .ok stream

/-- Move past the token in front; the next one must be readable. -/
def advance : TokenStream → Except SyntaxError TokenStream
  | token _ _ rest => rest.check
  | stream => .ok stream

/-- An error at the token in front. -/
def refuse {α : Type} (stream : TokenStream) (fault : SyntaxFault) : Except SyntaxError α :=
  .error ⟨fault, stream.position⟩

/-- Move past one given token. -/
def expect (expected : Token) (stream : TokenStream) : Except SyntaxError TokenStream :=
  if stream.peek = expected then stream.advance
  else stream.refuse (.expectedToken expected stream.peek)

/-- Move past a name. -/
def expectName (purpose : String) (stream : TokenStream) :
    Except SyntaxError (String × TokenStream) := do
  match stream.peek with
  | .name text =>
    let rest ← stream.advance
    .ok (text, rest)
  | other => stream.refuse (.expectedName purpose other)

/-- Nothing may be left. -/
def expectFinish (stream : TokenStream) : Except SyntaxError Unit :=
  match stream.peek with
  | .finish => .ok ()
  | other => stream.refuse (.trailing other)

end TokenStream

/-- The tokens a lexer reads. -/
def Lexer.stream (lexer : Lexer) : TokenStream :=
  let step := lexer.next
  match step.outcome with
  | .error error => .fault error
  | .ok .finish => .finish step.start
  | .ok token =>
    if step.after.rest.length < lexer.rest.length then
      .token token step.start (Lexer.stream step.after)
    else .finish step.start
termination_by lexer.rest.length

/-- The tokens of a text whose first character stands at a given place; the first token must be
readable. -/
def TokenStream.ofText (text : List Char) (position : Position) : Except SyntaxError TokenStream :=
  (Lexer.starting text position).stream.check

end Stencil
