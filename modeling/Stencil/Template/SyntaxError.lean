import Stencil.Failure
import Stencil.Template.Builtin
import Stencil.Template.Token

/-!
# Syntax errors

Why a template is refused: a fault at a position. Every fault has its message, its code and, where
one helps, a hint.
-/

namespace Stencil

/-- The kind of block a fault is about. -/
inductive BlockKind where
  /-- A conditional. -/
  | conditional
  /-- A loop. -/
  | loop
  /-- A binding. -/
  | binding
deriving DecidableEq, Repr

/-- The keyword that opens a block of some kind. -/
def BlockKind.spelling : BlockKind → String
  | conditional => "if"
  | loop => "for"
  | binding => "set"

/-- How deep expressions may nest; every link of a chain of operators counts. -/
def maxExpressionDepth : Nat := 64

/-- How many blocks may be open at once. -/
def maxBlockDepth : Nat := 256

/-- A reason to refuse a template. -/
inductive SyntaxFault where
  /-- A tag is never closed. -/
  | unterminatedTag (closing : String)
  /-- An integer literal does not fit a word. -/
  | integerOutOfRange (digits : String)
  /-- A string literal is never closed. -/
  | unclosedString (quote : Char)
  /-- A character that starts no token. -/
  | unexpectedCharacter (character : Char)
  /-- Another token is needed. -/
  | expectedToken (expected found : Token)
  /-- A name is needed. -/
  | expectedName (purpose : String) (found : Token)
  /-- Something follows a complete tag. -/
  | trailing (found : Token)
  /-- An expression is nested too deeply. -/
  | tooDeep
  /-- An expression is missing. -/
  | missingExpression
  /-- A token starts no expression. -/
  | noExpression (found : Token)
  /-- A function does not exist. -/
  | unknownFunction (name : String)
  /-- A function does not take that many arguments. -/
  | wrongCount (builtin : Builtin) (count : Nat)
  /-- No property follows a dot. -/
  | expectedProperty
  /-- Items in a row are not separated. -/
  | expectedSeparator (closing : Token)
  /-- An end without an open block. -/
  | strayEnd
  /-- A continuation without an open block. -/
  | strayContinuation (continuing : String)
  /-- A continuation after the last branch. -/
  | afterLastBranch (kind : BlockKind)
  /-- An empty branch in a conditional. -/
  | emptyInConditional
  /-- A conditional branch in a loop. -/
  | elifInLoop
  /-- A continuation in a binding. -/
  | continuationInBinding
  /-- A block is never closed. -/
  | unterminatedBlock (kind : BlockKind) (opening closing : String)
  /-- A tag holds nothing. -/
  | emptyTag
  /-- A continuation names no branch. -/
  | expectedBranch
  /-- A binding has no value. -/
  | expectedAssignment (name : String)
  /-- Blocks are nested too deeply. -/
  | blocksTooDeep
deriving DecidableEq, Repr

namespace SyntaxFault

/-- What a fault says. -/
def message : SyntaxFault → String
  | unterminatedTag _ => "Unterminated tag"
  | integerOutOfRange digits => s!"Integer literal '{digits}' out of range"
  | unclosedString quote => s!"Unclosed string starting with {quote}"
  | unexpectedCharacter character => s!"Unexpected character '{character}'"
  | expectedToken expected found => s!"Expected {expected.message}, got {found.message}"
  | expectedName purpose found => s!"Expected {purpose}, got {found.message}"
  | trailing found => s!"Unexpected {found.message} after expression"
  | tooDeep => "Expression nested too deeply"
  | missingExpression => "Expected an expression"
  | noExpression found => s!"Unexpected {found.message} in expression"
  | unknownFunction name => s!"Unknown function '{name}'"
  | wrongCount builtin count =>
    s!"Function '{builtin.name}' takes {builtin.arityText} argument(s), got {count}"
  | expectedProperty => "Expected property name or index after '.'"
  | expectedSeparator closing => s!"Expected ',' or {closing.message}"
  | strayEnd => "'end' without an open block"
  | strayContinuation continuing => s!"'{continuing}' outside of an 'if' or 'for' block"
  | afterLastBranch kind => s!"Continuation after the final branch of '{kind.spelling}'"
  | emptyInConditional => "'empty' is only valid inside a 'for' block"
  | elifInLoop => "'elif' is only valid inside an 'if' block"
  | continuationInBinding => "'set' blocks take no continuation"
  | unterminatedBlock kind _ _ => s!"Unterminated '{kind.spelling}' block"
  | emptyTag => "Empty tag"
  | expectedBranch => "Expected 'else', 'elif' or 'empty' in a continuation"
  | expectedAssignment name => s!"Expected 'to' or '=' after '{name}'"
  | blocksTooDeep => "Blocks nested too deeply"

/-- The number of a fault. -/
def code : SyntaxFault → Nat
  | unterminatedTag _ => 101
  | integerOutOfRange _ => 102
  | unclosedString _ => 103
  | unexpectedCharacter _ => 104
  | expectedToken _ _ => 202
  | expectedName _ _ => 203
  | trailing _ => 204
  | tooDeep => 205
  | missingExpression => 206
  | noExpression _ => 207
  | unknownFunction _ => 208
  | wrongCount _ _ => 209
  | expectedProperty => 210
  | expectedSeparator _ => 211
  | strayEnd => 220
  | strayContinuation _ => 221
  | afterLastBranch _ => 222
  | emptyInConditional => 223
  | elifInLoop => 224
  | continuationInBinding => 225
  | unterminatedBlock _ _ _ => 226
  | emptyTag => 227
  | expectedBranch => 228
  | expectedAssignment _ => 229
  | blocksTooDeep => 230

/-- What may help with a fault. -/
def hint? : SyntaxFault → Option String
  | unterminatedTag closing => some s!"Close the tag with '{closing}'"
  | unclosedString _ => some "String literal not closed"
  | unexpectedCharacter _ => some "Unexpected character in expression"
  | expectedToken _ _ => some "Check your syntax"
  | noExpression _ => some "Keywords like 'end' or 'else' cannot be used as values"
  | unknownFunction _ =>
    some ("Available: " ++ String.intercalate ", " (Builtin.all.map Builtin.name))
  | strayContinuation _ =>
    some "Continuations belong between a block's opening tag and its 'end'"
  | unterminatedBlock _ opening closing => some s!"Close the block with '{opening} end {closing}'"
  | expectedBranch => some "A bare continuation marker also starts the else/empty branch"
  | expectedAssignment _ => some "Write 'set name to value'"
  | blocksTooDeep => some s!"At most {maxBlockDepth} blocks may be open at once"
  | _ => none

end SyntaxFault

/-- A fault and where it is. -/
structure SyntaxError where
  /-- What is wrong. -/
  fault : SyntaxFault
  /-- Where it is. -/
  position : Position
deriving DecidableEq, Repr

/-- The failure a syntax error is reported as. -/
def SyntaxError.failure (error : SyntaxError) : Failure :=
  .templateSyntax ⟨error.fault.message, error.fault.hint?, some error.fault.code⟩ error.position

end Stencil
