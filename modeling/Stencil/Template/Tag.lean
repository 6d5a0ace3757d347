import Stencil.Template.Expr.Parser

/-!
# Tags

What the content of a single tag says: a comment, an expression to write, or a move in the block
structure. A content that starts with the continuing marker is a continuation; behind the header of
a block the marker may be left or written.
-/

namespace Stencil

/-- The header of a block. -/
inductive Opening where
  /-- A conditional with its first condition. -/
  | conditional (condition : Expr)
  /-- A loop over the entries of a source. -/
  | loop (key : Option String) (value : String) (source : Expr)
  /-- A name with a value. -/
  | binding (name : String) (value : Expr)
deriving Repr

/-- The header of a further branch. -/
inductive Branch where
  /-- The marker alone: the last branch of whatever block it is in. -/
  | bare
  /-- The branch taken when no other one is. -/
  | otherwise
  /-- A branch with a condition. -/
  | elif (condition : Expr)
  /-- The branch of a loop without entries. -/
  | empty
deriving Repr

/-- What a tag says. -/
inductive Tag where
  /-- Nothing. -/
  | comment
  /-- Write the text of an expression. -/
  | output (expression : Expr)
  /-- Open a block. -/
  | opening (header : Opening) (position : Position)
  /-- Go on with another branch. -/
  | continuation (branch : Branch) (position : Position)
  /-- Close the innermost block. -/
  | closing (position : Position)
deriving Repr

namespace Tag

/-- An expression that must be all that is left of a tag. -/
def parseLast (stream : TokenStream) : Except SyntaxError Expr := do
  let (expression, rest) ← Expr.parse stream
  rest.expectFinish
  .ok expression

/-- A branch after a marker or by its keyword. -/
def parseBranch (stream : TokenStream) : Except SyntaxError Branch := do
  match stream.peek with
  | .keyword .elseWord =>
    let rest ← stream.advance
    rest.expectFinish
    .ok .otherwise
  | .keyword .emptyWord =>
    let rest ← stream.advance
    rest.expectFinish
    .ok .empty
  | .keyword .elifWord =>
    let rest ← stream.advance
    let condition ← parseLast rest
    .ok (.elif condition)
  | _ => stream.refuse .expectedBranch

/-- The header of a loop, from its keyword on. -/
def parseLoop (stream : TokenStream) : Except SyntaxError Opening := do
  let rest ← stream.advance
  let (first, rest) ← rest.expectName "a loop variable"
  if rest.peek = .symbol .comma then
    let rest ← rest.advance
    let (second, rest) ← rest.expectName "a value variable"
    let rest ← rest.expect (.keyword .inWord)
    let source ← parseLast rest
    .ok (.loop (some first) second source)
  else
    let rest ← rest.expect (.keyword .inWord)
    let source ← parseLast rest
    .ok (.loop none first source)

/-- The header of a binding, from its keyword on. -/
def parseBinding (stream : TokenStream) : Except SyntaxError Opening := do
  let rest ← stream.advance
  let (name, rest) ← rest.expectName "a variable name"
  if rest.peek = .keyword .toWord || rest.peek = .symbol .assign then
    let rest ← rest.advance
    let value ← parseLast rest
    .ok (.binding name value)
  else rest.refuse (.expectedAssignment name)

/-- A tag that is no comment and has no continuing marker in front. -/
def parseBody (body : List Char) (position : Position) : Except SyntaxError Tag := do
  let stream ← TokenStream.ofText body position
  match stream.peek with
  | .keyword .ifWord =>
    let rest ← stream.advance
    let condition ← parseLast rest
    .ok (.opening (.conditional condition) position)
  | .keyword .forWord =>
    let header ← parseLoop stream
    .ok (.opening header position)
  | .keyword .setWord =>
    let header ← parseBinding stream
    .ok (.opening header position)
  | .keyword .elseWord | .keyword .elifWord | .keyword .emptyWord =>
    let branch ← parseBranch stream
    .ok (.continuation branch position)
  | .keyword .endWord =>
    let rest ← stream.advance
    rest.expectFinish
    .ok (.closing position)
  | _ =>
    let expression ← parseLast stream
    .ok (.output expression)

/-- Whether a content starts with the keyword of a block. -/
def opensBlock (body : List Char) : Bool :=
  let word := String.ofList (body.takeWhile Text.continuesWord)
  word == "if" || word == "for" || word == "set"

/-- The header of a block without the continuing marker that may end it. -/
def withoutMarker (marker body : List Char) : List Char :=
  if opensBlock body then
    match Text.dropSuffix? marker body with
    | some header => Text.trimEnd header
    | none => body
  else body

/-- What the content of a tag says, from where it starts. -/
def parse (delimiters : Delimiters) (content : List Char) (start : Position) :
    Except SyntaxError Tag :=
  let (blanks, text) := content.span Text.isBlank
  let position := start.advance blanks
  let body := Text.trimEnd text
  match body with
  | [] => .error ⟨.emptyTag, position⟩
  | '#' :: _ => .ok .comment
  | _ =>
    let marker := delimiters.continuing.toList
    match Text.dropPrefix? marker body with
    | some after =>
      let (gap, branch) := after.span Text.isBlank
      if branch.isEmpty then .ok (.continuation .bare position)
      else do
        let stream ← TokenStream.ofText branch ((position.advance marker).advance gap)
        let branch ← parseBranch stream
        .ok (.continuation branch position)
    | none => parseBody (withoutMarker marker body) position

end Tag

end Stencil
