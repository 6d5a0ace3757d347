import Stencil.Template.Expr
import Stencil.Template.Token.Stream

/-!
# Parsing expressions

From loose to tight: `or`, `and`, `not`, one comparison, sums, products, the sign, and the
accesses behind a name, a literal, a call, an array or parentheses. Chains lean to the left.

Every parser has a budget: how many levels it may still go down. A sign, a `not`, parentheses,
brackets and arguments go down one level for what is inside; in a chain, each link goes down one
level more than the link before, and the budget is restored behind the chain. All parsers of one
budget are built from the expression parser of smaller budgets, `inner`.
-/

namespace Stencil.Expr

/-- A parser with a budget: from a stream it makes an expression and the rest of the stream. -/
abbrev Parser := Nat → TokenStream → Except SyntaxError (Expr × TokenStream)

/-- Go down one level. -/
def deeper {α : Type} (parser : Nat → TokenStream → Except SyntaxError (α × TokenStream)) :
    Nat → TokenStream → Except SyntaxError (α × TokenStream)
  | 0, stream => stream.refuse .tooDeep
  | budget + 1, stream => parser budget stream

/-- The literal a token is. -/
def literalOf? : Token → Option Value
  | .string text => some (.string text)
  | .integer number => some (.integer number)
  | .float number => some (.float number)
  | .boolean truth => some (.boolean truth)
  | .null => some .null
  | .name _ | .symbol _ | .keyword _ | .finish => none

/-- Expressions separated by commas, up to a closing token, which is passed; a comma may stand
before it. Each step passes a token, which bounds their number. -/
def parseItems (item : TokenStream → Except SyntaxError (Expr × TokenStream)) (closing : Token) :
    Nat → TokenStream → Except SyntaxError (List Expr × TokenStream)
  | 0, stream => stream.refuse (.expectedSeparator closing)
  | steps + 1, stream => do
    if stream.peek = closing then
      let rest ← stream.advance
      .ok ([], rest)
    else
      let (first, rest) ← item stream
      if rest.peek = .symbol .comma then
        let rest ← rest.advance
        let (others, rest) ← parseItems item closing steps rest
        .ok (first :: others, rest)
      else if rest.peek = closing then
        let rest ← rest.advance
        .ok ([first], rest)
      else rest.refuse (.expectedSeparator closing)

/-- The items of an array or a call, one level down. -/
def parseList (inner : Parser) (closing : Token) :
    Nat → TokenStream → Except SyntaxError (List Expr × TokenStream) :=
  deeper fun budget stream => parseItems (inner budget) closing (stream.size + 1) stream

/-- A name, or a call when a parenthesis follows it. -/
def parseName (inner : Parser) (budget : Nat) (text : String) (stream : TokenStream) :
    Except SyntaxError (Expr × TokenStream) := do
  let position := stream.position
  let rest ← stream.advance
  if rest.peek = .symbol .openParen then
    match Builtin.ofName? text with
    | none => .error ⟨.unknownFunction text, position⟩
    | some builtin =>
      let rest ← rest.advance
      let (arguments, rest) ← parseList inner (.symbol .closeParen) budget rest
      if builtin.accepts arguments.length then .ok (.call builtin arguments, rest)
      else .error ⟨.wrongCount builtin arguments.length, position⟩
  else .ok (.name text, rest)

/-- The tightest expressions. -/
def parsePrimary (inner : Parser) (budget : Nat) (stream : TokenStream) :
    Except SyntaxError (Expr × TokenStream) := do
  match literalOf? stream.peek with
  | some value =>
    let rest ← stream.advance
    .ok (.literal value, rest)
  | none =>
    match stream.peek with
    | .name text => parseName inner budget text stream
    | .symbol .openParen =>
      let rest ← stream.advance
      let (inside, rest) ← deeper inner budget rest
      let rest ← rest.expect (.symbol .closeParen)
      .ok (inside, rest)
    | .symbol .openBracket =>
      let rest ← stream.advance
      let (items, rest) ← parseList inner (.symbol .closeBracket) budget rest
      .ok (.array items, rest)
    | .finish => stream.refuse .missingExpression
    | other => stream.refuse (.noExpression other)

/-- The property behind a dot. -/
def parseProperty (stream : TokenStream) : Except SyntaxError (Value × TokenStream) := do
  match stream.peek with
  | .name text =>
    let rest ← stream.advance
    .ok (.string text, rest)
  | .integer number =>
    let rest ← stream.advance
    .ok (.integer number, rest)
  | _ => stream.refuse .expectedProperty

/-- The accesses behind an expression. -/
def parseAccesses (inner : Parser) :
    Nat → Expr → TokenStream → Except SyntaxError (Expr × TokenStream)
  | budget, target, stream => do
    match stream.peek with
    | .symbol .dot =>
      let rest ← stream.advance
      match budget with
      | 0 => rest.refuse .tooDeep
      | budget + 1 =>
        let (key, rest) ← parseProperty rest
        parseAccesses inner budget (.access target (.literal key)) rest
    | .symbol .openBracket =>
      let rest ← stream.advance
      match budget with
      | 0 => rest.refuse .tooDeep
      | budget + 1 =>
        let (key, rest) ← inner budget rest
        let rest ← rest.expect (.symbol .closeBracket)
        parseAccesses inner budget (.access target key) rest
    | _ => .ok (target, stream)

/-- An expression with its accesses. -/
def parsePostfix (inner : Parser) (budget : Nat) (stream : TokenStream) :
    Except SyntaxError (Expr × TokenStream) := do
  let (target, rest) ← parsePrimary inner budget stream
  parseAccesses inner budget target rest

/-- An operand behind any number of operators before it. -/
def parsePrefixed (operator? : Token → Option UnaryOperator) (operand : Parser) : Parser
  | budget, stream => do
    match operator? stream.peek with
    | none => operand budget stream
    | some operator =>
      let rest ← stream.advance
      match budget with
      | 0 => rest.refuse .tooDeep
      | budget + 1 =>
        let (inside, rest) ← parsePrefixed operator? operand budget rest
        .ok (.unary operator inside, rest)

/-- The links of a chain behind its first operand. -/
def parseLinks (operator? : Token → Option BinaryOperator) (operand : Parser) :
    Nat → Expr → TokenStream → Except SyntaxError (Expr × TokenStream)
  | budget, left, stream => do
    match operator? stream.peek with
    | none => .ok (left, stream)
    | some operator =>
      let rest ← stream.advance
      match budget with
      | 0 => rest.refuse .tooDeep
      | budget + 1 =>
        let (right, rest) ← operand budget rest
        parseLinks operator? operand budget (.binary operator left right) rest

/-- A chain of operands. -/
def parseChain (operator? : Token → Option BinaryOperator) (operand : Parser) : Parser :=
  fun budget stream => do
    let (first, rest) ← operand budget stream
    parseLinks operator? operand budget first rest

/-- The sign of a number. -/
def sign? : Token → Option UnaryOperator
  | .symbol .minus => some .negate
  | _ => none

/-- The operators of a product. -/
def factor? : Token → Option BinaryOperator
  | .symbol .star => some .multiply
  | .symbol .slash => some .divide
  | .symbol .percent => some .remainder
  | _ => none

/-- The operators of a sum. -/
def term? : Token → Option BinaryOperator
  | .symbol .plus => some .add
  | .symbol .minus => some .subtract
  | _ => none

/-- The comparisons. -/
def comparison? : Token → Option BinaryOperator
  | .symbol .equal => some .equal
  | .symbol .notEqual => some .notEqual
  | .symbol .less => some .less
  | .symbol .lessEqual => some .lessEqual
  | .symbol .greater => some .greater
  | .symbol .greaterEqual => some .greaterEqual
  | _ => none

/-- The opposites of a truth value. -/
def not? : Token → Option UnaryOperator
  | .keyword .notWord => some .not
  | .symbol .bang => some .not
  | _ => none

/-- The spellings of `and`. -/
def and? : Token → Option BinaryOperator
  | .keyword .andWord => some .and
  | .symbol .both => some .and
  | _ => none

/-- The spelling of `or`. -/
def or? : Token → Option BinaryOperator
  | .keyword .orWord => some .or
  | _ => none

/-- A sum, alone or compared with one other sum. -/
def parseComparison (operand : Parser) : Parser := fun budget stream => do
  let (left, rest) ← operand budget stream
  match comparison? rest.peek with
  | none => .ok (left, rest)
  | some operator =>
    let rest ← rest.advance
    let (right, rest) ← operand budget rest
    .ok (.binary operator left right, rest)

/-- Products of signed operands. -/
def parseProduct (inner : Parser) : Parser :=
  parseChain factor? (parsePrefixed sign? (parsePostfix inner))

/-- Sums of products. -/
def parseSum (inner : Parser) : Parser := parseChain term? (parseProduct inner)

/-- A comparison behind any number of `not`. -/
def parseNegation (inner : Parser) : Parser := parsePrefixed not? (parseComparison (parseSum inner))

/-- The loosest expressions. -/
def parseDisjunction (inner : Parser) : Parser :=
  parseChain or? (parseChain and? (parseNegation inner))

/-- The expression parser for budgets below a bound. -/
def parseBelow : Nat → Parser
  | 0 => fun _ stream => stream.refuse .tooDeep
  | bound + 1 => parseDisjunction (parseBelow bound)

/-- An expression with a budget. -/
def parseWithin (budget : Nat) (stream : TokenStream) : Except SyntaxError (Expr × TokenStream) :=
  parseBelow (budget + 1) budget stream

/-- An expression at the front of a stream. -/
def parse (stream : TokenStream) : Except SyntaxError (Expr × TokenStream) :=
  parseWithin maxExpressionDepth stream

end Stencil.Expr
