import Stencil.Script.Program
import Stencil.Script.Token

/-!
# Parsing driving scripts

A script is parsed as a whole before any of it is run. Every bracket, block and sign in front of
an operand opens a level of its own, and a script that is nested too deeply is refused like any
other malformed one. The parsers of a level are made from those of the level inside it.

From loose to tight the operators are `||`, `&&`, the two equalities, the comparisons, `..`, sums,
products and the signs in front of an operand. All of them group to the left.
-/

namespace Stencil.Script

/-- What is left to be parsed. -/
abbrev Tokens := List Token

/-- The parsers of one level. -/
structure Level where
  /-- An operand with the signs in front of it. -/
  operand : Tokens → Option (Expr × Tokens)
  /-- A whole expression. -/
  expression : Tokens → Option (Expr × Tokens)
  /-- A conditional, from its keyword on. -/
  conditional : Tokens → Option (Expr × Tokens)
  /-- Statements up to a closing brace or the end. -/
  statements : Tokens → Option (List Statement × Tokens)

namespace Parser

/-- How deep a script may be nested outside functions. -/
def scriptDepth : Nat := 128

/-- How deep a function may be nested. -/
def functionDepth : Nat := 64

/-- Words that are no names. -/
def reserved : List String :=
  ["true", "false", "let", "const", "if", "else", "switch", "do", "while", "until", "loop", "for",
    "in", "continue", "break", "fn", "private", "throw", "try", "catch", "return", "import",
    "export", "as", "global", "var", "static", "shared", "is", "goto", "exit", "match", "case",
    "public", "protected", "new", "use", "with", "module", "package", "super", "thread", "spawn",
    "go", "await", "async", "sync", "yield", "default", "void", "null", "nil", "each", "then",
    "unless", "this"]

/-- The tokens after a mark. -/
def expectMark (sign : String) : Tokens → Option Tokens
  | .mark found :: rest => if found = sign then some rest else none
  | _ => none

/-- The tokens after a keyword. -/
def expectWord (keyword : String) : Tokens → Option Tokens
  | .word found :: rest => if found = keyword then some rest else none
  | _ => none

/-- A name and the tokens after it. -/
def expectName : Tokens → Option (String × Tokens)
  | .word text :: rest => if reserved.contains text then none else some (text, rest)
  | _ => none

/-- A block between braces. -/
def block (level : Level) (tokens : Tokens) : Option (List Statement × Tokens) := do
  let inside ← expectMark "\x7b" tokens
  let (body, after) ← level.statements inside
  return (body, ← expectMark "\x7d" after)

/-- Items with commas between them up to a closing mark; a comma may stand after the last one.
There are at most `count` items. -/
def separated {α : Type} (item : Tokens → Option (α × Tokens)) (closing : String) :
    Nat → Tokens → Option (List α × Tokens)
  | 0, _ => none
  | count + 1, tokens =>
    match expectMark closing tokens with
    | some rest => some ([], rest)
    | none => do
      let (first, after) ← item tokens
      match expectMark "," after with
      | some next =>
        let (others, rest) ← separated item closing count next
        return (first :: others, rest)
      | none => return ([first], ← expectMark closing after)

/-- Items up to a closing mark. -/
def items {α : Type} (item : Tokens → Option (α × Tokens)) (closing : String) (tokens : Tokens) :
    Option (List α × Tokens) :=
  separated item closing (tokens.length + 1) tokens

/-- A named expression of a map. -/
def entry (inner : Level) (tokens : Tokens) : Option ((String × Expr) × Tokens) := do
  let (name, after) ← match tokens with
    | .literal (.string text) :: rest => some (text, rest)
    | _ => expectName tokens
  let (value, rest) ← inner.expression (← expectMark ":" after)
  return ((name, value), rest)

/-- A map, from behind its opening mark. A name stands in it once. -/
def map (inner : Level) (tokens : Tokens) : Option (Expr × Tokens) := do
  let (entries, rest) ← items (entry inner) "\x7d" tokens
  if (entries.map Prod.fst).eraseDups.length = entries.length then
    return (.map entries, rest)
  else none

/-- A conditional, from its keyword on. -/
def conditional (inner : Level) (tokens : Tokens) : Option (Expr × Tokens) := do
  let (condition, afterCondition) ← inner.expression (← expectWord "if" tokens)
  let (body, rest) ← block inner afterCondition
  match expectWord "else" rest with
  | none => return (.conditional condition body [], rest)
  | some afterElse =>
    match expectWord "if" afterElse with
    | some _ =>
      let (other, remaining) ← inner.conditional afterElse
      return (.conditional condition body [.expression other], remaining)
    | none =>
      let (other, remaining) ← block inner afterElse
      return (.conditional condition body other, remaining)

/-- A part of a text with code in it. -/
def part (inner : Level) : Part → Option Expr
  | .text content => some (.literal (.string content))
  | .code tokens => do
    let (body, rest) ← inner.statements tokens
    if rest.isEmpty then return .block body else none

/-- An operand without what follows it. -/
def primary (inner : Level) : Tokens → Option (Expr × Tokens)
  | .literal value :: rest => some (.literal value, rest)
  | .joined parts :: rest => do return (.joined (← parts.mapM (part inner)), rest)
  | .word "true" :: rest => some (.literal (.boolean true), rest)
  | .word "false" :: rest => some (.literal (.boolean false), rest)
  | .word "if" :: rest => inner.conditional (.word "if" :: rest)
  | .mark "(" :: rest =>
    match expectMark ")" rest with
    | some after => some (.literal .unit, after)
    | none => do
      let (inside, after) ← inner.expression rest
      return (inside, ← expectMark ")" after)
  | .mark "[" :: rest => do
    let (found, after) ← items inner.expression "]" rest
    return (.array found, after)
  | .mark "#\x7b" :: rest => map inner rest
  | .mark "\x7b" :: rest => do
    let (body, after) ← block inner (.mark "\x7b" :: rest)
    return (.block body, after)
  | tokens => do
    let (name, rest) ← expectName tokens
    match expectMark "(" rest with
    | some inside =>
      let (arguments, after) ← items inner.expression ")" inside
      return (.call name arguments, after)
    | none => return (.name name, rest)

/-- The properties, elements and calls behind an operand, at most `count` of them. -/
def suffixes (inner : Level) : Nat → Expr → Tokens → Option (Expr × Tokens)
  | 0, target, tokens => some (target, tokens)
  | count + 1, target, .mark "[" :: rest => do
    let (index, after) ← inner.expression rest
    suffixes inner count (.element target index) (← expectMark "]" after)
  | count + 1, target, .mark "." :: rest => do
    let (name, after) ← expectName rest
    match expectMark "(" after with
    | some inside =>
      let (arguments, remaining) ← items inner.expression ")" inside
      suffixes inner count (.method target name arguments) remaining
    | none => suffixes inner count (.property target name) after
  | _, target, tokens => some (target, tokens)

/-- The expression of a sign in front of an operand; a sign in front of a number belongs to it. -/
def signed (operator : UnaryOperator) (operand : Expr) : Expr :=
  match operator, operand with
  | .minus, .literal (.integer number) =>
    match Checked.negate? number with
    | some opposite => .literal (.integer opposite)
    | none => .unary .minus operand
  | .minus, .literal (.float number) => .literal (.float number.negate)
  | _, _ => .unary operator operand

/-- The operator that a mark in front of an operand is. -/
def sign? : Token → Option UnaryOperator
  | .mark "+" => some .plus
  | .mark "-" => some .minus
  | .mark "!" => some .not
  | _ => none

/-- An operand with the signs in front of it. -/
def operand (inner : Level) (tokens : Tokens) : Option (Expr × Tokens) :=
  match tokens with
  | [] => none
  | first :: rest =>
    match sign? first with
    | some operator => do
      let (found, after) ← inner.operand rest
      return (signed operator found, after)
    | none => do
      let (found, after) ← primary inner tokens
      suffixes inner after.length found after

/-- What an operator makes of its operands. -/
abbrev Combine := Token → Option (Expr → Expr → Expr)

/-- The links of a chain of operators after its first operand, at most `count` of them. -/
def links (operator? : Combine) (operand : Tokens → Option (Expr × Tokens)) :
    Nat → Expr → Tokens → Option (Expr × Tokens)
  | count + 1, left, token :: rest =>
    match operator? token with
    | some combine => do
      let (right, after) ← operand rest
      links operator? operand count (combine left right) after
    | none => some (left, token :: rest)
  | _, left, tokens => some (left, tokens)

/-- A chain of operators of one strength. -/
def chain (operator? : Combine) (operand : Tokens → Option (Expr × Tokens)) (tokens : Tokens) :
    Option (Expr × Tokens) := do
  let (first, rest) ← operand tokens
  links operator? operand rest.length first rest

/-- Products. -/
def factor? : Combine
  | .mark "*" => some (.binary .multiply)
  | .mark "/" => some (.binary .divide)
  | .mark "%" => some (.binary .remainder)
  | _ => none

/-- Sums. -/
def term? : Combine
  | .mark "+" => some (.binary .add)
  | .mark "-" => some (.binary .subtract)
  | _ => none

/-- Ranges. -/
def range? : Combine
  | .mark ".." => some (.binary .range)
  | _ => none

/-- Comparisons. -/
def comparison? : Combine
  | .mark "<" => some (.binary .less)
  | .mark "<=" => some (.binary .lessEqual)
  | .mark ">" => some (.binary .greater)
  | .mark ">=" => some (.binary .greaterEqual)
  | _ => none

/-- Equalities. -/
def equality? : Combine
  | .mark "==" => some (.binary .equal)
  | .mark "!=" => some (.binary .notEqual)
  | _ => none

/-- Conjunctions. -/
def both? : Combine
  | .mark "&&" => some .both
  | _ => none

/-- Disjunctions. -/
def either? : Combine
  | .mark "||" => some .either
  | _ => none

/-- A whole expression. -/
def expression (inner : Level) : Tokens → Option (Expr × Tokens) :=
  [factor?, term?, range?, comparison?, equality?, both?, either?].foldl
    (fun operand operator? => chain operator? operand) (operand inner)

/-- What an assignment does with the old value: nothing, or an operation. -/
def assignment? : Token → Option (Option BinaryOperator)
  | .mark "=" => some none
  | .mark "+=" => some (some .add)
  | .mark "-=" => some (some .subtract)
  | .mark "*=" => some (some .multiply)
  | .mark "/=" => some (some .divide)
  | .mark "%=" => some (some .remainder)
  | _ => none

/-- An expression or an assignment. -/
def simpleStatement (inner : Level) (tokens : Tokens) : Option (Statement × Tokens) := do
  let (left, after) ← expression inner tokens
  match after with
  | [] => return (.expression left, [])
  | token :: rest =>
    match assignment? token with
    | none => return (.expression left, after)
    | some operator =>
      if left.isPlace then
        let (value, remaining) ← inner.expression rest
        return (.assign left operator value, remaining)
      else none

/-- Whether a statement ends here. -/
def atEnd : Tokens → Bool
  | [] => true
  | .mark ";" :: _ => true
  | .mark "\x7d" :: _ => true
  | _ => false

/-- An expression that may be left out. -/
def optional (inner : Level) (tokens : Tokens) : Option (Expr × Tokens) :=
  if atEnd tokens then some (.literal .unit, tokens) else inner.expression tokens

/-- A declaration, from behind its keyword. -/
def declaration (inner : Level) (constant : Bool) (tokens : Tokens) :
    Option (Statement × Tokens) := do
  let (name, after) ← expectName tokens
  match expectMark "=" after with
  | some next =>
    let (value, rest) ← inner.expression next
    return (.declare constant name value, rest)
  | none => return (.declare constant name (.literal .unit), after)

/-- A loop over a source, from behind its keyword. -/
def eachLoop (inner : Level) (tokens : Tokens) : Option (Statement × Tokens) := do
  let (name, after) ← expectName tokens
  let (source, afterSource) ← inner.expression (← expectWord "in" after)
  let (body, rest) ← block inner afterSource
  return (.each name source body, rest)

/-- The name for what was thrown, between parentheses. -/
def caughtName (tokens : Tokens) : Option (Option String × Tokens) :=
  match expectMark "(" tokens with
  | none => some (none, tokens)
  | some inside => do
    let (name, after) ← expectName inside
    return (some name, ← expectMark ")" after)

/-- A guarded body and its handler, from behind the keyword. -/
def guarded (inner : Level) (tokens : Tokens) : Option (Statement × Tokens) := do
  let (body, after) ← block inner tokens
  let (name, afterName) ← caughtName (← expectWord "catch" after)
  let (handler, rest) ← block inner afterName
  return (.attempt body name handler, rest)

/-- A statement, and whether it needs no semicolon after it. -/
def statement (inner : Level) (tokens : Tokens) : Option ((Statement × Bool) × Tokens) :=
  match tokens with
  | .word "let" :: rest => do
    let (found, after) ← declaration inner false rest
    return ((found, false), after)
  | .word "const" :: rest => do
    let (found, after) ← declaration inner true rest
    return ((found, false), after)
  | .word "if" :: _ => do
    let (found, after) ← inner.conditional tokens
    return ((.expression found, true), after)
  | .mark "\x7b" :: _ => do
    let (body, after) ← block inner tokens
    return ((.expression (.block body), true), after)
  | .word "while" :: rest => do
    let (condition, afterCondition) ← inner.expression rest
    let (body, after) ← block inner afterCondition
    return ((.repeating condition body, true), after)
  | .word "for" :: rest => do
    let (found, after) ← eachLoop inner rest
    return ((found, true), after)
  | .word "try" :: rest => do
    let (found, after) ← guarded inner rest
    return ((found, true), after)
  | .word "throw" :: rest => do
    let (value, after) ← optional inner rest
    return ((.throwing value, false), after)
  | .word "return" :: rest => do
    let (value, after) ← optional inner rest
    return ((.returning value, false), after)
  | _ => do
    let (found, after) ← simpleStatement inner tokens
    return ((found, false), after)

/-- Statements up to a closing brace or the end, at most `count` of them. -/
def statementsWithin (inner : Level) : Nat → Tokens → Option (List Statement × Tokens)
  | 0, tokens => some ([], tokens)
  | _, [] => some ([], [])
  | count + 1, .mark ";" :: rest => statementsWithin inner count rest
  | _, .mark "\x7d" :: rest => some ([], .mark "\x7d" :: rest)
  | count + 1, tokens => do
    let ((first, complete), after) ← statement inner tokens
    if complete || atEnd after then
      let (others, rest) ← statementsWithin inner count after
      return (first :: others, rest)
    else none

/-- The level around another one. -/
def around (inner : Level) : Level where
  operand := operand inner
  expression := expression inner
  conditional := conditional inner
  statements := fun tokens => statementsWithin inner (tokens.length + 1) tokens

/-- The innermost level, where nothing more may be nested. -/
def innermost : Level :=
  ⟨fun _ => none, fun _ => none, fun _ => none, fun _ => none⟩

/-- The level that a number of others may be nested in. -/
def level : Nat → Level
  | 0 => innermost
  | depth + 1 => around (level depth)

/-- A function, from behind its keyword. -/
def function (tokens : Tokens) : Option (Function × Tokens) := do
  let (name, after) ← expectName tokens
  let (parameters, afterParameters) ← items expectName ")" (← expectMark "(" after)
  let (body, rest) ← block (level functionDepth) afterParameters
  if parameters.eraseDups.length = parameters.length then return (⟨name, parameters, body⟩, rest)
  else none

/-- Statements and functions up to the end, at most `count` of them. -/
def programWithin : Nat → Tokens → Option Program
  | 0, _ => none
  | _, [] => some ⟨[], []⟩
  | count + 1, .mark ";" :: rest => programWithin count rest
  | count + 1, .word "fn" :: rest => do
    let (found, after) ← function rest
    let program ← programWithin count after
    if (program.function? found.name found.parameters.length).isSome then none
    else return { program with functions := found :: program.functions }
  | count + 1, tokens => do
    let ((first, complete), after) ← statement (level scriptDepth) tokens
    if after.isEmpty || complete || (expectMark ";" after).isSome then
      let program ← programWithin count after
      return { program with statements := first :: program.statements }
    else none

end Parser

end Stencil.Script
