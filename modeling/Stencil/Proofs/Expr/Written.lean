import Stencil.Proofs.Token.Writing
import Stencil.Template.Expr

/-!
# How expressions are written

An expression is written with parentheses only where an operand binds looser than its place asks
for. Beside the tokens of an expression stands its depth: how many levels a parser goes down while
it reads them. Parentheses, a sign, a `not`, brackets and arguments count one level for what is
inside; in a chain, each link counts one level more than the link before, and the first operand
counts none.
-/

namespace Stencil

/-- How tightly a form of expression binds, from loose to tight. -/
inductive Level where
  /-- Operands joined by `or`. -/
  | disjunction
  /-- Operands joined by `and`. -/
  | conjunction
  /-- A `not` before its operand. -/
  | negation
  /-- Two operands compared. -/
  | comparison
  /-- Operands added and subtracted. -/
  | sum
  /-- Operands multiplied and divided. -/
  | product
  /-- A sign before its operand. -/
  | sign
  /-- A property or an element. -/
  | access
  /-- Everything that needs no parentheses anywhere. -/
  | primary
deriving DecidableEq, Repr

namespace Level

/-- The place of a level, counted from the loosest. -/
def rank : Level → Nat
  | disjunction => 0
  | conjunction => 1
  | negation => 2
  | comparison => 3
  | sum => 4
  | product => 5
  | sign => 6
  | access => 7
  | primary => 8

/-- The next tighter level; the tightest level is its own. -/
def tighter : Level → Level
  | disjunction => conjunction
  | conjunction => negation
  | negation => comparison
  | comparison => sum
  | sum => product
  | product => sign
  | sign => access
  | access => primary
  | primary => primary

/-- The next tighter level comes right behind. -/
theorem rank_tighter {level : Level} (notPrimary : level ≠ primary) :
    level.tighter.rank = level.rank + 1 := by
  cases level <;> first | rfl | exact absurd rfl notPrimary

/-- Going tighter goes no looser. -/
theorem rank_le_rank_tighter (level : Level) : level.rank ≤ level.tighter.rank := by
  cases level <;> decide

/-- No level is tighter than the tightest. -/
theorem rank_le_primary (level : Level) : level.rank ≤ primary.rank := by
  cases level <;> decide

/-- A level is known by its place. -/
theorem rank_injective {left right : Level} (same : left.rank = right.rank) : left = right := by
  cases left <;> cases right <;> first | rfl | cases same

end Level

/-- How tightly an operator binds. -/
def UnaryOperator.level : UnaryOperator → Level
  | not => .negation
  | negate => .sign

/-- The token of an operator. -/
def UnaryOperator.token : UnaryOperator → Token
  | not => .keyword .notWord
  | negate => .symbol .minus

namespace BinaryOperator

/-- How tightly an operator binds. -/
def level : BinaryOperator → Level
  | or => .disjunction
  | and => .conjunction
  | equal | notEqual | less | lessEqual | greater | greaterEqual => .comparison
  | add | subtract => .sum
  | multiply | divide | remainder => .product

/-- The loosest left operand that needs no parentheses. Chains lean to the left, and comparisons
do not chain. -/
def leftLevel (operator : BinaryOperator) : Level :=
  if operator.level = .comparison then .sum else operator.level

/-- The token of an operator. -/
def token : BinaryOperator → Token
  | or => .keyword .orWord
  | and => .keyword .andWord
  | equal => .symbol .equal
  | notEqual => .symbol .notEqual
  | less => .symbol .less
  | lessEqual => .symbol .lessEqual
  | greater => .symbol .greater
  | greaterEqual => .symbol .greaterEqual
  | add => .symbol .plus
  | subtract => .symbol .minus
  | multiply => .symbol .star
  | divide => .symbol .slash
  | remainder => .symbol .percent

end BinaryOperator

namespace Value

/-- The token that writes a value; only scalars have one. -/
def token : Value → Token
  | boolean truth => .boolean truth
  | integer number => .integer number
  | float number => .float number
  | string text => .string text
  | null | bytes _ | array _ | map _ => .null

/-- Whether a value can be written as a literal. -/
def isWritable : Value → Bool
  | null | boolean _ | string _ => true
  | integer number => 0 ≤ number.toInt
  | float _ | bytes _ | array _ | map _ => false

end Value

namespace Expr

/-- How tightly an expression binds. -/
def level : Expr → Level
  | literal _ | name _ | call _ _ | array _ => .primary
  | access _ _ => .access
  | unary operator _ => operator.level
  | binary operator _ _ => operator.level

/-- Whether an expression binds looser than its place asks for. -/
def isLooser (expression : Expr) (place : Level) : Bool := expression.level.rank < place.rank

/-- Tokens between parentheses when they are needed. -/
def enclose (needed : Bool) (tokens : List Token) : List Token :=
  if needed then .symbol .openParen :: (tokens ++ [.symbol .closeParen]) else tokens

mutual

/-- The tokens of an expression. -/
def tokens : Expr → List Token
  | literal value => [value.token]
  | name text => [.name text]
  | access target key =>
    enclose (target.isLooser .access) target.tokens ++
      .symbol .openBracket :: (key.tokens ++ [.symbol .closeBracket])
  | call builtin arguments =>
    .name builtin.name :: .symbol .openParen :: (itemTokens arguments ++ [.symbol .closeParen])
  | unary operator operand =>
    operator.token :: enclose (operand.isLooser operator.level) operand.tokens
  | binary operator left right =>
    enclose (left.isLooser operator.leftLevel) left.tokens ++
      operator.token :: enclose (right.isLooser operator.level.tighter) right.tokens
  | array items => .symbol .openBracket :: (itemTokens items ++ [.symbol .closeBracket])

/-- The tokens of expressions separated by commas. -/
def itemTokens : List Expr → List Token
  | [] => []
  | [last] => last.tokens
  | first :: others => first.tokens ++ .symbol .comma :: itemTokens others

end

/-- How many links of a chain of some level an expression ends in. -/
def links (level : Level) : Expr → Nat
  | access target _ => if level = .access then links level target + 1 else 0
  | binary operator left _ => if operator.level = level then links level left + 1 else 0
  | literal _ | name _ | call _ _ | unary _ _ | array _ => 0

mutual

/-- How many levels a parser goes down while it reads the tokens of an expression. -/
def depth : Expr → Nat
  | literal _ | name _ => 0
  | access target key =>
    max (target.depth + (target.isLooser .access).toNat) (target.links .access + 1 + key.depth)
  | call _ arguments => itemDepth arguments + 1
  | unary operator operand => operand.depth + (operand.isLooser operator.level).toNat + 1
  | binary operator left right =>
    let before := left.depth + (left.isLooser operator.leftLevel).toNat
    let behind := right.depth + (right.isLooser operator.level.tighter).toNat
    if operator.level = .comparison then max before behind
    else max before (left.links operator.level + 1 + behind)
  | array items => itemDepth items + 1

/-- The depth of the deepest of some expressions. -/
def itemDepth : List Expr → Nat
  | [] => 0
  | first :: others => max first.depth (itemDepth others)

end

mutual

/-- Whether an expression can be written: its literals are scalars without a sign or a fraction, its
names are no keywords, and its calls have as many arguments as their function takes. -/
def isWritable : Expr → Bool
  | literal value => value.isWritable
  | name text => Token.isName text
  | access target key => target.isWritable && key.isWritable
  | call builtin arguments => builtin.accepts arguments.length && itemsWritable arguments
  | unary _ operand => operand.isWritable
  | binary _ left right => left.isWritable && right.isWritable
  | array items => itemsWritable items

/-- Whether all of some expressions can be written. -/
def itemsWritable : List Expr → Bool
  | [] => true
  | first :: others => first.isWritable && itemsWritable others

end

/-- The text of an expression, with one space between any two tokens. -/
def text (expression : Expr) : List Char := Token.spaced expression.tokens

/-- To prove something of all expressions, prove it of each form from its operands and items. -/
@[elab_as_elim, induction_eliminator]
theorem induction {motive : Expr → Prop} (literal : ∀ value, motive (literal value))
    (name : ∀ text, motive (name text))
    (access : ∀ target key, motive target → motive key → motive (access target key))
    (call : ∀ builtin arguments, (∀ item ∈ arguments, motive item) →
      motive (call builtin arguments))
    (unary : ∀ operator operand, motive operand → motive (unary operator operand))
    (binary : ∀ operator left right, motive left → motive right →
      motive (binary operator left right))
    (array : ∀ items, (∀ item ∈ items, motive item) → motive (array items))
    (expression : Expr) : motive expression :=
  @Expr.rec motive (fun items => ∀ item ∈ items, motive item) literal name access call unary binary
    array (fun _ member => absurd member List.not_mem_nil)
    (fun _ _ first others item member => by
      rcases List.mem_cons.mp member with rfl | later
      · exact first
      · exact others item later)
    expression

/-- All of some expressions can be written when each one can. -/
theorem itemsWritable_iff {items : List Expr} :
    itemsWritable items = true ↔ ∀ item ∈ items, item.isWritable = true := by
  induction items with
  | nil => simp [itemsWritable]
  | cons first others ih => simp [itemsWritable, ih]

/-- Parentheses can be written, and so can what they enclose. -/
theorem hasSpelling_enclose {needed : Bool} {tokens : List Token}
    (written : ∀ token ∈ tokens, token.hasSpelling = true) :
    ∀ token ∈ enclose needed tokens, token.hasSpelling = true := by
  intro token member
  cases needed with
  | false => exact written token member
  | true =>
    simp only [enclose, ↓reduceIte, List.mem_cons, List.mem_append, List.not_mem_nil,
      or_false] at member
    rcases member with rfl | inside | rfl
    · rfl
    · exact written token inside
    · rfl

/-- A token among those of some items is a comma or a token of one of them. -/
theorem mem_itemTokens {items : List Expr} {token : Token} (member : token ∈ itemTokens items) :
    token = .symbol .comma ∨ ∃ item ∈ items, token ∈ item.tokens := by
  induction items with
  | nil => simp [itemTokens] at member
  | cons first others ih =>
    cases others with
    | nil => exact Or.inr ⟨first, by simp, by simpa [itemTokens] using member⟩
    | cons second others =>
      simp only [itemTokens, List.mem_append, List.mem_cons] at member
      rcases member with inside | rfl | later
      · exact Or.inr ⟨first, by simp, inside⟩
      · exact Or.inl rfl
      · rcases ih later with comma | ⟨item, among, inside⟩
        · exact Or.inl comma
        · exact Or.inr ⟨item, by simp [among], inside⟩

/-- The name of a function is written as a name. -/
theorem isName_builtin (builtin : Builtin) : Token.isName builtin.name = true := by
  cases builtin <;> decide

/-- The tokens of a writable expression all have a spelling. -/
theorem hasSpelling_tokens {expression : Expr} (writable : expression.isWritable = true) :
    ∀ token ∈ expression.tokens, token.hasSpelling = true := by
  induction expression with
  | literal value =>
    intro token member
    obtain rfl : token = value.token := by simpa [tokens] using member
    cases value with
    | integer number => exact writable
    | null | boolean truth | string text => rfl
    | float number | bytes content | array items | map entries => cases writable
  | name text =>
    intro token member
    obtain rfl : token = .name text := by simpa [tokens] using member
    exact writable
  | access target key targetIh keyIh =>
    simp only [isWritable, Bool.and_eq_true] at writable
    intro token member
    simp only [tokens, List.mem_append, List.mem_cons, List.not_mem_nil, or_false] at member
    rcases member with inside | rfl | inside | rfl
    · exact hasSpelling_enclose (targetIh writable.1) token inside
    · rfl
    · exact keyIh writable.2 token inside
    · rfl
  | call builtin arguments ih =>
    simp only [isWritable, Bool.and_eq_true, itemsWritable_iff] at writable
    intro token member
    simp only [tokens, List.mem_cons, List.mem_append, List.not_mem_nil, or_false] at member
    rcases member with rfl | rfl | inside | rfl
    · exact isName_builtin builtin
    · rfl
    · rcases mem_itemTokens inside with rfl | ⟨item, among, inside⟩
      · rfl
      · exact ih item among (writable.2 item among) token inside
    · rfl
  | unary operator operand ih =>
    intro token member
    simp only [tokens, List.mem_cons] at member
    rcases member with rfl | inside
    · cases operator <;> rfl
    · exact hasSpelling_enclose (ih writable) token inside
  | binary operator left right leftIh rightIh =>
    simp only [isWritable, Bool.and_eq_true] at writable
    intro token member
    simp only [tokens, List.mem_append, List.mem_cons] at member
    rcases member with inside | rfl | inside
    · exact hasSpelling_enclose (leftIh writable.1) token inside
    · cases operator <;> rfl
    · exact hasSpelling_enclose (rightIh writable.2) token inside
  | array items ih =>
    simp only [isWritable, itemsWritable_iff] at writable
    intro token member
    simp only [tokens, List.mem_cons, List.mem_append, List.not_mem_nil, or_false] at member
    rcases member with rfl | inside | rfl
    · rfl
    · rcases mem_itemTokens inside with rfl | ⟨item, among, inside⟩
      · rfl
      · exact ih item among (writable item among) token inside
    · rfl

/-- The text of a writable expression writes its tokens. -/
theorem writes_text {expression : Expr} (writable : expression.isWritable = true) :
    Token.Writes expression.tokens expression.text :=
  Token.writes_spaced (hasSpelling_tokens writable)

end Expr

end Stencil
