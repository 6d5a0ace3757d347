import Stencil.Proofs.Expr.Written
import Stencil.Proofs.Outcome
import Stencil.Template.Expr.Parser

/-!
# How expressions are read

Reading a written expression resumes behind it when the budget suffices. Every parser has a lemma
that says how its outcome follows from those of its operands. A chain is left open at its end, so
that a longer chain can go on from there.
-/

namespace Stencil

namespace Level

/-- The operators that join the operands of a level. -/
def operator? : Level → Token → Option BinaryOperator
  | disjunction => Expr.or?
  | conjunction => Expr.and?
  | comparison => Expr.comparison?
  | sum => Expr.term?
  | product => Expr.factor?
  | negation | sign | access | primary => fun _ => none

/-- The levels at which links follow a first operand. -/
def isChain : Level → Bool
  | disjunction | conjunction | sum | product | access => true
  | negation | comparison | sign | primary => false

/-- The operators that stand before the operand of a level. -/
def prefix? : Level → Token → Option UnaryOperator
  | negation => Expr.not?
  | sign => Expr.sign?
  | disjunction | conjunction | comparison | sum | product | access | primary => fun _ => none

/-- Whether an expression of a level goes on with a token. -/
def continues (level : Level) (token : Token) : Bool :=
  match level with
  | access => token = .symbol .dot || token = .symbol .openBracket
  | primary => token = .symbol .openParen
  | _ => (level.operator? token).isSome

end Level

/-- A stream at which expressions of a level and of all tighter ones end. -/
structure TokenStream.Ends (level : Level) (stream : TokenStream) : Prop where
  /-- The token in front can be read. -/
  readable : stream.check = .ok stream
  /-- It does not go on with an expression. -/
  stops : ∀ other : Level, level.rank ≤ other.rank → other.continues stream.peek = false

/-- Where looser expressions end, tighter ones end too. -/
theorem TokenStream.Ends.mono {loose tight : Level} {stream : TokenStream}
    (ends : stream.Ends loose) (ordered : loose.rank ≤ tight.rank) : stream.Ends tight :=
  ⟨ends.readable, fun other above => ends.stops other (Nat.le_trans ordered above)⟩

namespace TokenStream

variable {first : Token} {tokens : List Token} {stream rest : TokenStream}

/-- Expressions of a level end in front of a token that goes on with none of them. -/
theorem Spells.ends {level : Level} (spells : Spells (first :: tokens) stream rest)
    (readable : rest.check = .ok rest)
    (stops : ∀ other : Level, level.rank ≤ other.rank → other.continues first = false) :
    stream.Ends level :=
  ⟨spells.check_eq readable, by rw [spells.peek_eq]; exact stops⟩

/-- Every expression ends in front of a comma and a closing bracket. -/
theorem Spells.ends_closer (spells : Spells (first :: tokens) stream rest)
    (readable : rest.check = .ok rest)
    (closer : first = .symbol .comma ∨ first = .symbol .closeParen ∨
      first = .symbol .closeBracket) : stream.Ends .disjunction := by
  refine spells.ends readable fun other _ => ?_
  rcases closer with rfl | rfl | rfl <;> cases other <;> decide

/-- Every operand that is tighter than an operator ends in front of it. -/
theorem Spells.ends_operator {operator : BinaryOperator}
    (spells : Spells (operator.token :: tokens) stream rest) (readable : rest.check = .ok rest) :
    stream.Ends operator.level.tighter := by
  refine spells.ends readable fun other above => ?_
  revert above
  cases operator <;> cases other <;> decide

/-- Only an access goes on with an opening bracket. -/
theorem Spells.ends_bracket (spells : Spells (.symbol .openBracket :: tokens) stream rest)
    (readable : rest.check = .ok rest) : stream.Ends .primary := by
  refine spells.ends readable fun other above => ?_
  revert above
  cases other <;> decide

/-- Every expression ends at the end of a tag. -/
theorem ends_finish (position : Position) : (finish position).Ends .disjunction :=
  ⟨rfl, fun other _ => by cases other <;> rfl⟩

/-- A token that is expected and found is passed. -/
theorem Spells.expect_eq (spells : Spells (first :: tokens) stream rest)
    (readable : rest.check = .ok rest) :
    ∃ after, stream.expect first = .ok after ∧ Spells tokens after rest := by
  obtain ⟨after, moved, others⟩ := spells.advance_eq readable
  exact ⟨after, by rw [expect, if_pos spells.peek_eq, moved], others⟩

end TokenStream

/-- The level of the tightest expressions that a token can start. -/
def Token.startLevel? : Token → Option Level
  | name _ | string _ | integer _ | float _ | boolean _ | null => some .primary
  | symbol .openParen | symbol .openBracket => some .primary
  | symbol .minus => some .sign
  | symbol .bang | keyword .notWord => some .negation
  | _ => none

/-- No operator stands before an expression that starts at a tighter level. -/
theorem Level.prefix?_eq_none {level start : Level} {token : Token}
    (starts : token.startLevel? = some start) (looser : level.rank < start.rank) :
    level.prefix? token = none := by
  cases token with
  | symbol found =>
    cases found <;> cases starts <;> (cases level <;> first | rfl | exact absurd looser (by decide))
  | keyword found =>
    cases found <;> cases starts
    cases level <;> first | rfl | exact absurd looser (by decide)
  | name text | string text | integer number | float number | boolean truth | null =>
    cases level <;> rfl
  | finish => cases starts

/-- Tokens that start an expression of a level or a tighter one. -/
def Level.Starts (level : Level) (tokens : List Token) : Prop :=
  ∃ first others start, tokens = first :: others ∧ first.startLevel? = some start ∧
    level.rank ≤ start.rank

/-- What follows does not change how tokens start. -/
theorem Level.Starts.append {level : Level} {tokens : List Token} (starts : level.Starts tokens)
    (behind : List Token) : level.Starts (tokens ++ behind) := by
  obtain ⟨first, others, start, rfl, known, above⟩ := starts
  exact ⟨first, others ++ behind, start, rfl, known, above⟩

namespace Expr

/-- Parentheses lift what they enclose to the level of its place. -/
theorem starts_enclose {expression : Expr} (place : Level)
    (starts : expression.level.Starts expression.tokens) :
    place.Starts (enclose (expression.isLooser place) expression.tokens) := by
  cases looser : expression.isLooser place with
  | true => exact ⟨.symbol .openParen, _, .primary, rfl, rfl, place.rank_le_primary⟩
  | false =>
    obtain ⟨first, others, start, written, known, above⟩ := starts
    simp only [isLooser, decide_eq_false_iff_not, Nat.not_lt] at looser
    exact ⟨first, others, start, written, known, Nat.le_trans looser above⟩

/-- An expression starts with a token that may start expressions of its level. -/
theorem starts_tokens (expression : Expr) : expression.level.Starts expression.tokens := by
  induction expression with
  | literal value => cases value <;> exact ⟨_, [], .primary, rfl, rfl, Nat.le_refl _⟩
  | name text => exact ⟨_, [], .primary, rfl, rfl, Nat.le_refl _⟩
  | access target key targetIh keyIh => exact (starts_enclose .access targetIh).append _
  | call builtin arguments ih => exact ⟨_, _, .primary, rfl, rfl, Nat.le_refl _⟩
  | unary operator operand ih =>
    cases operator with
    | not => exact ⟨_, _, .negation, rfl, rfl, Nat.le_refl _⟩
    | negate => exact ⟨_, _, .sign, rfl, rfl, Nat.le_refl _⟩
  | binary operator left right leftIh rightIh =>
    have starts := starts_enclose operator.leftLevel leftIh
    obtain ⟨first, others, start, written, known, above⟩ := starts.append
      (operator.token :: enclose (right.isLooser operator.level.tighter) right.tokens)
    have ordered : operator.level.rank ≤ operator.leftLevel.rank := by cases operator <;> decide
    exact ⟨first, others, start, written, known, Nat.le_trans ordered above⟩
  | array items ih => exact ⟨_, _, .primary, rfl, rfl, Nat.le_refl _⟩

/-- The parser of a level, given the parser of whole expressions for what stands between
parentheses and brackets. -/
def parserAt (inner : Parser) : Level → Parser
  | .disjunction => parseDisjunction inner
  | .conjunction => parseChain and? (parseNegation inner)
  | .negation => parseNegation inner
  | .comparison => parseComparison (parseSum inner)
  | .sum => parseSum inner
  | .product => parseProduct inner
  | .sign => parsePrefixed sign? (parsePostfix inner)
  | .access => parsePostfix inner
  | .primary => parsePrimary inner

/-- What the parser of a level does behind a first operand. -/
def continueAt (inner : Parser) (level : Level) (budget : Nat) (operand : Expr)
    (rest : TokenStream) : Except SyntaxError (Expr × TokenStream) :=
  match level with
  | .disjunction | .conjunction | .sum | .product =>
    parseLinks level.operator? (parserAt inner level.tighter) budget operand rest
  | .access => parseAccesses inner budget operand rest
  | .negation | .comparison | .sign | .primary => .ok (operand, rest)

/-! ## Links -/

section

variable {operator? : Token → Option BinaryOperator} {operand inner : Parser} {budget depth : Nat}
  {left right target key : Expr} {stream after middle rest : TokenStream}

/-- A chain ends at a token that is none of its operators. -/
theorem parseLinks_none (stops : operator? rest.peek = none) :
    parseLinks operator? operand budget left rest = .ok (left, rest) := by
  rw [parseLinks.eq_def]
  simp only [stops]

/-- A link is read one level down, and the chain goes on from there. -/
theorem parseLinks_some {operator : BinaryOperator} (found : operator? stream.peek = some operator)
    (moved : stream.advance = .ok after)
    (reads : ∀ less < budget, Resumes (operand less after) (.ok (right, rest)) (depth ≤ less)) :
    Resumes (parseLinks operator? operand budget left stream)
      (parseLinks operator? operand (budget - 1) (.binary operator left right) rest)
      (depth + 1 ≤ budget) := by
  rw [parseLinks.eq_def operator? operand budget left stream]
  simp only [found, moved]
  cases budget with
  | zero => exact .refuse after (by omega)
  | succ less =>
    have read := reads less (Nat.lt_succ_self less)
    exact (read.bind _).congr (by omega)

/-- Accesses end at a token that opens none. -/
theorem parseAccesses_none (noDot : rest.peek ≠ .symbol .dot)
    (noBracket : rest.peek ≠ .symbol .openBracket) :
    parseAccesses inner budget target rest = .ok (target, rest) := by
  rw [parseAccesses.eq_def]
  dsimp only
  split
  · rename_i dot
    exact absurd dot noDot
  · rename_i bracket
    exact absurd bracket noBracket
  · rfl

/-- A key between brackets is read one level down, and the accesses go on from there. -/
theorem parseAccesses_bracket (found : stream.peek = .symbol .openBracket)
    (moved : stream.advance = .ok after)
    (reads : ∀ less < budget, Resumes (inner less after) (.ok (key, middle)) (depth ≤ less))
    (closed : middle.expect (.symbol .closeBracket) = .ok rest) :
    Resumes (parseAccesses inner budget target stream)
      (parseAccesses inner (budget - 1) (.access target key) rest) (depth + 1 ≤ budget) := by
  rw [parseAccesses.eq_def inner budget target stream]
  simp only [found, moved]
  cases budget with
  | zero => exact .refuse after (by omega)
  | succ less =>
    have read := reads less (Nat.lt_succ_self less)
    refine (read.andThen ?_).congr (by omega)
    simp only [closed]
    rfl

/-! ## Prefixes, comparisons, items and parentheses -/

/-- Without an operator in front an operand is read alone. -/
theorem parsePrefixed_none {operator? : Token → Option UnaryOperator}
    (stops : operator? stream.peek = none) :
    parsePrefixed operator? operand budget stream = operand budget stream := by
  rw [parsePrefixed.eq_def]
  simp only [stops]

/-- The operand behind an operator is read one level down. -/
theorem parsePrefixed_some {operator? : Token → Option UnaryOperator} {operator : UnaryOperator}
    (found : operator? stream.peek = some operator) (moved : stream.advance = .ok after)
    (reads : ∀ less < budget,
      Resumes (parsePrefixed operator? operand less after) (.ok (right, rest)) (depth ≤ less)) :
    Resumes (parsePrefixed operator? operand budget stream) (.ok (.unary operator right, rest))
      (depth + 1 ≤ budget) := by
  rw [parsePrefixed.eq_def operator? operand budget stream]
  simp only [found, moved]
  cases budget with
  | zero => exact .refuse after (by omega)
  | succ less =>
    have read := reads less (Nat.lt_succ_self less)
    exact (read.bind _).congr (by omega)

/-- A comparison reads its two operands within the same budget. -/
theorem parseComparison_some {operator : BinaryOperator} {fits further : Prop}
    (before : Resumes (operand budget stream) (.ok (left, middle)) fits)
    (found : comparison? middle.peek = some operator) (moved : middle.advance = .ok after)
    (behind : Resumes (operand budget after) (.ok (right, rest)) further) :
    Resumes (parseComparison operand budget stream) (.ok (.binary operator left right, rest))
      (fits ∧ further) := by
  refine (before.bind _).trans ?_
  simp only [found, moved]
  exact behind.bind _

/-- What stands between parentheses is read one level down. -/
theorem parsePrimary_paren {inside : Expr} (found : stream.peek = .symbol .openParen)
    (moved : stream.advance = .ok after)
    (reads : ∀ less < budget, Resumes (inner less after) (.ok (inside, middle)) (depth ≤ less))
    (closed : middle.expect (.symbol .closeParen) = .ok rest) :
    Resumes (parsePrimary inner budget stream) (.ok (inside, rest)) (depth + 1 ≤ budget) := by
  rw [parsePrimary]
  simp only [found, moved, literalOf?]
  cases budget with
  | zero => exact ⟨fun fits => absurd fits (by omega), fun _ => ⟨_, rfl⟩⟩
  | succ less =>
    have read := reads less (Nat.lt_succ_self less)
    refine (read.andThen ?_).congr (by omega)
    simp only [closed]
    rfl

end

/-! ## Levels -/

section

variable {inner : Parser} {level : Level} {budget : Nat} {fits : Prop} {expression : Expr}
  {stream rest : TokenStream}

/-- What follows a first operand goes no further where its level ends. -/
theorem continueAt_ends (ends : rest.Ends level) :
    continueAt inner level budget expression rest = .ok (expression, rest) := by
  have stops := ends.stops level (Nat.le_refl _)
  cases level
  case negation | comparison | sign | primary => rfl
  case access =>
    simp only [Level.continues, Bool.or_eq_false_iff, decide_eq_false_iff_not] at stops
    exact parseAccesses_none stops.1 stops.2
  all_goals exact parseLinks_none (by simpa [Level.continues] using stops)

/-- A first operand is read by the next tighter level, unless an operator stands before it. -/
theorem parserAt_of_tighter (notPrimary : level ≠ .primary)
    (noPrefix : level.prefix? stream.peek = none)
    (single : level = .comparison → comparison? rest.peek = none)
    (resumes : Resumes (parserAt inner level.tighter budget stream) (.ok (expression, rest)) fits) :
    Resumes (parserAt inner level budget stream)
      (continueAt inner level budget expression rest) fits := by
  cases level
  case primary => exact absurd rfl notPrimary
  case negation =>
    have alone : parserAt inner .negation budget stream = parserAt inner .comparison budget stream :=
      parsePrefixed_none noPrefix
    rw [alone]
    exact resumes
  case sign =>
    have alone : parserAt inner .sign budget stream = parserAt inner .access budget stream :=
      parsePrefixed_none noPrefix
    rw [alone]
    exact resumes
  case comparison =>
    refine resumes.andThen ?_
    simp only [single rfl]
    rfl
  all_goals exact resumes.bind _

/-- An expression that is read at a tight level is read at every looser one that ends where it
ends. -/
theorem parserAt_of_tight {tight : Level} (ordered : level.rank ≤ tight.rank)
    (starts : ∀ other : Level, other.rank < tight.rank → other.prefix? stream.peek = none)
    (ends : rest.Ends level)
    (resumes : Resumes (parserAt inner tight budget stream) (.ok (expression, rest)) fits) :
    Resumes (parserAt inner level budget stream) (.ok (expression, rest)) fits := by
  obtain ⟨distance, apart⟩ := Nat.exists_eq_add_of_le ordered
  induction distance generalizing level with
  | zero =>
    obtain rfl : tight = level := Level.rank_injective (by omega)
    exact resumes
  | succ distance ih =>
    have notPrimary : level ≠ .primary := by
      rintro rfl
      have bound := tight.rank_le_primary
      omega
    have next := Level.rank_tighter notPrimary
    have tighter : Resumes (parserAt inner level.tighter budget stream) (.ok (expression, rest))
        fits := ih (by omega) (ends.mono level.rank_le_rank_tighter) (by omega)
    have whole : Resumes (parserAt inner level budget stream)
        (continueAt inner level budget expression rest) fits := by
      refine parserAt_of_tighter notPrimary (starts level (by omega)) ?_ tighter
      rintro rfl
      have stops := ends.stops .comparison (Nat.le_refl _)
      simpa [Level.continues, Level.operator?] using stops
    rw [continueAt_ends ends] at whole
    exact whole

end

end Expr

end Stencil
