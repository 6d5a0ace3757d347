import Stencil.Proofs.Expr.Reading
import Stencil.Template.Tag

/-!
# Reading back a written expression

The tokens of an expression are read back as that expression when its depth is within the budget,
and are refused as too deep when it is not. The proof goes by induction on the expression. What it
shows of an expression is stated for the parser of the expression's own level, for every budget and
for every rest at which the operands end; the looser parsers and the parentheses follow from there.
-/

namespace Stencil.Expr

open TokenStream (Spells)

/-- The parser of an expression's own level reads its tokens within every budget, and goes on from
the budget that the links of its chain have left. -/
def ReadsBack (expression : Expr) : Prop :=
  ∀ (bound budget : Nat) (stream rest : TokenStream), budget ≤ bound →
    Spells expression.tokens stream rest → rest.Ends expression.level.tighter →
    Resumes (parserAt (parseBelow bound) expression.level budget stream)
      (continueAt (parseBelow bound) expression.level
        (budget - expression.links expression.level) expression rest)
      (expression.depth ≤ budget)

/-- Only a chain of a level has links of that level. -/
theorem links_eq_zero {expression : Expr} {level : Level} (other : expression.level ≠ level) :
    expression.links level = 0 := by
  cases expression with
  | access target key => exact if_neg fun same => other same.symm
  | binary operator left right => exact if_neg other
  | literal value | name text | call builtin arguments | unary operator operand | array items => rfl

namespace ReadsBack

variable {expression : Expr} {level : Level} {bound budget : Nat} {stream rest : TokenStream}

/-- An expression is read back at every level that asks for no parentheses. -/
theorem of_level (reads : ReadsBack expression) (ordered : level.rank ≤ expression.level.rank)
    (within : budget ≤ bound) (spells : Spells expression.tokens stream rest)
    (ends : rest.Ends level) :
    Resumes (parserAt (parseBelow bound) level budget stream) (.ok (expression, rest))
      (expression.depth ≤ budget) := by
  have endsOwn := ends.mono ordered
  have own := reads bound budget stream rest within spells
    (endsOwn.mono expression.level.rank_le_rank_tighter)
  rw [continueAt_ends endsOwn] at own
  refine parserAt_of_tight ordered (fun other looser => ?_) ends own
  obtain ⟨first, others, start, written, known, above⟩ := starts_tokens expression
  rw [written] at spells
  rw [spells.peek_eq]
  exact Level.prefix?_eq_none known (Nat.lt_of_lt_of_le looser above)

/-- A whole expression is read back with less than the bound. -/
theorem whole (reads : ReadsBack expression) (less : budget < bound)
    (spells : Spells expression.tokens stream rest) (ends : rest.Ends .disjunction) :
    Resumes (parseBelow bound budget stream) (.ok (expression, rest))
      (expression.depth ≤ budget) := by
  cases bound with
  | zero => exact absurd less (Nat.not_lt_zero _)
  | succ bound => exact reads.of_level (Nat.zero_le _) (Nat.le_of_lt_succ less) spells ends

/-- An operand is read back at its place, between parentheses when it binds too loose. -/
theorem enclosed (reads : ReadsBack expression) (within : budget ≤ bound)
    (spells : Spells (enclose (expression.isLooser level) expression.tokens) stream rest)
    (ends : rest.Ends level) :
    Resumes (parserAt (parseBelow bound) level budget stream) (.ok (expression, rest))
      (expression.depth + (expression.isLooser level).toNat ≤ budget) := by
  cases looser : expression.isLooser level with
  | false =>
    rw [looser] at spells
    simp only [isLooser, decide_eq_false_iff_not, Nat.not_lt] at looser
    exact reads.of_level looser within spells ends
  | true =>
    rw [looser] at spells
    obtain ⟨after, moved, others⟩ := spells.advance_eq ends.readable
    obtain ⟨middle, inside, closing⟩ := TokenStream.spells_append.mp others
    obtain ⟨final, closed, ⟨⟩⟩ := closing.expect_eq ends.readable
    have endsInside := closing.ends_closer ends.readable (by simp)
    have primary : Resumes (parsePrimary (parseBelow bound) budget stream)
        (.ok (expression, rest)) (expression.depth + 1 ≤ budget) :=
      parsePrimary_paren spells.peek_eq moved (fun less below =>
        reads.whole (Nat.lt_of_lt_of_le below within) inside endsInside) closed
    refine parserAt_of_tight level.rank_le_primary (fun other _ => ?_) ends primary
    rw [spells.peek_eq]
    cases other <;> rfl

/-- The first operand of a chain is read back, and the chain goes on behind it. -/
theorem firstOperand (reads : ReadsBack expression) (chain : level.isChain = true)
    (within : budget ≤ bound)
    (spells : Spells (enclose (expression.isLooser level) expression.tokens) stream rest)
    (ends : rest.Ends level.tighter) :
    Resumes (parserAt (parseBelow bound) level budget stream)
      (continueAt (parseBelow bound) level (budget - expression.links level) expression rest)
      (expression.depth + (expression.isLooser level).toNat ≤ budget) := by
  -- An operand of the same level is the chain so far, and its links have used up their budget.
  by_cases same : expression.level = level
  · subst same
    have notLooser : expression.isLooser expression.level = false := by simp [isLooser]
    rw [notLooser] at spells ⊢
    exact reads bound budget stream rest within spells ends
  · have notPrimary : level ≠ .primary := by
      rintro rfl
      cases chain
    have tighter : expression.isLooser level.tighter = expression.isLooser level := by
      have apart : expression.level.rank ≠ level.rank := fun equal => same (Level.rank_injective equal)
      simp only [isLooser, Level.rank_tighter notPrimary, decide_eq_decide]
      omega
    rw [← tighter] at spells ⊢
    rw [links_eq_zero same, Nat.sub_zero]
    refine parserAt_of_tighter notPrimary ?_ ?_ (reads.enclosed within spells ends)
    · cases level <;> first | rfl | cases chain
    · rintro rfl
      cases chain

end ReadsBack

/-! ## Each form -/

/-- A literal is read back. -/
theorem readsBack_literal {value : Value} (writable : value.isWritable = true) :
    ReadsBack (.literal value) := by
  intro bound budget stream rest within spells ends
  obtain ⟨after, moved, ⟨⟩⟩ := spells.advance_eq ends.readable
  have found : literalOf? stream.peek = some value := by
    rw [spells.peek_eq]
    cases value <;> first | rfl | cases writable
  refine ⟨fun _ => ?_, fun deep => absurd (Nat.zero_le _) deep⟩
  change parsePrimary _ _ _ = .ok (.literal value, rest)
  rw [parsePrimary]
  simp only [found, moved]
  rfl

/-- A name is read back. -/
theorem readsBack_name (text : String) : ReadsBack (.name text) := by
  intro bound budget stream rest within spells ends
  obtain ⟨after, moved, ⟨⟩⟩ := spells.advance_eq ends.readable
  have found : stream.peek = .name text := spells.peek_eq
  have noCall : rest.peek ≠ .symbol .openParen := by
    have stops := ends.stops .primary (Level.rank_le_primary _)
    simpa [Level.continues] using stops
  refine ⟨fun _ => ?_, fun deep => absurd (Nat.zero_le _) deep⟩
  change parsePrimary _ _ _ = .ok (.name text, rest)
  rw [parsePrimary]
  simp only [found, literalOf?, parseName, moved]
  exact if_neg noCall

/-- An access is read back. -/
theorem readsBack_access {target key : Expr} (targetReads : ReadsBack target)
    (keyReads : ReadsBack key) : ReadsBack (.access target key) := by
  intro bound budget stream rest within spells ends
  obtain ⟨opening, before, behind⟩ := TokenStream.spells_append.mp spells
  have opens := behind.ends_bracket ends.readable
  have first : Resumes (parserAt (parseBelow bound) .access budget stream)
      (continueAt (parseBelow bound) .access (budget - target.links .access) target opening)
      (target.depth + (target.isLooser .access).toNat ≤ budget) :=
    targetReads.firstOperand rfl within before opens
  obtain ⟨inside, moved, others⟩ := behind.advance_eq ends.readable
  obtain ⟨middle, keySpells, closing⟩ := TokenStream.spells_append.mp others
  obtain ⟨final, closed, ⟨⟩⟩ := closing.expect_eq ends.readable
  have endsKey := closing.ends_closer ends.readable (by simp)
  have link : Resumes
      (parseAccesses (parseBelow bound) (budget - target.links .access) target opening)
      (parseAccesses (parseBelow bound) (budget - target.links .access - 1) (.access target key)
        rest) (key.depth + 1 ≤ budget - target.links .access) :=
    parseAccesses_bracket behind.peek_eq moved
      (fun less below => keyReads.whole (by omega) keySpells endsKey) closed
  have links : (access target key).links .access = target.links .access + 1 := by simp [Expr.links]
  have chain := first.trans link
  change Resumes _ (parseAccesses _ (budget - (access target key).links .access) _ _) _
  rw [links, ← Nat.sub_sub]
  refine chain.congr ?_
  rw [depth, Nat.max_le]
  omega

/-- An operator before its operand is read back. -/
theorem readsBack_unary {operand : Expr} (operator : UnaryOperator) (reads : ReadsBack operand) :
    ReadsBack (.unary operator operand) := by
  intro bound budget stream rest within spells ends
  obtain ⟨after, moved, others⟩ := spells.advance_eq ends.readable
  have ends : rest.Ends operator.level := by
    refine ⟨ends.readable, fun other above => ?_⟩
    by_cases same : operator.level = other
    · subst same
      cases operator <;> rfl
    · refine ends.stops other ?_
      have notPrimary : operator.level ≠ .primary := by cases operator <;> decide
      have next := Level.rank_tighter notPrimary
      have apart : operator.level.rank ≠ other.rank := fun equal => same (Level.rank_injective equal)
      change operator.level.tighter.rank ≤ other.rank
      omega
  have inside : ∀ less < budget, Resumes (parserAt (parseBelow bound) operator.level less after)
      (.ok (operand, rest)) (operand.depth + (operand.isLooser operator.level).toNat ≤ less) :=
    fun less below => reads.enclosed (by omega) others ends
  cases operator with
  | not =>
    have found : not? stream.peek = some .not := by rw [spells.peek_eq]; rfl
    exact parsePrefixed_some found moved inside
  | negate =>
    have found : sign? stream.peek = some .negate := by rw [spells.peek_eq]; rfl
    exact parsePrefixed_some found moved inside

/-- An operator between its operands is read back. -/
theorem readsBack_binary {left right : Expr} (operator : BinaryOperator)
    (leftReads : ReadsBack left) (rightReads : ReadsBack right) :
    ReadsBack (.binary operator left right) := by
  intro bound budget stream rest within spells ends
  obtain ⟨middle, before, behind⟩ := TokenStream.spells_append.mp spells
  obtain ⟨after, moved, others⟩ := behind.advance_eq ends.readable
  have endsLeft := behind.ends_operator ends.readable
  have found : operator.level.operator? middle.peek = some operator := by
    rw [behind.peek_eq]
    cases operator <;> rfl
  change Resumes (parserAt _ operator.level _ _) (continueAt _ operator.level _ _ _) _
  change rest.Ends operator.level.tighter at ends
  -- A comparison is no chain: both of its operands are read with the whole budget.
  by_cases comparison : operator.level = .comparison
  · have leftLevel : operator.leftLevel = .sum := if_pos comparison
    have rightLevel : operator.level.tighter = .sum := by rw [comparison]; rfl
    rw [leftLevel] at before
    rw [rightLevel] at endsLeft others ends
    rw [comparison] at found ⊢
    have whole := parseComparison_some (leftReads.enclosed within before endsLeft) found moved
      (rightReads.enclosed within others ends)
    refine whole.congr ?_
    simp only [depth, leftLevel, rightLevel, if_pos comparison, Nat.max_le]
  · have leftLevel : operator.leftLevel = operator.level := if_neg comparison
    have chain : operator.level.isChain = true := by
      cases operator <;> first | rfl | exact absurd rfl comparison
    have goesOn (budget : Nat) (expression : Expr) (rest : TokenStream) :
        continueAt (parseBelow bound) operator.level budget expression rest =
          parseLinks operator.level.operator? (parserAt (parseBelow bound) operator.level.tighter)
            budget expression rest := by
      cases operator <;> first | rfl | exact absurd rfl comparison
    rw [leftLevel] at before
    have first := leftReads.firstOperand chain within before endsLeft
    have operand : ∀ less < budget - left.links operator.level,
        Resumes (parserAt (parseBelow bound) operator.level.tighter less after)
          (.ok (right, rest))
          (right.depth + (right.isLooser operator.level.tighter).toNat ≤ less) :=
      fun less below => rightReads.enclosed (by omega) others ends
    rw [goesOn] at first
    have whole := first.trans (parseLinks_some found moved operand)
    have links : (binary operator left right).links (binary operator left right).level =
        left.links operator.level + 1 := if_pos rfl
    rw [goesOn, links, ← Nat.sub_sub]
    refine whole.congr ?_
    simp only [depth, leftLevel, if_neg comparison, Nat.max_le]
    omega

/-! ## Items -/

/-- Items are no fewer than their tokens, and so no more than what a stream holds. -/
theorem length_le_itemTokens (items : List Expr) : items.length ≤ (itemTokens items).length := by
  induction items with
  | nil => exact Nat.zero_le _
  | cons first others ih =>
    obtain ⟨token, tokens, start, written, known, above⟩ := starts_tokens first
    cases others with
    | nil => simp [itemTokens, written]
    | cons second others =>
      simp only [itemTokens, List.length_append, List.length_cons] at ih ⊢
      omega

/-- An item does not start with a closing token. -/
theorem peek_ne_closing {item : Expr} {stream rest : TokenStream} {closing : Token}
    (isClosing : closing = .symbol .closeParen ∨ closing = .symbol .closeBracket)
    (spells : Spells item.tokens stream rest) : stream.peek ≠ closing := by
  obtain ⟨first, others, start, written, known, above⟩ := starts_tokens item
  rw [written] at spells
  rw [spells.peek_eq]
  rintro rfl
  rcases isClosing with rfl | rfl <;> cases known

/-- Written items are read back up to the closing token behind them. -/
theorem parseItems_itemTokens {item : TokenStream → Except SyntaxError (Expr × TokenStream)}
    {closing : Token} {budget : Nat}
    (isClosing : closing = .symbol .closeParen ∨ closing = .symbol .closeBracket)
    {items : List Expr} (reads : ∀ expression ∈ items, ∀ stream rest,
      Spells expression.tokens stream rest → rest.Ends .disjunction →
        Resumes (item stream) (.ok (expression, rest)) (expression.depth ≤ budget))
    {steps : Nat} (enough : items.length < steps) {stream rest : TokenStream}
    (spells : Spells (itemTokens items ++ [closing]) stream rest)
    (readable : rest.check = .ok rest) :
    Resumes (parseItems item closing steps stream) (.ok (items, rest))
      (itemDepth items ≤ budget) := by
  induction items generalizing steps stream with
  | nil =>
    obtain ⟨steps, rfl⟩ : ∃ fewer, steps = fewer + 1 := ⟨steps - 1, by simp at enough; omega⟩
    obtain ⟨after, moved, ⟨⟩⟩ := spells.advance_eq readable
    rw [parseItems, if_pos spells.peek_eq, moved]
    exact (Resumes.refl _).congr (by simp [itemDepth])
  | cons first others ih =>
    obtain ⟨steps, rfl⟩ : ∃ fewer, steps = fewer + 1 := ⟨steps - 1, by simp at enough; omega⟩
    rw [itemDepth]
    cases others with
    | nil =>
      obtain ⟨middle, before, behind⟩ := TokenStream.spells_append.mp spells
      obtain ⟨after, moved, ⟨⟩⟩ := behind.advance_eq readable
      have closer := behind.ends_closer readable (Or.inr isClosing)
      have noComma : closing ≠ .symbol .comma := by rcases isClosing with rfl | rfl <;> decide
      rw [parseItems, if_neg (peek_ne_closing isClosing before)]
      rw [Nat.max_le]
      refine ((reads first (by simp) stream middle before closer).bind _).trans ?_
      simp only [behind.peek_eq, if_neg noComma, moved]
      exact (Resumes.refl _).congr (by simp [itemDepth])
    | cons second others =>
      rw [itemTokens, List.append_assoc, List.cons_append] at spells
      · obtain ⟨middle, before, behind⟩ := TokenStream.spells_append.mp spells
        obtain ⟨after, moved, later⟩ := behind.advance_eq readable
        have closer := behind.ends_closer readable (Or.inl rfl)
        have continues := ih (fun expression member => reads expression (by simp [member]))
          (by simpa using enough) later
        rw [parseItems, if_neg (peek_ne_closing isClosing before)]
        rw [Nat.max_le]
        refine ((reads first (by simp) stream middle before closer).bind _).trans ?_
        simp only [behind.peek_eq, moved]
        exact continues.bind _
      · simp

/-- The items of a list are read one level down. -/
theorem parseList_itemTokens {closing : Token} {items : List Expr} {bound budget : Nat}
    {stream rest : TokenStream}
    (isClosing : closing = .symbol .closeParen ∨ closing = .symbol .closeBracket)
    (reads : ∀ item ∈ items, ReadsBack item) (within : budget ≤ bound)
    (spells : Spells (itemTokens items ++ [closing]) stream rest)
    (readable : rest.check = .ok rest) :
    Resumes (parseList (parseBelow bound) closing budget stream) (.ok (items, rest))
      (itemDepth items + 1 ≤ budget) := by
  have enough : items.length < stream.size + 1 := by
    have size := spells.size_eq
    have fewer := length_le_itemTokens items
    simp only [List.length_append] at size
    omega
  cases budget with
  | zero => exact .refuse stream (by omega)
  | succ less =>
    have read : Resumes (parseItems (parseBelow bound less) closing (stream.size + 1) stream)
        (.ok (items, rest)) (itemDepth items ≤ less) :=
      parseItems_itemTokens isClosing (fun item member stream rest spells ends =>
        (reads item member).whole (Nat.lt_of_succ_le within) spells ends) enough spells readable
    exact read.congr (by omega)

/-- An array is read back. -/
theorem readsBack_array {items : List Expr} (reads : ∀ item ∈ items, ReadsBack item) :
    ReadsBack (.array items) := by
  intro bound budget stream rest within spells ends
  obtain ⟨after, moved, others⟩ := spells.advance_eq ends.readable
  have found : stream.peek = .symbol .openBracket := spells.peek_eq
  change Resumes (parsePrimary _ _ _) (.ok (.array items, rest)) _
  rw [parsePrimary]
  simp only [found, literalOf?, moved]
  exact (parseList_itemTokens (Or.inr rfl) reads within others ends.readable).bind _

/-- A call is read back when its function takes its arguments. -/
theorem readsBack_call {builtin : Builtin} {arguments : List Expr}
    (accepts : builtin.accepts arguments.length = true)
    (reads : ∀ item ∈ arguments, ReadsBack item) : ReadsBack (.call builtin arguments) := by
  intro bound budget stream rest within spells ends
  obtain ⟨after, moved, others⟩ := spells.advance_eq ends.readable
  have opening := others.peek_eq
  obtain ⟨inside, entered, others⟩ := others.advance_eq ends.readable
  have found : stream.peek = .name builtin.name := spells.peek_eq
  change Resumes (parsePrimary _ _ _) (.ok (.call builtin arguments, rest)) _
  rw [parsePrimary]
  simp only [found, literalOf?, parseName, moved]
  change Resumes (if after.peek = .symbol .openParen then _ else _) _ _
  simp only [if_pos opening, Builtin.ofName?_name, entered]
  refine (parseList_itemTokens (Or.inl rfl) reads within others ends.readable).andThen ?_
  exact if_pos accepts

/-- Every writable expression is read back. -/
theorem readsBack {expression : Expr} (writable : expression.isWritable = true) :
    ReadsBack expression := by
  induction expression with
  | literal value => exact readsBack_literal writable
  | name text => exact readsBack_name text
  | access target key targetIh keyIh =>
    simp only [isWritable, Bool.and_eq_true] at writable
    exact readsBack_access (targetIh writable.1) (keyIh writable.2)
  | call builtin arguments ih =>
    simp only [isWritable, Bool.and_eq_true, itemsWritable_iff] at writable
    exact readsBack_call writable.1 fun item member => ih item member (writable.2 item member)
  | unary operator operand ih => exact readsBack_unary operator (ih writable)
  | binary operator left right leftIh rightIh =>
    simp only [isWritable, Bool.and_eq_true] at writable
    exact readsBack_binary operator (leftIh writable.1) (rightIh writable.2)
  | array items ih =>
    simp only [isWritable, itemsWritable_iff] at writable
    exact readsBack_array fun item member => ih item member (writable item member)

/-- A writable expression at the front of a stream is read when its depth is within the budget, and
is refused as too deep when it is not. -/
theorem parseWithin_tokens {expression : Expr} {stream rest : TokenStream}
    (writable : expression.isWritable = true) (budget : Nat)
    (spells : Spells expression.tokens stream rest) (ends : rest.Ends .disjunction) :
    Resumes (parseWithin budget stream) (.ok (expression, rest)) (expression.depth ≤ budget) :=
  (readsBack writable).whole (Nat.lt_succ_self budget) spells ends

/-- A whole expression that is all of a tag is read, or refused as too deep. -/
theorem resumes_parseLast {expression : Expr} {stream : TokenStream} {finish : Position}
    (writable : expression.isWritable = true)
    (spells : Spells expression.tokens stream (.finish finish)) :
    Resumes (Tag.parseLast stream) (.ok expression) (expression.depth ≤ maxExpressionDepth) :=
  (parseWithin_tokens writable maxExpressionDepth spells (TokenStream.ends_finish finish)).bind _

/-- Reading a text that writes an expression gives back that expression when its depth is within
the limit, and fails with the code of too deep expressions when it is not. Its own text, with a
space between any two tokens, is one of those that write it. -/
theorem parseLast_written {expression : Expr} (writable : expression.isWritable = true) :
    Token.Writes expression.tokens expression.text ∧
      ∀ text, Token.Writes expression.tokens text → ∀ position,
        (expression.depth ≤ maxExpressionDepth →
          (TokenStream.ofText text position >>= Tag.parseLast) = .ok expression) ∧
        (maxExpressionDepth < expression.depth → ∃ error,
          (TokenStream.ofText text position >>= Tag.parseLast) = .error error ∧
            error.fault.code = 205) := by
  refine ⟨writes_text writable, fun text writes position => ?_⟩
  obtain ⟨stream, finish, lexed, spells⟩ := TokenStream.ofText_eq_ok writes position
  have read := resumes_parseLast writable spells
  rw [lexed]
  refine ⟨read.accepted, fun deep => ?_⟩
  obtain ⟨place, refused⟩ := read.refused (Nat.not_le.mpr deep)
  exact ⟨_, refused, rfl⟩

/-- A product of a sum and a signed access is read back from its text, and a name behind
sixty-five `not` is too deep. -/
theorem parseLast_written_samples :
    let product : Expr := .binary .multiply (.binary .add (.literal (.integer 1)) (.name "rows"))
      (.unary .negate (.access (.name "rows") (.literal (.integer 0))))
    let refusal : Expr := (unary .not)^[65] (.name "rows")
    (product.isWritable = true ∧ product.text = "( 1 + rows ) * - rows [ 0 ]".toList ∧
      product.depth = 3 ∧ (TokenStream.ofText product.text .origin >>= Tag.parseLast) = .ok product) ∧
    (refusal.isWritable = true ∧ refusal.depth = 65 ∧ ∃ error,
      (TokenStream.ofText refusal.text .origin >>= Tag.parseLast) = .error error ∧
        error.fault.code = 205) := by
  intro product refusal
  have productWritable : product.isWritable = true := by decide
  have refusalWritable : refusal.isWritable = true := by decide
  have product := parseLast_written productWritable
  have refusal := parseLast_written refusalWritable
  exact ⟨⟨productWritable, by decide, by decide, (product.2 _ product.1 .origin).1 (by decide)⟩,
    refusalWritable, by decide, (refusal.2 _ refusal.1 .origin).2 (by decide)⟩

end Stencil.Expr
