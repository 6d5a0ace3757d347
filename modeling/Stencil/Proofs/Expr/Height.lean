import Mathlib.Logic.Function.Iterate
import Stencil.Proofs.Expr.RoundTrip

/-!
# How high accepted expressions are

The limit on depth bounds each chain and each nesting by itself. The budget is restored behind a
chain, so the operand of a looser chain may be as high as its own budget allows, and the heights of
chains within chains add up. The main statement gives the least bound for the heights of all
accepted expressions, and says for which written expressions a smaller bound holds.
-/

namespace Stencil.Expr

open TokenStream (Spells)

mutual

/-- How many levels of nodes an expression has above its literals and names. -/
def height : Expr → Nat
  | literal _ | name _ => 0
  | access target key => max target.height key.height + 1
  | call _ arguments => itemHeight arguments + 1
  | unary _ operand => operand.height + 1
  | binary _ left right => max left.height right.height + 1
  | array items => itemHeight items + 1

/-- The height of the highest of some expressions. -/
def itemHeight : List Expr → Nat
  | [] => 0
  | first :: others => max first.height (itemHeight others)

end

/-- The greatest height of an expression that is read within a budget. Each unit of the budget pays
for a link in each of five chains and for the brackets around what a smaller budget reads; one
comparison is free. -/
def greatestHeight : Nat → Nat
  | 0 => 1
  | budget + 1 => greatestHeight budget + 5 * (budget + 1) + 2

/-- The greatest height of what stands before any link. -/
def greatestOperand : Nat → Nat
  | 0 => 0
  | budget + 1 => greatestHeight budget + 1

/-- Five chains and a comparison stand above an operand. -/
theorem greatestHeight_eq (budget : Nat) :
    greatestHeight budget = greatestOperand budget + 5 * budget + 1 := by
  cases budget with
  | zero => rfl
  | succ budget =>
    rw [greatestHeight, greatestOperand]
    omega

/-- A larger budget reads higher expressions. -/
theorem greatestHeight_mono {less budget : Nat} (ordered : less ≤ budget) :
    greatestHeight less ≤ greatestHeight budget := by
  induction ordered with
  | refl => exact Nat.le_refl _
  | @step budget ordered ih =>
    rw [greatestHeight]
    omega

/-- A larger budget reads higher operands. -/
theorem greatestOperand_mono {less budget : Nat} (ordered : less ≤ budget) :
    greatestOperand less ≤ greatestOperand budget := by
  cases less with
  | zero => exact Nat.zero_le _
  | succ less =>
    cases budget with
    | zero => cases ordered
    | succ budget =>
      have inside := greatestHeight_mono (Nat.le_of_succ_le_succ ordered)
      rw [greatestOperand, greatestOperand]
      omega

/-! ## No parser goes higher -/

/-- A parser that makes nothing higher than an operand with some chains and comparisons above. -/
def Parser.Builds (chains comparisons : Nat) (parser : Parser) : Prop :=
  ∀ budget stream expression rest, parser budget stream = .ok (expression, rest) →
    expression.height ≤ greatestOperand budget + chains * budget + comparisons

/-- An expression parser, as far as its heights go: five chains and a comparison. -/
theorem Parser.Builds.height_le {inner : Parser} (builds : inner.Builds 5 1) {budget : Nat}
    {stream rest : TokenStream} {expression : Expr}
    (reads : inner budget stream = .ok (expression, rest)) :
    expression.height ≤ greatestHeight budget := by
  rw [greatestHeight_eq]
  exact builds budget stream expression rest reads

/-- Items are no higher than the parser of items makes them. -/
theorem itemHeight_le {item : TokenStream → Except SyntaxError (Expr × TokenStream)}
    {closing : Token} {bound steps : Nat} {stream rest : TokenStream} {items : List Expr}
    (below : ∀ stream expression rest, item stream = .ok (expression, rest) →
      expression.height ≤ bound)
    (reads : parseItems item closing steps stream = .ok (items, rest)) :
    itemHeight items ≤ bound := by
  induction steps generalizing stream items with
  | zero => cases reads
  | succ steps ih =>
    rw [parseItems] at reads
    split at reads
    · obtain ⟨after, moved, same⟩ := bind_eq_ok_iff.mp reads
      cases same
      exact Nat.zero_le _
    · obtain ⟨⟨first, middle⟩, read, continues⟩ := bind_eq_ok_iff.mp reads
      have firstBelow := below _ _ _ read
      simp only at continues
      split at continues
      · obtain ⟨after, moved, continues⟩ := bind_eq_ok_iff.mp continues
        obtain ⟨⟨others, final⟩, later, same⟩ := bind_eq_ok_iff.mp continues
        cases same
        rw [itemHeight]
        exact Nat.max_le.mpr ⟨firstBelow, ih later⟩
      · split at continues
        · obtain ⟨after, moved, same⟩ := bind_eq_ok_iff.mp continues
          cases same
          simpa [itemHeight] using firstBelow
        · cases continues

/-- What stands between brackets is read within a smaller budget. -/
theorem height_deeper {inner : Parser} {budget : Nat} {stream rest : TokenStream}
    {expression : Expr} (builds : inner.Builds 5 1)
    (reads : deeper inner budget stream = .ok (expression, rest)) :
    expression.height ≤ greatestOperand budget := by
  cases budget with
  | zero => cases reads
  | succ less => exact Nat.le_succ_of_le (builds.height_le reads)

/-- A list and the node around it are no higher than an operand. -/
theorem itemHeight_parseList {inner : Parser} {closing : Token} {budget : Nat}
    {stream rest : TokenStream} {items : List Expr} (builds : inner.Builds 5 1)
    (reads : parseList inner closing budget stream = .ok (items, rest)) :
    itemHeight items + 1 ≤ greatestOperand budget := by
  cases budget with
  | zero => cases reads
  | succ less =>
    exact Nat.succ_le_succ (itemHeight_le (fun _ _ _ read => builds.height_le read) reads)

/-- What stands before any link is no higher than an operand. -/
theorem builds_primary {inner : Parser} (builds : inner.Builds 5 1) :
    Parser.Builds 0 0 (parsePrimary inner) := by
  intro budget stream expression rest reads
  rw [Nat.zero_mul]
  rw [parsePrimary] at reads
  split at reads
  · obtain ⟨after, moved, same⟩ := bind_eq_ok_iff.mp reads
    cases same
    exact Nat.zero_le _
  · split at reads
    · rw [parseName] at reads
      obtain ⟨after, moved, continues⟩ := bind_eq_ok_iff.mp reads
      split at continues
      · split at continues
        · cases continues
        · obtain ⟨inside, entered, continues⟩ := bind_eq_ok_iff.mp continues
          obtain ⟨⟨arguments, final⟩, listed, same⟩ := bind_eq_ok_iff.mp continues
          simp only at same
          split at same
          · cases same
            exact itemHeight_parseList builds listed
          · cases same
      · cases continues
        exact Nat.zero_le _
    · obtain ⟨after, moved, continues⟩ := bind_eq_ok_iff.mp reads
      obtain ⟨⟨inside, middle⟩, read, continues⟩ := bind_eq_ok_iff.mp continues
      obtain ⟨final, closed, same⟩ := bind_eq_ok_iff.mp continues
      cases same
      exact height_deeper builds read
    · obtain ⟨after, moved, continues⟩ := bind_eq_ok_iff.mp reads
      obtain ⟨⟨items, final⟩, listed, same⟩ := bind_eq_ok_iff.mp continues
      cases same
      exact itemHeight_parseList builds listed
    · cases reads
    · cases reads

/-- Each access adds one level and takes one from the budget. -/
theorem height_parseAccesses {inner : Parser} (builds : inner.Builds 5 1)
    {limit budget : Nat} (room : ∀ less < budget, greatestHeight less + less < limit)
    {target expression : Expr} (fits : target.height + budget ≤ limit) {stream rest : TokenStream}
    (reads : parseAccesses inner budget target stream = .ok (expression, rest)) :
    expression.height ≤ limit := by
  induction budget generalizing target stream with
  | zero =>
    rw [parseAccesses.eq_def] at reads
    dsimp only at reads
    split at reads
    · obtain ⟨after, moved, ⟨⟩⟩ := bind_eq_ok_iff.mp reads
    · obtain ⟨after, moved, ⟨⟩⟩ := bind_eq_ok_iff.mp reads
    · cases reads
      exact fits
  | succ budget ih =>
    -- A key is read with what is left of the budget, so it stays below the limit that `room` sets.
    have later : ∀ less < budget, greatestHeight less + less < limit :=
      fun less ordered => room less (Nat.lt_succ_of_lt ordered)
    have keyRoom := room budget (Nat.lt_succ_self budget)
    rw [parseAccesses.eq_def] at reads
    dsimp only at reads
    split at reads
    · obtain ⟨after, moved, continues⟩ := bind_eq_ok_iff.mp reads
      obtain ⟨⟨key, middle⟩, read, continues⟩ := bind_eq_ok_iff.mp continues
      refine ih later ?_ continues
      simp only [height]
      omega
    · obtain ⟨after, moved, continues⟩ := bind_eq_ok_iff.mp reads
      obtain ⟨⟨key, middle⟩, read, continues⟩ := bind_eq_ok_iff.mp continues
      obtain ⟨final, closed, continues⟩ := bind_eq_ok_iff.mp continues
      have keyBelow := builds.height_le read
      refine ih later ?_ continues
      simp only [height]
      omega
    · cases reads
      omega

/-- Each link adds one level and takes one from the budget. -/
theorem height_parseLinks {operator? : Token → Option BinaryOperator} {operand : Parser}
    {operandLimit : Nat → Nat} (below : ∀ less stream expression rest,
      operand less stream = .ok (expression, rest) → expression.height ≤ operandLimit less)
    {limit budget : Nat} (room : ∀ less < budget, operandLimit less + less < limit)
    {left expression : Expr} (fits : left.height + budget ≤ limit) {stream rest : TokenStream}
    (reads : parseLinks operator? operand budget left stream = .ok (expression, rest)) :
    expression.height ≤ limit := by
  induction budget generalizing left stream with
  | zero =>
    rw [parseLinks.eq_def] at reads
    dsimp only at reads
    split at reads
    · cases reads
      exact fits
    · obtain ⟨after, moved, ⟨⟩⟩ := bind_eq_ok_iff.mp reads
  | succ budget ih =>
    have later : ∀ less < budget, operandLimit less + less < limit :=
      fun less ordered => room less (Nat.lt_succ_of_lt ordered)
    have rightRoom := room budget (Nat.lt_succ_self budget)
    rw [parseLinks.eq_def] at reads
    dsimp only at reads
    split at reads
    · cases reads
      omega
    · obtain ⟨after, moved, continues⟩ := bind_eq_ok_iff.mp reads
      obtain ⟨⟨right, middle⟩, read, continues⟩ := bind_eq_ok_iff.mp continues
      have rightBelow := below _ _ _ _ read
      refine ih later ?_ continues
      simp only [height]
      omega

/-- The accesses behind an operand are a chain. -/
theorem builds_accesses {inner : Parser} (builds : inner.Builds 5 1) :
    Parser.Builds 1 0 (parsePostfix inner) := by
  intro budget stream expression rest reads
  obtain ⟨⟨target, middle⟩, read, continues⟩ := bind_eq_ok_iff.mp reads
  have targetBelow := builds_primary builds _ _ _ _ read
  refine height_parseAccesses builds (fun less ordered => ?_) (by omega) continues
  have keyBelow := greatestOperand_mono ordered
  rw [greatestOperand] at keyBelow
  omega

section

variable {chains comparisons : Nat} {operand : Parser}

/-- The links behind an operand are one chain more. -/
theorem builds_chain (operator? : Token → Option BinaryOperator)
    (builds : operand.Builds chains comparisons) :
    Parser.Builds (chains + 1) comparisons (parseChain operator? operand) := by
  intro budget stream expression rest reads
  obtain ⟨⟨first, middle⟩, read, continues⟩ := bind_eq_ok_iff.mp reads
  have firstBelow := builds _ _ _ _ read
  have chain := Nat.add_one_mul chains budget
  refine height_parseLinks builds (fun less ordered => ?_) (by omega) continues
  have operands := greatestOperand_mono (Nat.le_of_lt ordered)
  have others := Nat.mul_le_mul_left chains (Nat.le_of_lt ordered)
  omega

/-- Operators in front of an operand add no more than a chain in it would. -/
theorem builds_prefixed (operator? : Token → Option UnaryOperator)
    (builds : operand.Builds (chains + 1) comparisons) :
    Parser.Builds (chains + 1) comparisons (parsePrefixed operator? operand) := by
  intro budget
  induction budget with
  | zero =>
    intro stream expression rest reads
    rw [parsePrefixed.eq_def] at reads
    dsimp only at reads
    split at reads
    · exact builds _ _ _ _ reads
    · obtain ⟨after, moved, ⟨⟩⟩ := bind_eq_ok_iff.mp reads
  | succ budget ih =>
    intro stream expression rest reads
    rw [parsePrefixed.eq_def] at reads
    dsimp only at reads
    split at reads
    · exact builds _ _ _ _ reads
    · obtain ⟨after, moved, continues⟩ := bind_eq_ok_iff.mp reads
      obtain ⟨⟨inside, middle⟩, read, same⟩ := bind_eq_ok_iff.mp continues
      cases same
      have insideBelow := ih _ _ _ read
      have operands := greatestOperand_mono (Nat.le_add_right budget 1)
      have chain := Nat.mul_add_one (chains + 1) budget
      simp only [height]
      omega

/-- A comparison adds one level. -/
theorem builds_comparison (builds : operand.Builds chains comparisons) :
    Parser.Builds chains (comparisons + 1) (parseComparison operand) := by
  intro budget stream expression rest reads
  obtain ⟨⟨left, middle⟩, readLeft, continues⟩ := bind_eq_ok_iff.mp reads
  have leftBelow := builds _ _ _ _ readLeft
  dsimp only at continues
  split at continues
  · cases continues
    exact Nat.le_succ_of_le leftBelow
  · obtain ⟨after, moved, continues⟩ := bind_eq_ok_iff.mp continues
    obtain ⟨⟨right, final⟩, readRight, same⟩ := bind_eq_ok_iff.mp continues
    cases same
    exact Nat.succ_le_succ (Nat.max_le.mpr ⟨leftBelow, builds _ _ _ _ readRight⟩)

end

/-- The expression parser stacks five chains and a comparison. -/
theorem builds_parseBelow (bound : Nat) : (parseBelow bound).Builds 5 1 := by
  induction bound with
  | zero =>
    intro budget stream expression rest reads
    cases reads
  | succ bound ih =>
    have products := builds_chain factor? (builds_prefixed sign? (builds_accesses ih))
    have sums := builds_chain term? products
    have negations := builds_prefixed not? (builds_comparison sums)
    exact builds_chain or? (builds_chain and? negations)

/-! ## The greatest height is reached -/

/-- A link of a level whose last operand is a literal. -/
structure IsLink (level : Level) (link : Expr → Expr) : Prop where
  /-- The link makes an expression of its level. -/
  level_eq : ∀ left, (link left).level = level
  /-- The chain is one link longer. -/
  links_eq : ∀ left, (link left).links level = left.links level + 1
  /-- The literal is read after one link more. -/
  depth_eq : ∀ left, (link left).depth =
    max (left.depth + (left.isLooser level).toNat) (left.links level + 1)
  /-- The chain is one level higher. -/
  height_eq : ∀ left, (link left).height = left.height + 1
  /-- The literal can be written. -/
  isWritable_eq : ∀ left, (link left).isWritable = left.isWritable

/-- An access by a literal is a link. -/
theorem isLink_access : IsLink .access fun target => .access target (.literal .null) where
  level_eq _ := rfl
  links_eq target := by simp [links]
  depth_eq target := by simp [depth]
  height_eq target := by simp [height]
  isWritable_eq target := by simp [isWritable, Value.isWritable]

/-- An operator before a literal is a link, unless it compares. -/
theorem isLink_binary (operator : BinaryOperator) (chains : operator.level ≠ .comparison) :
    IsLink operator.level fun left => .binary operator left (.literal .null) where
  level_eq _ := rfl
  links_eq left := by simp [links]
  depth_eq left := by
    have literal : (literal .null).isLooser operator.level.tighter = false := by
      cases operator <;> rfl
    simp [depth, BinaryOperator.leftLevel, chains, literal]
  height_eq left := by simp [height]
  isWritable_eq left := by simp [isWritable, Value.isWritable]

/-- An expression that can be written, needs no parentheses at a level, is no deeper than a budget
and has a given height. -/
structure Fits (expression : Expr) (place : Level) (budget high : Nat) : Prop where
  /-- It can be written. -/
  writable : expression.isWritable = true
  /-- It binds as tightly as its place asks for. -/
  notLooser : expression.isLooser place = false
  /-- Its depth is within the budget. -/
  depth_le : expression.depth ≤ budget
  /-- It is as high as given. -/
  height_eq : expression.height = high

namespace Fits

variable {first : Expr} {place level : Level} {budget high : Nat}

/-- As many links as the budget allows add that much to the height. -/
theorem links {link : Expr → Expr} (isLink : IsLink level link)
    (fits : first.Fits place budget high) (tighter : level.rank < place.rank) :
    (link^[budget] first).Fits level budget (high + budget) := by
  have place := fits.notLooser
  simp only [isLooser, decide_eq_false_iff_not, Nat.not_lt] at place
  have step (count : Nat) (within : count ≤ budget) :
      (link^[count] first).Fits level budget (high + count) ∧
        (link^[count] first).links level = count := by
    induction count with
    | zero =>
      have other : first.level ≠ level := by
        rintro rfl
        omega
      have notLooser : first.isLooser level = false := by
        simp only [isLooser, decide_eq_false_iff_not, Nat.not_lt]
        omega
      exact ⟨⟨fits.writable, notLooser, fits.depth_le, fits.height_eq⟩, links_eq_zero other⟩
    | succ count ih =>
      obtain ⟨before, long⟩ := ih (Nat.le_of_succ_le within)
      rw [Function.iterate_succ_apply']
      refine ⟨⟨?_, ?_, ?_, ?_⟩, ?_⟩
      · rw [isLink.isWritable_eq, before.writable]
      · rw [isLooser, isLink.level_eq]
        exact decide_eq_false (Nat.lt_irrefl _)
      · rw [isLink.depth_eq, before.notLooser, long]
        exact Nat.max_le.mpr ⟨before.depth_le, within⟩
      · rw [isLink.height_eq, before.height_eq, Nat.add_assoc]
      · rw [isLink.links_eq, long]
  exact (step budget (Nat.le_refl _)).1

/-- A comparison with a name is one level higher. -/
theorem comparison (fits : first.Fits .sum budget high) :
    (binary .less first (.name "x")).Fits .comparison budget (high + 1) where
  writable := by
    have behind : Token.isName "x" = true := by decide
    simp [isWritable, fits.writable, behind]
  notLooser := rfl
  depth_le := by
    have notLooser : first.isLooser BinaryOperator.less.leftLevel = false := fits.notLooser
    have behind : (name "x").isLooser Level.comparison.tighter = false := rfl
    simpa [depth, notLooser, behind, BinaryOperator.level] using fits.depth_le
  height_eq := by simp [height, fits.height_eq]

/-- Brackets around an expression are one level higher and deeper, and stand everywhere. -/
theorem array (fits : first.Fits place budget high) :
    (array [first]).Fits .primary (budget + 1) (high + 1) where
  writable := by simp [isWritable, itemsWritable, fits.writable]
  notLooser := rfl
  depth_le := by simpa [depth, itemDepth] using fits.depth_le
  height_eq := by simp [height, itemHeight, fits.height_eq]

end Fits

/-- A highest expression of a budget: an `or` chain of an `and` chain of a comparison of a sum of a
product of an access chain of an array of a highest expression of the budget below. -/
def highest : Nat → Expr
  | 0 => .binary .less (.name "x") (.name "x")
  | budget + 1 =>
    let chain (operator : BinaryOperator) (first : Expr) : Expr :=
      (fun left => .binary operator left (.literal .null))^[budget + 1] first
    let accesses := (fun target => .access target (.literal .null))^[budget + 1]
      (.array [highest budget])
    chain .or (chain .and (.binary .less (chain .add (chain .multiply accesses)) (.name "x")))

/-- A highest expression of a budget is within it and has the greatest height. -/
theorem fits_highest (budget : Nat) :
    (highest budget).Fits .disjunction budget (greatestHeight budget) := by
  induction budget with
  | zero => exact ⟨by decide, by decide, by decide, by decide⟩
  | succ budget ih =>
    have accesses := ih.array.links isLink_access (by decide)
    have products := accesses.links (isLink_binary .multiply (by decide)) (by decide)
    have sums := products.links (isLink_binary .add (by decide)) (by decide)
    have conjunctions :=
      sums.comparison.links (isLink_binary .and (by decide)) (by decide)
    have whole := conjunctions.links (isLink_binary .or (by decide)) (by decide)
    refine ⟨whole.writable, whole.notLooser, whole.depth_le, whole.height_eq.trans ?_⟩
    rw [greatestHeight]
    omega

/-! ## The limit -/

/-- An expression at the front of a text is no higher than the greatest height of the limit. -/
theorem height_le_of_accepted {text : List Char} {position : Position} {expression : Expr}
    {rest : TokenStream}
    (accepted : (TokenStream.ofText text position >>= parse) = .ok (expression, rest)) :
    expression.height ≤ greatestHeight maxExpressionDepth := by
  obtain ⟨stream, lexed, reads⟩ := bind_eq_ok_iff.mp accepted
  exact (builds_parseBelow _).height_le reads

/-- A written expression is accepted exactly when its depth is within the limit. -/
theorem accepted_iff {expression : Expr} (writable : expression.isWritable = true)
    {text : List Char} (writes : Token.Writes expression.tokens text) (position : Position) :
    (∃ rest, (TokenStream.ofText text position >>= parse) = .ok (expression, rest)) ↔
      expression.depth ≤ maxExpressionDepth := by
  obtain ⟨stream, finish, lexed, spells⟩ := TokenStream.ofText_eq_ok writes position
  have read := parseWithin_tokens writable maxExpressionDepth spells
    (TokenStream.ends_finish finish)
  rw [lexed]
  constructor
  · rintro ⟨rest, accepted⟩
    by_contra deep
    obtain ⟨place, refused⟩ := read.refused deep
    have both := accepted.symm.trans refused
    cases both
  · exact fun within => ⟨_, read.accepted within⟩

/-- A bound holds for the heights of all expressions that are accepted at the front of a text exactly
when it is at least 10529, far above the limit of 64 on their depth. It holds for a written
expression exactly when its depth is above that limit or its height is within the bound. -/
theorem height_le_iff_of_accepted (bound : Nat) :
    ((∀ text position expression rest,
        (TokenStream.ofText text position >>= parse) = .ok (expression, rest) →
          expression.height ≤ bound) ↔ 10529 ≤ bound) ∧
      ∀ expression : Expr, expression.isWritable = true →
        ∀ text, Token.Writes expression.tokens text → ∀ position,
          ((∀ rest, (TokenStream.ofText text position >>= parse) = .ok (expression, rest) →
              expression.height ≤ bound) ↔
            maxExpressionDepth < expression.depth ∨ expression.height ≤ bound) := by
  have greatest : greatestHeight maxExpressionDepth = 10529 := rfl
  constructor
  · constructor
    · intro below
      have fits := fits_highest maxExpressionDepth
      obtain ⟨rest, accepted⟩ :=
        (accepted_iff fits.writable (writes_text fits.writable) .origin).mpr fits.depth_le
      have high := below _ _ _ _ accepted
      rwa [fits.height_eq, greatest] at high
    · intro enough text position expression rest accepted
      have high := height_le_of_accepted accepted
      omega
  · intro expression writable text writes position
    have accepts := accepted_iff writable writes position
    constructor
    · intro below
      by_cases deep : maxExpressionDepth < expression.depth
      · exact Or.inl deep
      · obtain ⟨rest, accepted⟩ := accepts.mpr (Nat.not_lt.mp deep)
        exact Or.inr (below rest accepted)
    · rintro (deep | within) rest accepted
      · have shallow := accepts.mp ⟨rest, accepted⟩
        omega
      · exact within

/-- A sum behind a product of sixty-five factors is accepted, and its height is above the limit on
its depth. -/
theorem height_le_iff_of_accepted_sum :
    let product := (fun left => Expr.binary .multiply left (.literal (.integer 1)))^[64]
      (.literal (.integer 1))
    let sum : Expr := .binary .add product (.literal (.integer 1))
    sum.isWritable = true ∧ sum.height = 65 ∧
      ¬∀ rest, (TokenStream.ofText sum.text .origin >>= parse) = .ok (sum, rest) →
        sum.height ≤ maxExpressionDepth := by
  intro product sum
  have writable : sum.isWritable = true := by decide
  have high : sum.height = 65 := by decide +kernel
  have depth : sum.depth = 64 := by decide +kernel
  refine ⟨writable, high, fun holds => ?_⟩
  have broken := ((height_le_iff_of_accepted maxExpressionDepth).2 sum writable sum.text
    (writes_text writable) .origin).mp holds
  rw [high, depth] at broken
  exact absurd broken (by decide)

end Stencil.Expr
