import Stencil.Proofs.Token.Agreement

/-!
# Expression parsers look at tokens only

Every expression parser does the same on streams with the same tokens: positions never decide
anything, and every error is reported at a place of the stream whose token the fault is about.
-/

namespace Stencil.Expr

open TokenStream (IsLocal SamePlace Agree Leaves)

variable {inner operand : Parser} {stream other here there : TokenStream}

/-- Going down one level is local when what is read there is. -/
theorem isLocal_deeper {α : Type}
    {parser : Nat → TokenStream → Except SyntaxError (α × TokenStream)}
    (isLocal : ∀ budget, IsLocal (parser budget)) (budget : Nat) :
    IsLocal (deeper parser budget) := by
  intro stream other here there place
  cases budget with
  | zero => exact place.refuse trivial
  | succ budget => exact isLocal budget place

/-- Items are read alike when each one is. -/
theorem isLocal_parseItems {item : TokenStream → Except SyntaxError (Expr × TokenStream)}
    (isLocal : IsLocal item) (closing : Token) (steps : Nat) :
    IsLocal (parseItems item closing steps) := by
  intro stream other here there place
  induction steps generalizing here there with
  | zero => exact place.refuse trivial
  | succ steps ih =>
    rw [parseItems, parseItems, place.peek_eq]
    split
    · exact place.advance.bind fun _ _ next => .ok ⟨rfl, next⟩
    · refine (isLocal place).bind ?_
      rintro ⟨first, middle⟩ ⟨_, twin⟩ ⟨rfl, behind⟩
      dsimp only at behind ⊢
      rw [behind.peek_eq]
      split_ifs
      · refine behind.advance.bind fun _ _ next => (ih next).bind ?_
        rintro ⟨others, rest⟩ ⟨_, _⟩ ⟨rfl, last⟩
        exact .ok ⟨rfl, last⟩
      · exact behind.advance.bind fun _ _ next => .ok ⟨rfl, next⟩
      · exact behind.refuse trivial

/-- A list is read alike when its items are. -/
theorem isLocal_parseList (isLocal : ∀ budget, IsLocal (inner budget)) (closing : Token)
    (budget : Nat) : IsLocal (parseList inner closing budget) := by
  refine isLocal_deeper (fun less => ?_) budget
  intro stream other here there place
  dsimp only
  rw [place.size_eq]
  exact isLocal_parseItems (isLocal less) closing _ place

/-- A call is refused where its name stands. -/
theorem agree_parseName (isLocal : ∀ budget, IsLocal (inner budget)) (budget : Nat) {text : String}
    (place : SamePlace stream other here there) (named : here.peek = .name text) :
    Agree stream other (Leaves stream other) (parseName inner budget text here)
      (parseName inner budget text there) := by
  refine place.advance.bind fun rest _ next => ?_
  rw [next.peek_eq]
  split
  · split
    · exact place.error named
    · rename_i builtin known
      refine next.advance.bind fun _ _ inside => (isLocal_parseList isLocal _ budget inside).bind ?_
      rintro ⟨arguments, after⟩ ⟨_, _⟩ ⟨rfl, behind⟩
      dsimp only
      split
      · exact .ok ⟨rfl, behind⟩
      · refine place.error (named.trans ?_)
        have same := List.find?_some known
        rw [beq_iff_eq] at same
        rw [same]
  · exact .ok ⟨rfl, next⟩

/-- The tightest expressions are read alike. -/
theorem isLocal_parsePrimary (isLocal : ∀ budget, IsLocal (inner budget)) (budget : Nat) :
    IsLocal (parsePrimary inner budget) := by
  intro stream other here there place
  rw [parsePrimary, parsePrimary, place.peek_eq]
  split
  · exact place.advance.bind fun _ _ next => .ok ⟨rfl, next⟩
  · split
    · rename_i named
      exact agree_parseName isLocal budget place named
    · refine place.advance.bind fun _ _ next => (isLocal_deeper isLocal budget next).bind ?_
      rintro ⟨inside, middle⟩ ⟨_, _⟩ ⟨rfl, behind⟩
      exact (behind.expect _).bind fun _ _ closed => .ok ⟨rfl, closed⟩
    · refine place.advance.bind fun _ _ next => (isLocal_parseList isLocal _ budget next).bind ?_
      rintro ⟨items, rest⟩ ⟨_, _⟩ ⟨rfl, behind⟩
      exact .ok ⟨rfl, behind⟩
    · exact place.refuse trivial
    · exact place.refuse trivial

/-- A property behind a dot is read alike. -/
theorem isLocal_parseProperty : IsLocal parseProperty := by
  intro stream other here there place
  rw [parseProperty, parseProperty, place.peek_eq]
  split
  · exact place.advance.bind fun _ _ next => .ok ⟨rfl, next⟩
  · exact place.advance.bind fun _ _ next => .ok ⟨rfl, next⟩
  · exact place.refuse trivial

/-- Accesses are read alike when their keys are. -/
theorem isLocal_parseAccesses (isLocal : ∀ budget, IsLocal (inner budget)) (budget : Nat)
    (target : Expr) : IsLocal (parseAccesses inner budget target) := by
  intro stream other here there place
  induction budget generalizing target here there with
  | zero =>
    rw [parseAccesses.eq_def, parseAccesses.eq_def]
    dsimp only
    rw [place.peek_eq]
    split
    · exact place.advance.bind fun _ _ next => next.refuse trivial
    · exact place.advance.bind fun _ _ next => next.refuse trivial
    · exact .ok ⟨rfl, place⟩
  | succ budget ih =>
    rw [parseAccesses.eq_def, parseAccesses.eq_def inner _ _ there]
    dsimp only
    rw [place.peek_eq]
    split
    · refine place.advance.bind fun _ _ next => (isLocal_parseProperty next).bind ?_
      rintro ⟨key, rest⟩ ⟨_, _⟩ ⟨rfl, behind⟩
      exact ih _ behind
    · refine place.advance.bind fun _ _ next => (isLocal budget next).bind ?_
      rintro ⟨key, rest⟩ ⟨_, _⟩ ⟨rfl, behind⟩
      exact (behind.expect _).bind fun _ _ closed => ih _ closed
    · exact .ok ⟨rfl, place⟩

/-- An expression with its accesses is read alike. -/
theorem isLocal_parsePostfix (isLocal : ∀ budget, IsLocal (inner budget)) (budget : Nat) :
    IsLocal (parsePostfix inner budget) := by
  intro stream other here there place
  refine (isLocal_parsePrimary isLocal budget place).bind ?_
  rintro ⟨target, rest⟩ ⟨_, _⟩ ⟨rfl, behind⟩
  exact isLocal_parseAccesses isLocal budget target behind

/-- Operators in front are read alike when the operand is. -/
theorem isLocal_parsePrefixed (operator? : Token → Option UnaryOperator)
    (isLocal : ∀ budget, IsLocal (operand budget)) (budget : Nat) :
    IsLocal (parsePrefixed operator? operand budget) := by
  intro stream other here there place
  induction budget generalizing here there with
  | zero =>
    rw [parsePrefixed.eq_def, parsePrefixed.eq_def]
    dsimp only
    rw [place.peek_eq]
    split
    · exact isLocal 0 place
    · exact place.advance.bind fun _ _ next => next.refuse trivial
  | succ budget ih =>
    rw [parsePrefixed.eq_def, parsePrefixed.eq_def _ _ _ there]
    dsimp only
    rw [place.peek_eq]
    split
    · exact isLocal _ place
    · refine place.advance.bind fun _ _ next => (ih next).bind ?_
      rintro ⟨inside, rest⟩ ⟨_, _⟩ ⟨rfl, behind⟩
      exact .ok ⟨rfl, behind⟩

/-- The links of a chain are read alike when its operands are. -/
theorem isLocal_parseLinks (operator? : Token → Option BinaryOperator)
    (isLocal : ∀ budget, IsLocal (operand budget)) (budget : Nat) (left : Expr) :
    IsLocal (parseLinks operator? operand budget left) := by
  intro stream other here there place
  induction budget generalizing left here there with
  | zero =>
    rw [parseLinks.eq_def, parseLinks.eq_def]
    dsimp only
    rw [place.peek_eq]
    split
    · exact .ok ⟨rfl, place⟩
    · exact place.advance.bind fun _ _ next => next.refuse trivial
  | succ budget ih =>
    rw [parseLinks.eq_def, parseLinks.eq_def _ _ _ _ there]
    dsimp only
    rw [place.peek_eq]
    split
    · exact .ok ⟨rfl, place⟩
    · refine place.advance.bind fun _ _ next => (isLocal budget next).bind ?_
      rintro ⟨right, rest⟩ ⟨_, _⟩ ⟨rfl, behind⟩
      exact ih _ behind

/-- A chain is read alike when its operands are. -/
theorem isLocal_parseChain (operator? : Token → Option BinaryOperator)
    (isLocal : ∀ budget, IsLocal (operand budget)) (budget : Nat) :
    IsLocal (parseChain operator? operand budget) := by
  intro stream other here there place
  refine (isLocal budget place).bind ?_
  rintro ⟨first, rest⟩ ⟨_, _⟩ ⟨rfl, behind⟩
  exact isLocal_parseLinks operator? isLocal budget first behind

/-- A comparison is read alike when its operands are. -/
theorem isLocal_parseComparison (isLocal : ∀ budget, IsLocal (operand budget)) (budget : Nat) :
    IsLocal (parseComparison operand budget) := by
  intro stream other here there place
  refine (isLocal budget place).bind ?_
  rintro ⟨left, middle⟩ ⟨_, twin⟩ ⟨rfl, behind⟩
  dsimp only at behind ⊢
  rw [behind.peek_eq]
  split
  · exact .ok ⟨rfl, behind⟩
  · refine behind.advance.bind fun _ _ next => (isLocal budget next).bind ?_
    rintro ⟨right, rest⟩ ⟨_, _⟩ ⟨rfl, last⟩
    exact .ok ⟨rfl, last⟩

/-- Expressions of every budget are read alike. -/
theorem isLocal_parseBelow (bound budget : Nat) : IsLocal (parseBelow bound budget) := by
  induction bound generalizing budget with
  | zero =>
    intro stream other here there place
    exact place.refuse trivial
  | succ bound ih =>
    have products := isLocal_parseChain factor?
      (isLocal_parsePrefixed sign? (isLocal_parsePostfix ih))
    have sums := isLocal_parseChain term? products
    have negations := isLocal_parsePrefixed not? (isLocal_parseComparison sums)
    exact isLocal_parseChain or? (isLocal_parseChain and? negations) budget

/-- An expression is read alike at the same place of any two streams with the same tokens. -/
theorem isLocal_parse : IsLocal parse := isLocal_parseBelow _ _

end Stencil.Expr
