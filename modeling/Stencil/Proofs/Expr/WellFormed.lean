import Stencil.Proofs.Token.Proper
import Stencil.Template.Expr.Parser

/-!
# Well-formed expressions

In a well-formed expression every literal is a scalar without a sign, every name is a word that is
no keyword, and every call has as many arguments as its function takes, at every depth. The
expression parsers make nothing else: they pass a dot only in front of a property, so that the
tokens they make a name of never stand behind one.
-/

namespace Stencil.Expr

open TokenStream (IsProper)

mutual

/-- Whether an expression is well formed at every depth. -/
def isWellFormed : Expr → Bool
  | literal value => value.isLiteral
  | name text => Token.isName text
  | access target key => target.isWellFormed && key.isWellFormed
  | call builtin arguments => builtin.accepts arguments.length && itemsWellFormed arguments
  | unary _ operand => operand.isWellFormed
  | binary _ left right => left.isWellFormed && right.isWellFormed
  | array items => itemsWellFormed items

/-- Whether all of some expressions are well formed. -/
def itemsWellFormed : List Expr → Bool
  | [] => true
  | first :: others => first.isWellFormed && itemsWellFormed others

end

/-- What a parser has read is a well-formed expression, and the rest of the stream is proper. -/
def WellRead (read : Expr × TokenStream) : Prop :=
  read.1.isWellFormed = true ∧ read.2.IsProper false

/-- What a parser has read are well-formed expressions in a row, and the rest of the stream is
proper. -/
def ItemsWellRead (read : List Expr × TokenStream) : Prop :=
  itemsWellFormed read.1 = true ∧ read.2.IsProper false

/-- What a parser makes of a proper stream has a property. -/
def Keeps {α : Type} (parser : TokenStream → Except SyntaxError α) (holds : α → Prop) : Prop :=
  ∀ stream, stream.IsProper false → Ensures (parser stream) holds

variable {inner operand : Parser} {stream : TokenStream}

/-- A value that a token writes is a literal. -/
theorem isLiteral_of_literalOf? {token : Token} {value : Value}
    (proper : token.isProper false = true) (found : literalOf? token = some value) :
    value.isLiteral = true := by
  cases token with
  | integer | float =>
    cases found
    exact proper
  | string | boolean | null =>
    cases found
    rfl
  | name | symbol | keyword | finish => cases found

/-- A token in which something is found is no dot when nothing is found in a dot. -/
theorem ne_dot_of_found {α : Type} {find? : Token → Option α} (noDot : find? (.symbol .dot) = none)
    {token : Token} {item : α} (found : find? token = some item) : token ≠ .symbol .dot := by
  rintro rfl
  cases noDot.symm.trans found

/-- Going down one level keeps what is kept there. -/
theorem keeps_deeper {α : Type} {holds : α × TokenStream → Prop}
    {parser : Nat → TokenStream → Except SyntaxError (α × TokenStream)}
    (keeps : ∀ budget, Keeps (parser budget) holds) (budget : Nat) :
    Keeps (deeper parser budget) holds := by
  intro stream proper
  cases budget with
  | zero => exact .error _
  | succ budget => exact keeps budget stream proper

/-- Items are well formed when each one is. -/
theorem keeps_parseItems {item : TokenStream → Except SyntaxError (Expr × TokenStream)}
    (keeps : Keeps item WellRead) {closing : Token} (noDot : closing ≠ .symbol .dot) (steps : Nat) :
    Keeps (parseItems item closing steps) ItemsWellRead := by
  intro stream proper
  induction steps generalizing stream with
  | zero => exact .error _
  | succ steps ih =>
    rw [parseItems]
    split
    case isTrue ends =>
      exact (proper.pass ends noDot).bind fun rest others => .ok ⟨rfl, others⟩
    case isFalse =>
      refine (keeps stream proper).bind fun ⟨first, rest⟩ ⟨wellFormed, others⟩ => ?_
      dsimp only at wellFormed others ⊢
      split_ifs with comma ends
      · refine (others.pass comma nofun).bind fun rest others => ?_
        refine (ih rest others).bind fun ⟨items, rest⟩ ⟨itemsWellFormed, others⟩ => .ok ⟨?_, others⟩
        rw [Expr.itemsWellFormed, wellFormed, itemsWellFormed, Bool.true_and]
      · refine (others.pass ends noDot).bind fun rest others => .ok ⟨?_, others⟩
        rw [itemsWellFormed, wellFormed, itemsWellFormed, Bool.true_and]
      · exact .error _

/-- The items of a list are well formed. -/
theorem keeps_parseList (keeps : ∀ budget, Keeps (inner budget) WellRead) {closing : Token}
    (noDot : closing ≠ .symbol .dot) (budget : Nat) :
    Keeps (parseList inner closing budget) ItemsWellRead :=
  keeps_deeper (fun less _ proper => keeps_parseItems (keeps less) noDot _ _ proper) budget

/-- A name is no keyword, and a call has as many arguments as its function takes. -/
theorem ensures_parseName (keeps : ∀ budget, Keeps (inner budget) WellRead) (budget : Nat)
    {text : String} (proper : stream.IsProper false) (named : stream.peek = .name text) :
    Ensures (parseName inner budget text stream) WellRead := by
  have front := proper.peek
  rw [named] at front
  refine (proper.pass named nofun).bind fun rest others => ?_
  split
  case isTrue opens =>
    split
    · exact .error _
    · refine (others.pass opens nofun).bind fun rest others => ?_
      refine (keeps_parseList keeps (by decide) budget rest others).bind
        fun ⟨arguments, rest⟩ ⟨wellFormed, others⟩ => ?_
      dsimp only at wellFormed others ⊢
      split
      case isTrue accepted =>
        refine .ok ⟨?_, others⟩
        rw [isWellFormed, accepted, wellFormed, Bool.true_and]
      case isFalse => exact .error _
  case isFalse => exact .ok ⟨front, others⟩

/-- The tightest expressions are well formed. -/
theorem keeps_parsePrimary (keeps : ∀ budget, Keeps (inner budget) WellRead) (budget : Nat) :
    Keeps (parsePrimary inner budget) WellRead := by
  intro stream proper
  unfold parsePrimary
  split
  case h_1 value found =>
    refine (proper.pass rfl (ne_dot_of_found rfl found)).bind fun rest others => ?_
    exact .ok ⟨isLiteral_of_literalOf? proper.peek found, others⟩
  case h_2 =>
    split
    case h_1 text named => exact ensures_parseName keeps budget proper named
    case h_2 opens =>
      refine (proper.pass opens nofun).bind fun rest others => ?_
      refine (keeps_deeper keeps budget rest others).bind
        fun ⟨inside, rest⟩ ⟨wellFormed, others⟩ => ?_
      exact (others.expect (by decide)).bind fun rest others => .ok ⟨wellFormed, others⟩
    case h_3 opens =>
      refine (proper.pass opens nofun).bind fun rest others => ?_
      refine (keeps_parseList keeps (by decide) budget rest others).bind
        fun ⟨items, rest⟩ ⟨wellFormed, others⟩ => ?_
      exact .ok ⟨wellFormed, others⟩
    case h_4 => exact .error _
    case h_5 => exact .error _

/-- A property is a literal, also where it is a keyword. -/
theorem ensures_parseProperty (proper : stream.IsProper true) :
    Ensures (parseProperty stream) fun read =>
      read.1.isLiteral = true ∧ read.2.IsProper false := by
  have front := proper.peek
  unfold parseProperty
  split
  case h_1 text named =>
    exact (proper.pass named nofun).bind fun rest others => .ok ⟨rfl, others⟩
  case h_2 number here =>
    rw [here] at front
    exact (proper.pass here nofun).bind fun rest others => .ok ⟨front, others⟩
  case h_3 => exact .error _

/-- Accesses are well formed when what they access is. -/
theorem keeps_parseAccesses (keeps : ∀ budget, Keeps (inner budget) WellRead) (budget : Nat)
    {target : Expr} (wellFormed : target.isWellFormed = true) :
    Keeps (parseAccesses inner budget target) WellRead := by
  intro stream proper
  induction budget generalizing target stream with
  | zero =>
    rw [parseAccesses.eq_def]
    dsimp only
    split
    · exact .always fun rest => .error _
    · exact .always fun rest => .error _
    · exact .ok ⟨wellFormed, proper⟩
  | succ budget ih =>
    rw [parseAccesses.eq_def]
    dsimp only
    split
    case h_1 dot =>
      -- Only here a dot is passed: a keyword behind it becomes a text, not a name.
      have advanced := proper.advance
      rw [decide_eq_true dot] at advanced
      refine advanced.bind fun rest others => ?_
      refine (ensures_parseProperty others).bind fun ⟨key, rest⟩ ⟨isLiteral, others⟩ => ?_
      refine ih ?_ rest others
      rw [isWellFormed, wellFormed, isWellFormed, isLiteral, Bool.true_and]
    case h_2 opens =>
      refine (proper.pass opens nofun).bind fun rest others => ?_
      refine (keeps budget rest others).bind fun ⟨key, rest⟩ ⟨keyWellFormed, others⟩ => ?_
      refine (others.expect (by decide)).bind fun rest others => ih ?_ rest others
      rw [isWellFormed, wellFormed, keyWellFormed, Bool.true_and]
    case h_3 => exact .ok ⟨wellFormed, proper⟩

/-- An expression with its accesses is well formed. -/
theorem keeps_parsePostfix (keeps : ∀ budget, Keeps (inner budget) WellRead) (budget : Nat) :
    Keeps (parsePostfix inner budget) WellRead := fun stream proper =>
  (keeps_parsePrimary keeps budget stream proper).bind fun ⟨_, rest⟩ ⟨wellFormed, others⟩ =>
    keeps_parseAccesses keeps budget wellFormed rest others

/-- Operators in front of a well-formed operand make a well-formed expression. -/
theorem keeps_parsePrefixed (operator? : Token → Option UnaryOperator)
    (noDot : operator? (.symbol .dot) = none) (keeps : ∀ budget, Keeps (operand budget) WellRead)
    (budget : Nat) : Keeps (parsePrefixed operator? operand budget) WellRead := by
  intro stream proper
  induction budget generalizing stream with
  | zero =>
    rw [parsePrefixed.eq_def]
    dsimp only
    split
    · exact keeps 0 stream proper
    · exact .always fun rest => .error _
  | succ budget ih =>
    rw [parsePrefixed.eq_def]
    dsimp only
    split
    case h_1 => exact keeps _ stream proper
    case h_2 operator found =>
      refine (proper.pass rfl (ne_dot_of_found noDot found)).bind fun rest others => ?_
      refine (ih rest others).bind fun ⟨inside, rest⟩ ⟨wellFormed, others⟩ => ?_
      exact .ok ⟨wellFormed, others⟩

/-- The links of a chain of well-formed operands make a well-formed expression. -/
theorem keeps_parseLinks (operator? : Token → Option BinaryOperator)
    (noDot : operator? (.symbol .dot) = none) (keeps : ∀ budget, Keeps (operand budget) WellRead)
    (budget : Nat) {left : Expr} (wellFormed : left.isWellFormed = true) :
    Keeps (parseLinks operator? operand budget left) WellRead := by
  intro stream proper
  induction budget generalizing left stream with
  | zero =>
    rw [parseLinks.eq_def]
    dsimp only
    split
    · exact .ok ⟨wellFormed, proper⟩
    · exact .always fun rest => .error _
  | succ budget ih =>
    rw [parseLinks.eq_def]
    dsimp only
    split
    case h_1 => exact .ok ⟨wellFormed, proper⟩
    case h_2 operator found =>
      refine (proper.pass rfl (ne_dot_of_found noDot found)).bind fun rest others => ?_
      refine (keeps budget rest others).bind fun ⟨right, rest⟩ ⟨rightWellFormed, others⟩ => ?_
      refine ih ?_ rest others
      rw [isWellFormed, wellFormed, rightWellFormed, Bool.true_and]

/-- A chain of well-formed operands is well formed. -/
theorem keeps_parseChain (operator? : Token → Option BinaryOperator)
    (noDot : operator? (.symbol .dot) = none) (keeps : ∀ budget, Keeps (operand budget) WellRead)
    (budget : Nat) : Keeps (parseChain operator? operand budget) WellRead := fun stream proper =>
  (keeps budget stream proper).bind fun ⟨_, rest⟩ ⟨wellFormed, others⟩ =>
    keeps_parseLinks operator? noDot keeps budget wellFormed rest others

/-- A comparison of well-formed operands is well formed. -/
theorem keeps_parseComparison (keeps : ∀ budget, Keeps (operand budget) WellRead) (budget : Nat) :
    Keeps (parseComparison operand budget) WellRead := by
  intro stream proper
  refine (keeps budget stream proper).bind fun ⟨left, rest⟩ ⟨wellFormed, others⟩ => ?_
  dsimp only at wellFormed others ⊢
  split
  case h_1 => exact .ok ⟨wellFormed, others⟩
  case h_2 operator found =>
    refine (others.pass rfl (ne_dot_of_found rfl found)).bind fun rest others => ?_
    refine (keeps budget rest others).bind fun ⟨right, rest⟩ ⟨rightWellFormed, others⟩ => ?_
    refine .ok ⟨?_, others⟩
    rw [isWellFormed, wellFormed, rightWellFormed, Bool.true_and]

/-- Expressions of every budget are well formed. -/
theorem keeps_parseBelow (bound budget : Nat) : Keeps (parseBelow bound budget) WellRead := by
  induction bound generalizing budget with
  | zero => exact fun stream proper => .error _
  | succ bound ih =>
    have products := keeps_parseChain factor? rfl
      (keeps_parsePrefixed sign? rfl (keeps_parsePostfix ih))
    have sums := keeps_parseChain term? rfl products
    have negations := keeps_parsePrefixed not? rfl (keeps_parseComparison sums)
    exact keeps_parseChain or? rfl (keeps_parseChain and? rfl negations) budget

/-- An expression that is read in a proper stream is well formed. -/
theorem keeps_parse : Keeps parse WellRead := keeps_parseBelow _ _

end Stencil.Expr
