import Stencil.Template.Builtin
import Stencil.Value.Basic

/-!
# Expressions

What a tag computes: literals, names, accesses, calls, operators and arrays.
-/

namespace Stencil

/-- An operator before its operand. -/
inductive UnaryOperator where
  /-- The opposite of a truth value. -/
  | not
  /-- The opposite of a number. -/
  | negate
deriving DecidableEq, Repr

/-- An operator between two operands. -/
inductive BinaryOperator where
  | or | and
  | equal | notEqual | less | lessEqual | greater | greaterEqual
  | add | subtract | multiply | divide | remainder
deriving DecidableEq, Repr

/-- An expression. -/
inductive Expr where
  /-- A value written out. -/
  | literal (value : Value)
  /-- A name of the store. -/
  | name (text : String)
  /-- A property or an element. -/
  | access (target key : Expr)
  /-- A call of a builtin function. -/
  | call (builtin : Builtin) (arguments : List Expr)
  /-- An operator before its operand. -/
  | unary (operator : UnaryOperator) (operand : Expr)
  /-- An operator between its operands. -/
  | binary (operator : BinaryOperator) (left right : Expr)
  /-- Expressions in a row. -/
  | array (items : List Expr)
deriving Repr, Inhabited

end Stencil
