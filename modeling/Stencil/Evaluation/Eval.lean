import Stencil.Evaluation.Call
import Stencil.Evaluation.Store
import Stencil.Template.Expr

/-!
# Evaluating expressions

Every expression has a value in every store. An unknown name, a missing key, an index out of range
and an operation on operands that do not fit it are all null.
-/

namespace Stencil

/-- What a unary operator computes. -/
def UnaryOperator.apply : UnaryOperator → Value → Value
  | not, operand => .boolean !operand.isTruthy
  | negate, operand => operand.negate

/-- What a binary operator computes. -/
def BinaryOperator.apply (operator : BinaryOperator) (left right : Value) : Value :=
  match operator with
  | or => .boolean (left.isTruthy || right.isTruthy)
  | and => .boolean (left.isTruthy && right.isTruthy)
  | equal => .boolean (left.equals right)
  | notEqual => .boolean !left.equals right
  | less => .boolean (left.compare? right = some .lt)
  | lessEqual => .boolean (left.compare? right = some .lt || left.compare? right = some .eq)
  | greater => .boolean (left.compare? right = some .gt)
  | greaterEqual => .boolean (left.compare? right = some .gt || left.compare? right = some .eq)
  | add => left.add right
  | subtract => left.subtract right
  | multiply => left.multiply right
  | divide => left.divide right
  | remainder => left.remainder right

namespace Expr

mutual

/-- The value of an expression in a store. -/
def eval (store : Store) : Expr → Value
  | literal value => value
  | name text => store.resolve text
  | access target key => ((target.eval store).get? (key.eval store)).getD .null
  | call builtin arguments => builtin.call (evalAll store arguments)
  | unary operator operand => operator.apply (operand.eval store)
  | binary operator left right => operator.apply (left.eval store) (right.eval store)
  | array items => .array (evalAll store items)

/-- The values of expressions in a row. -/
def evalAll (store : Store) : List Expr → List Value
  | [] => []
  | item :: rest => item.eval store :: evalAll store rest

end

end Expr

end Stencil
