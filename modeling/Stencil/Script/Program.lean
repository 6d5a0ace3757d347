import Stencil.Script.Value

/-!
# Driving scripts

A parsed script: statements that are run in order, and functions that they may call.
-/

namespace Stencil.Script

/-- An operator before its operand. -/
inductive UnaryOperator where
  /-- The number itself. -/
  | plus
  /-- The opposite of a number. -/
  | minus
  /-- The opposite of a truth value. -/
  | not
deriving DecidableEq, Repr

/-- An operator between two operands that are both computed. -/
inductive BinaryOperator where
  | equal | notEqual | less | lessEqual | greater | greaterEqual
  | add | subtract | multiply | divide | remainder
  | range
deriving DecidableEq, Repr

mutual

/-- An expression. -/
inductive Expr where
  /-- A value written out. -/
  | literal (value : Value)
  /-- A variable. -/
  | name (text : String)
  /-- Texts joined to one. -/
  | joined (parts : List Expr)
  /-- Expressions in a row. -/
  | array (items : List Expr)
  /-- Named expressions. -/
  | map (entries : List (String × Expr))
  /-- An operator before its operand. -/
  | unary (operator : UnaryOperator) (operand : Expr)
  /-- An operator between its operands. -/
  | binary (operator : BinaryOperator) (left right : Expr)
  /-- True when both are. -/
  | both (left right : Expr)
  /-- True when one of two is. -/
  | either (left right : Expr)
  /-- A call. -/
  | call (function : String) (arguments : List Expr)
  /-- A call written behind its first argument. -/
  | method (target : Expr) (function : String) (arguments : List Expr)
  /-- A property. -/
  | property (target : Expr) (name : String)
  /-- An element. -/
  | element (target index : Expr)
  /-- The value of the last statement of a block. -/
  | block (body : List Statement)
  /-- The value of one of two blocks. -/
  | conditional (condition : Expr) (body otherwise : List Statement)

/-- A statement. -/
inductive Statement where
  /-- An expression for its effects or as the value of a block. -/
  | expression (value : Expr)
  /-- A new variable, which may be constant. -/
  | declare (constant : Bool) (name : String) (value : Expr)
  /-- A new value for a place, which may be combined with the old one. -/
  | assign (place : Expr) (operator : Option BinaryOperator) (value : Expr)
  /-- A body as long as a condition holds. -/
  | repeating (condition : Expr) (body : List Statement)
  /-- A body for every item of a source. -/
  | each (name : String) (source : Expr) (body : List Statement)
  /-- A body, and another one when it fails; a name may be given to what was thrown. -/
  | attempt (body : List Statement) (name : Option String) (handler : List Statement)
  /-- A failure with a value. -/
  | throwing (value : Expr)
  /-- The end of a function or of the script. -/
  | returning (value : Expr)

end

instance : Inhabited Expr := ⟨.literal .unit⟩

instance : Inhabited Statement := ⟨.expression default⟩

/-- The variable that a place is in; none for an expression that is no place. -/
def Expr.root? : Expr → Option String
  | .name text => some text
  | .property target _ => target.root?
  | .element target _ => target.root?
  | _ => none

/-- Whether a value can be put into what an expression stands for. -/
def Expr.isPlace (expression : Expr) : Bool := expression.root?.isSome

/-- A function of a script. -/
structure Function where
  /-- The name it is called by. -/
  name : String
  /-- The names of its arguments. -/
  parameters : List String
  /-- What it does. -/
  body : List Statement
deriving Inhabited

/-- A parsed script. -/
structure Program where
  /-- What is run. -/
  statements : List Statement
  /-- What may be called. -/
  functions : List Function
deriving Inhabited

/-- The function of a name that takes a number of arguments. -/
def Program.function? (program : Program) (name : String) (count : Nat) : Option Function :=
  program.functions.find? fun function =>
    function.name = name && function.parameters.length = count

end Stencil.Script
