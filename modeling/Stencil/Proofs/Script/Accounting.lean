import Stencil.Proofs.Script.Tracing

/-!
# Accounting for whole scripts

Whatever a script executes is the same when its calls of the generator are written down, and these
account for how it ends. That is by induction on the steps of the script, with one case for every
form of an expression or a statement. Code is straight when nothing is attempted in it and in the
functions of the script.
-/

namespace Stencil.Script

/-! ## Scripts without attempts -/

mutual

/-- Whether nothing is attempted in an expression. -/
def Expr.attemptsNothing : Expr → Bool
  | .literal _ => true
  | .name _ => true
  | .joined parts => Expr.allAttemptNothing parts
  | .array items => Expr.allAttemptNothing items
  | .map entries => Expr.entriesAttemptNothing entries
  | .unary _ operand => operand.attemptsNothing
  | .binary _ left right => left.attemptsNothing && right.attemptsNothing
  | .both left right => left.attemptsNothing && right.attemptsNothing
  | .either left right => left.attemptsNothing && right.attemptsNothing
  | .call _ arguments => Expr.allAttemptNothing arguments
  | .method target _ arguments => target.attemptsNothing && Expr.allAttemptNothing arguments
  | .property target _ => target.attemptsNothing
  | .element target index => target.attemptsNothing && index.attemptsNothing
  | .block body => Statement.allAttemptNothing body
  | .conditional condition body otherwise =>
    condition.attemptsNothing && Statement.allAttemptNothing body &&
      Statement.allAttemptNothing otherwise

/-- Whether nothing is attempted in expressions in a row. -/
def Expr.allAttemptNothing : List Expr → Bool
  | [] => true
  | first :: rest => first.attemptsNothing && Expr.allAttemptNothing rest

/-- Whether nothing is attempted in named expressions. -/
def Expr.entriesAttemptNothing : List (String × Expr) → Bool
  | [] => true
  | (_, first) :: rest => first.attemptsNothing && Expr.entriesAttemptNothing rest

/-- Whether nothing is attempted in a statement. -/
def Statement.attemptsNothing : Statement → Bool
  | .expression value => value.attemptsNothing
  | .declare _ _ value => value.attemptsNothing
  | .assign place _ value => place.attemptsNothing && value.attemptsNothing
  | .repeating condition body => condition.attemptsNothing && Statement.allAttemptNothing body
  | .each _ source body => source.attemptsNothing && Statement.allAttemptNothing body
  | .attempt _ _ _ => false
  | .throwing value => value.attemptsNothing
  | .returning value => value.attemptsNothing

/-- Whether nothing is attempted in statements in a row. -/
def Statement.allAttemptNothing : List Statement → Bool
  | [] => true
  | first :: rest => first.attemptsNothing && Statement.allAttemptNothing rest

end

/-- Whether nothing is attempted in a script and its functions. -/
def Program.attemptsNothing (program : Program) : Bool :=
  Statement.allAttemptNothing program.statements &&
    program.functions.all fun function => Statement.allAttemptNothing function.body

/-- Nothing is attempted in a function of a script in which nothing is attempted. -/
theorem Program.attemptsNothing_function {program : Program} {name : String} {count : Nat}
    {function : Function} (free : program.attemptsNothing)
    (known : program.function? name count = some function) :
    Statement.allAttemptNothing function.body := by
  rw [attemptsNothing, Bool.and_eq_true, List.all_eq_true] at free
  exact free.2 function (List.mem_of_find?_eq_some known)

namespace Context

variable {First Second α : Type} {context : Context (StateT First (StateM Second))}
  {straight : Prop}

/-! ## Executions -/

/-- What is executed in at most so many steps that follow each other is the same when its calls are
written down, and these account for how it ends. Nothing is attempted in straight code. -/
structure TracesWithin (context : Context (StateT First (StateM Second))) (straight : Prop)
    (steps : Nat) : Prop where
  /-- An expression. -/
  eval (calls : Nat) (expression : Expr) (free : straight → expression.attemptsNothing) :
    context.Traces straight (Execution.eval context calls steps expression)
      (Execution.eval context.traced calls steps expression)
  /-- Expressions in a row. -/
  evalAll (calls : Nat) (expressions : List Expr)
    (free : straight → Expr.allAttemptNothing expressions) :
    context.Traces straight (Execution.evalAll context calls steps expressions)
      (Execution.evalAll context.traced calls steps expressions)
  /-- Named expressions. -/
  evalEntries (calls : Nat) (entries : List (String × Expr))
    (free : straight → Expr.entriesAttemptNothing entries) :
    context.Traces straight (Execution.evalEntries context calls steps entries)
      (Execution.evalEntries context.traced calls steps entries)
  /-- A place. -/
  place (calls : Nat) (expression : Expr) (free : straight → expression.attemptsNothing) :
    context.Traces straight (Execution.place context calls steps expression)
      (Execution.place context.traced calls steps expression)
  /-- A call of a function. -/
  apply (calls : Nat) (function : String) (arguments : List Value) :
    context.Traces straight (Execution.apply context calls steps function arguments)
      (Execution.apply context.traced calls steps function arguments)
  /-- Statements in order. -/
  runAll (calls : Nat) (statements : List Statement)
    (free : straight → Statement.allAttemptNothing statements) :
    context.Traces straight (Execution.runAll context calls steps statements)
      (Execution.runAll context.traced calls steps statements)
  /-- A statement. -/
  perform (calls : Nat) (statement : Statement) (free : straight → statement.attemptsNothing) :
    context.Traces straight (Execution.perform context calls steps statement)
      (Execution.perform context.traced calls steps statement)
  /-- A body that is repeated. -/
  repeated (calls : Nat) (condition : Expr) (body : List Statement)
    (free : straight → condition.attemptsNothing)
    (freeBody : straight → Statement.allAttemptNothing body) :
    context.Traces straight (Execution.repeated context calls steps condition body)
      (Execution.repeated context.traced calls steps condition body)
  /-- A body that is run for items. -/
  walk (calls : Nat) (name : String) (items : List Value) (body : List Statement)
    (free : straight → Statement.allAttemptNothing body) :
    context.Traces straight (Execution.walk context calls steps name items body)
      (Execution.walk context.traced calls steps name items body)

namespace TracesWithin

open Traces

variable {steps : Nat}

/-- Without steps there are no calls. -/
theorem zero : context.TracesWithin straight 0 where
  eval _ _ _ := by rw [Execution.eval, Execution.eval]; exact ofInterrupt rfl
  evalAll _ _ _ := by rw [Execution.evalAll, Execution.evalAll]; exact ofInterrupt rfl
  evalEntries _ _ _ := by rw [Execution.evalEntries, Execution.evalEntries]; exact ofInterrupt rfl
  place _ _ _ := by rw [Execution.place, Execution.place]; exact ofInterrupt rfl
  apply _ _ _ := by rw [Execution.apply, Execution.apply]; exact ofInterrupt rfl
  runAll _ _ _ := by rw [Execution.runAll, Execution.runAll]; exact ofInterrupt rfl
  perform _ _ _ := by rw [Execution.perform, Execution.perform]; exact ofInterrupt rfl
  repeated _ _ _ _ _ := by rw [Execution.repeated, Execution.repeated]; exact ofInterrupt rfl
  walk _ _ _ _ _ := by rw [Execution.walk, Execution.walk]; exact ofInterrupt rfl

/-- A block is its statements. -/
theorem block (within : context.TracesWithin straight steps) (calls : Nat)
    (body : List Statement) (free : straight → Statement.allAttemptNothing body) :
    context.Traces straight (Execution.enclosed (Execution.runAll context calls steps body))
      (Execution.enclosed (Execution.runAll context.traced calls steps body)) :=
  enclosed (within.runAll calls body free)

/-- What follows a condition goes on in one of two ways. -/
theorem condition (within : context.TracesWithin straight steps) (calls : Nat)
    (expression : Expr) (free : straight → expression.attemptsNothing)
    {next : Bool → Plain First Second α} {nextTraced : Bool → Traced First Second α}
    (others : ∀ holds, context.Traces straight (next holds) (nextTraced holds)) :
    context.Traces straight
      (do
        let value ← Execution.eval context calls steps expression
        next (← Execution.truth value))
      (do
        let value ← Execution.eval context.traced calls steps expression
        nextTraced (← Execution.truth value)) :=
  andThen (within.eval calls expression free) fun value => andThen (truth value) others

/-- An expression of one step more. -/
theorem eval_succ (within : context.TracesWithin straight steps) (calls : Nat)
    (expression : Expr) (free : straight → expression.attemptsNothing) :
    context.Traces straight (Execution.eval context calls (steps + 1) expression)
      (Execution.eval context.traced calls (steps + 1) expression) := by
  cases expression <;> simp only [Expr.attemptsNothing, Bool.and_eq_true] at free
  case literal value => rw [Execution.eval, Execution.eval]; exact ofValue value
  case name text =>
    rw [Execution.eval, Execution.eval]
    exact andThen (lookup text) fun _ => ofValue _
  case joined parts =>
    rw [Execution.eval, Execution.eval]
    exact andThen (within.evalAll calls parts free) fun _ => ofValue _
  case array items =>
    rw [Execution.eval, Execution.eval]
    exact andThen (within.evalAll calls items free) fun _ => ofValue _
  case map entries =>
    rw [Execution.eval, Execution.eval]
    exact andThen (within.evalEntries calls entries free) fun _ => ofValue _
  case unary operator operand =>
    rw [Execution.eval, Execution.eval]
    exact andThen (within.eval calls operand free) fun _ => ofComputed _
  case binary operator left right =>
    rw [Execution.eval, Execution.eval]
    exact andThen (within.eval calls left fun bare => (free bare).1) fun _ =>
      andThen (within.eval calls right fun bare => (free bare).2) fun _ => ofComputed _
  case both left right =>
    rw [Execution.eval, Execution.eval]
    refine within.condition calls left (fun bare => (free bare).1) fun holds => ?_
    cases holds with
    | true => exact within.condition calls right (fun bare => (free bare).2) fun _ => ofValue _
    | false => exact ofValue _
  case either left right =>
    rw [Execution.eval, Execution.eval]
    refine within.condition calls left (fun bare => (free bare).1) fun holds => ?_
    cases holds with
    | true => exact ofValue _
    | false => exact within.condition calls right (fun bare => (free bare).2) fun _ => ofValue _
  case call function arguments =>
    rw [Execution.eval.eq_def, Execution.eval.eq_def]
    dsimp only [traced]
    split
    · rename_i text item unknown
      simp only [Expr.allAttemptNothing, Bool.and_eq_true] at free
      refine andThen (within.eval calls item fun bare => (free bare).2.1) fun value =>
        andThen (lookup text) fun found => ?_
      split
      · exact andThen (andThen (ofComputed _) fun _ => ofValue _) fun _ => ofValue _
      · exact andThen (change text [] _) fun _ => ofValue _
    · exact andThen (within.evalAll calls _ free) fun values => within.apply calls _ values
  case method target function arguments =>
    rw [Execution.eval.eq_def, Execution.eval.eq_def]
    dsimp only [traced]
    split
    · rename_i item isPlace
      simp only [Expr.allAttemptNothing, Bool.and_eq_true] at free
      exact andThen (within.place calls target fun bare => (free bare).1) fun way =>
        andThen (within.eval calls item fun bare => (free bare).2.1) fun value =>
          andThen (change way.1 way.2 _) fun _ => ofValue _
    · refine andThen (within.eval calls target fun bare => (free bare).1) fun object =>
        andThen (within.evalAll calls _ fun bare => (free bare).2) fun values => ?_
      split
      · exact within.apply calls _ values
      · exact callKnown _ _
  case property target name =>
    rw [Execution.eval, Execution.eval]
    exact andThen (within.eval calls target free) fun _ => ofComputed _
  case element target index =>
    rw [Execution.eval, Execution.eval]
    exact andThen (within.eval calls target fun bare => (free bare).1) fun _ =>
      andThen (within.eval calls index fun bare => (free bare).2) fun _ => ofComputed _
  case block body =>
    rw [Execution.eval, Execution.eval]
    exact within.block calls body free
  case conditional condition body otherwise =>
    rw [Execution.eval, Execution.eval]
    refine within.condition calls condition (fun bare => (free bare).1.1) fun holds => ?_
    cases holds with
    | true => exact within.block calls body fun bare => (free bare).1.2
    | false => exact within.block calls otherwise fun bare => (free bare).2

/-- A place of one step more. -/
theorem place_succ (within : context.TracesWithin straight steps) (calls : Nat)
    (expression : Expr) (free : straight → expression.attemptsNothing) :
    context.Traces straight (Execution.place context calls (steps + 1) expression)
      (Execution.place context.traced calls (steps + 1) expression) := by
  cases expression with
  | name text => rw [Execution.place, Execution.place]; exact ofValue _
  | property target name =>
    rw [Execution.place, Execution.place]
    exact andThen (within.place calls target free) fun _ => ofValue _
  | element target index =>
    simp only [Expr.attemptsNothing, Bool.and_eq_true] at free
    rw [Execution.place, Execution.place]
    exact andThen (within.place calls target fun bare => (free bare).1) fun _ =>
      andThen (within.eval calls index fun bare => (free bare).2) fun _ => ofValue _
  | _ => exact fault _

/-- A call of one step more. -/
theorem apply_succ (within : context.TracesWithin straight steps)
    (free : straight → context.program.attemptsNothing) (calls : Nat) (function : String)
    (arguments : List Value) :
    context.Traces straight (Execution.apply context calls (steps + 1) function arguments)
      (Execution.apply context.traced calls (steps + 1) function arguments) := by
  rw [Execution.apply.eq_def, Execution.apply.eq_def]
  dsimp only [traced]
  split
  · exact callKnown function arguments
  · exact ofInterrupt rfl
  · rename_i found calls known
    refine leaving function (isolated _ (within.runAll calls found.body fun bare => ?_))
    exact Program.attemptsNothing_function (free bare) known

/-- Statements of one step more. -/
theorem runAll_succ (within : context.TracesWithin straight steps) (calls : Nat)
    (statements : List Statement) (free : straight → Statement.allAttemptNothing statements) :
    context.Traces straight (Execution.runAll context calls (steps + 1) statements)
      (Execution.runAll context.traced calls (steps + 1) statements) := by
  match statements with
  | [] => rw [Execution.runAll, Execution.runAll]; exact ofValue _
  | [last] =>
    simp only [Statement.allAttemptNothing, Bool.and_true] at free
    rw [Execution.runAll, Execution.runAll]
    exact within.perform calls last free
  | first :: second :: rest =>
    rw [Statement.allAttemptNothing, Bool.and_eq_true] at free
    exact andThen (within.perform calls first fun bare => (free bare).1) fun _ =>
      within.runAll calls (second :: rest) fun bare => (free bare).2

/-- A statement of one step more. -/
theorem perform_succ (within : context.TracesWithin straight steps) (calls : Nat)
    (statement : Statement) (free : straight → statement.attemptsNothing) :
    context.Traces straight (Execution.perform context calls (steps + 1) statement)
      (Execution.perform context.traced calls (steps + 1) statement) := by
  cases statement <;> simp only [Statement.attemptsNothing, Bool.and_eq_true] at free
  case expression value =>
    rw [Execution.perform, Execution.perform]
    exact within.eval calls value free
  case declare constant name value =>
    rw [Execution.perform, Execution.perform]
    exact andThen (within.eval calls value free) fun _ =>
      andThen (modifies fun _ => rfl) fun _ => ofValue _
  case assign target operator value =>
    rw [Execution.perform, Execution.perform]
    refine andThen (within.eval calls value fun bare => (free bare).2) fun operand =>
      andThen (within.place calls target fun bare => (free bare).1) fun way => ?_
    cases operator with
    | none => exact andThen (change way.1 way.2 _) fun _ => ofValue _
    | some found => exact andThen (change way.1 way.2 _) fun _ => ofValue _
  case repeating condition body =>
    rw [Execution.perform, Execution.perform]
    exact within.repeated calls condition body (fun bare => (free bare).1)
      fun bare => (free bare).2
  case each name source body =>
    rw [Execution.perform, Execution.perform]
    refine andThen (within.eval calls source fun bare => (free bare).1) fun value => ?_
    cases value.items? with
    | some items => exact within.walk calls name items body fun bare => (free bare).2
    | none => exact fault _
  case attempt body name handler =>
    have crooked : ¬ straight := fun bare => Bool.noConfusion (free bare)
    rw [Execution.perform, Execution.perform]
    refine attempt crooked (within.block calls body fun bare => absurd bare crooked) fun value =>
      enclosed ?_
    have handles := within.block calls handler fun bare => absurd bare crooked
    cases name with
    | none => exact handles
    | some text => exact andThen (modifies fun _ => rfl) fun _ => handles
  case throwing value =>
    rw [Execution.perform, Execution.perform]
    exact andThen (within.eval calls value free) fun _ => ofInterrupt rfl
  case returning value =>
    rw [Execution.perform, Execution.perform]
    exact andThen (within.eval calls value free) fun _ => ofInterrupt rfl

/-- What is executed in one step more is traced when everything in fewer steps is. -/
theorem succ (free : straight → context.program.attemptsNothing)
    (within : context.TracesWithin straight steps) :
    context.TracesWithin straight (steps + 1) where
  eval := within.eval_succ
  evalAll calls expressions free := by
    cases expressions with
    | nil => rw [Execution.evalAll, Execution.evalAll]; exact ofValue _
    | cons first rest =>
      rw [Expr.allAttemptNothing, Bool.and_eq_true] at free
      rw [Execution.evalAll, Execution.evalAll]
      exact andThen (within.eval calls first fun bare => (free bare).1) fun _ =>
        andThen (within.evalAll calls rest fun bare => (free bare).2) fun _ => ofValue _
  evalEntries calls entries free := by
    cases entries with
    | nil => rw [Execution.evalEntries, Execution.evalEntries]; exact ofValue _
    | cons first rest =>
      rw [Expr.entriesAttemptNothing, Bool.and_eq_true] at free
      rw [Execution.evalEntries, Execution.evalEntries]
      exact andThen (within.eval calls first.2 fun bare => (free bare).1) fun _ =>
        andThen (within.evalEntries calls rest fun bare => (free bare).2) fun _ => ofValue _
  place := within.place_succ
  apply := within.apply_succ free
  runAll := within.runAll_succ
  perform := within.perform_succ
  repeated calls condition body free freeBody := by
    rw [Execution.repeated, Execution.repeated]
    refine within.condition calls condition free fun holds => ?_
    cases holds with
    | true =>
      exact andThen (within.block calls body freeBody) fun _ =>
        within.repeated calls condition body free freeBody
    | false => exact ofValue _
  walk calls name items body free := by
    cases items with
    | nil => rw [Execution.walk, Execution.walk]; exact ofValue _
    | cons first rest =>
      rw [Execution.walk, Execution.walk]
      refine andThen (enclosed ?_) fun _ => within.walk calls name rest body free
      exact andThen (modifies fun _ => rfl) fun _ => within.runAll calls body free

end TracesWithin

end Context

end Stencil.Script
