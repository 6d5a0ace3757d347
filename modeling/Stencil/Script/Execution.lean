import Stencil.Script.Host

/-!
# Executing driving scripts

A script is executed statement by statement, over any place that answers its requests. What it
has asked for and set stays done when a later statement fails. Variables last to the end of their
block, a function sees its parameters only, and a failure passes through blocks and functions until
it is caught. The latest failure of the generator is remembered, because a script that throws its
text again fails as the generator did.
-/

namespace Stencil.Script

/-- Why a computation stops early. -/
inductive Interrupt where
  /-- A function or the script ends with a value. -/
  | returned (value : Value)
  /-- A value was thrown, and passed through functions. -/
  | thrown (value : Value) (functions : List String)
  /-- The generator failed, and the failure passed through functions. For a script it is the text of
  the failure that was thrown. -/
  | failed (failure : Failure) (functions : List String)
  /-- An operation has no result, and the fault passed through functions. -/
  | fault (message : String) (functions : List String)
  /-- Too many functions are open, or there were too many steps. This cannot be caught. -/
  | exhausted

/-- A variable. -/
structure Variable where
  /-- Its name. -/
  name : String
  /-- Whether it keeps its value. -/
  constant : Bool
  /-- Its value. -/
  value : Value

/-- What a script has while it is executed. -/
structure State where
  /-- The variables, the latest first. -/
  locals : List Variable
  /-- The latest failure of the generator. -/
  failure : Option Failure

/-- A computation of a script. -/
abbrev Execution (m : Type → Type) (α : Type) := ExceptT Interrupt (StateT State m) α

/-- Where a script is executed: its functions, and what answers its requests. -/
structure Context (m : Type → Type) where
  /-- The script. -/
  program : Program
  /-- The answer to a request. -/
  answer : Request → m (Except Failure Unit)

/-- How many functions may be open at once. -/
def callLimit : Nat := 64

/-- How many steps may follow each other, besides those that the length of a script allows. -/
def stepLimit : Nat := 1000000000000

namespace Execution

variable {m : Type → Type} [Monad m]

/-- An operation, whose missing result is a fault. -/
def ofComputed {α : Type} : Computed α → Execution m α
  | .ok value => return value
  | .error message => throw (.fault message [])

/-- A fault. -/
def fault {α : Type} (message : String) : Execution m α := throw (.fault message [])

/-- A failure of the generator, which is remembered. -/
def fail {α : Type} (failure : Failure) : Execution m α := do
  modify fun state => { state with failure := some failure }
  throw (.failed failure [])

/-- Make a request. -/
def ask (context : Context m) (request : Request) : Execution m Value := do
  match ← ExceptT.lift (StateT.lift (context.answer request)) with
  | .ok () => return .unit
  | .error failure => fail failure

/-- Declare a variable. -/
def declare (constant : Bool) (name : String) (value : Value) : Execution m Unit :=
  modify fun state => { state with locals := ⟨name, constant, value⟩ :: state.locals }

/-- The variable of a name. -/
def lookup (name : String) : Execution m Variable := do
  match (← get).locals.find? fun entry => entry.name = name with
  | some found => return found
  | none => fault s!"Variable not found: {name}"

/-- The variables with a new value for the latest one of a name. -/
def replaced (name : String) (value : Value) : List Variable → List Variable
  | [] => []
  | first :: rest =>
    if first.name = name then { first with value := value } :: rest
    else first :: replaced name value rest

/-- A computation after which the variables it declared are gone, however it ends. -/
def enclosed {α : Type} (computation : Execution m α) : Execution m α := ExceptT.mk do
  let before := (← get).locals.length
  let result ← computation.run
  modify fun state =>
    { state with locals := state.locals.drop (state.locals.length - before) }
  return result

/-- A computation with variables of its own, however it ends. -/
def isolated {α : Type} (locals : List Variable) (computation : Execution m α) :
    Execution m α := ExceptT.mk do
  let before := (← get).locals
  modify fun state => { state with locals := locals }
  let result ← computation.run
  modify fun state => { state with locals := before }
  return result

/-- What a function hands on when its body ends. -/
def leaving (function : String) : Except Interrupt Value → Except Interrupt Value
  | .error (.returned value) => .ok value
  | .error (.thrown value functions) => .error (.thrown value (functions ++ [function]))
  | .error (.failed failure functions) => .error (.failed failure (functions ++ [function]))
  | .error (.fault message functions) => .error (.fault message (functions ++ [function]))
  | result => result

/-- What a handler gets to know of an interrupt; none for one that cannot be caught. Of a fault that
is the message alone: its kind, its place in the script and what else the language says of it are
left out. -/
def caught? : Interrupt → Option Value
  | .thrown value _ => some value
  | .failed failure _ => some (.string failure.text)
  | .fault message _ => some (.map [("message", .string message)])
  | .returned _ => none
  | .exhausted => none

/-- What is thrown once more after it was caught: of a failure of the generator no more than its
text. -/
def again : Interrupt → Interrupt
  | .failed failure functions => .thrown (.string failure.text) functions
  | caught => caught

/-- What an attempt hands on when its handler ends. Throwing nothing in a handler throws what was
caught once more. -/
def rethrown (caught : Interrupt) : Except Interrupt Value → Except Interrupt Value
  | .ok _ => .ok .unit
  | .error (.thrown .unit []) => .error (again caught)
  | result => result

end Execution

/-- A step from a value to one of its parts. -/
inductive Accessor where
  /-- To a property. -/
  | property (name : String)
  /-- To an element. -/
  | element (index : Value)

/-- A value in which a part is changed. -/
def Accessor.change (update : Value → Computed Value) : List Accessor → Value → Computed Value
  | [], value => update value
  | .property name :: rest, value => do
    let part ← change update rest (← value.property name)
    value.setProperty name part
  | .element index :: rest, value => do
    let part ← change update rest (← value.element index)
    value.setElement index part

namespace Execution

variable {m : Type → Type} [Monad m]

/-- Change a part of a variable. -/
def change (name : String) (accessors : List Accessor) (update : Value → Computed Value) :
    Execution m Unit := do
  let found ← lookup name
  if found.constant then fault s!"Cannot modify constant: {name}"
  else
    let value ← ofComputed (Accessor.change update accessors found.value)
    modify fun state => { state with locals := replaced name value state.locals }

/-- Put a value behind the items of an array. -/
def pushed (item : Value) : Value → Computed Value
  | .array items => .ok (.array (items ++ [item]))
  | other => .error s!"Function not found: push ({other.typeName}, {item.typeName})"

/-- A call of a function that every script knows. -/
def callKnown (context : Context m) (function : String) (arguments : List Value) :
    Execution m Value :=
  match Host.call? function arguments with
  | some (.value value) => return value
  | some (.request request) => ask context request
  | none =>
    fault ("Function not found: " ++ function ++ " (" ++
      String.intercalate ", " (arguments.map Value.typeName) ++ ")")

/-- A truth value. -/
def truth : Value → Execution m Bool
  | .boolean answer => return answer
  | other => fault s!"A truth value is needed, not {other.typeName}"

mutual

/-- The value of an expression, in at most `steps` steps and with at most `calls` more functions
open. -/
def eval (context : Context m) (calls : Nat) : Nat → Expr → Execution m Value
  | 0, _ => throw .exhausted
  | steps + 1, expression =>
    match expression with
    | .literal value => return value
    | .name text => return (← lookup text).value
    | .joined parts => do
      return .string (String.join ((← evalAll context calls steps parts).map Value.text))
    | .array items => return .array (← evalAll context calls steps items)
    | .map entries => return .map (Value.entriesOf (← evalEntries context calls steps entries))
    | .unary operator operand => do
      ofComputed (operator.apply (← eval context calls steps operand))
    | .binary operator left right => do
      let first ← eval context calls steps left
      let second ← eval context calls steps right
      ofComputed (operator.apply first second)
    | .both left right => do
      if ← truth (← eval context calls steps left) then
        return .boolean (← truth (← eval context calls steps right))
      else return .boolean false
    | .either left right => do
      if ← truth (← eval context calls steps left) then return .boolean true
      else return .boolean (← truth (← eval context calls steps right))
    | .call function arguments => do
      match context.program.function? function arguments.length, function, arguments with
      | none, "push", [.name text, item] => do
        let value ← eval context calls steps item
        let found ← lookup text
        -- A call changes a copy of a constant.
        if found.constant then discard <| ofComputed (pushed value found.value)
        else change text [] (pushed value)
        return .unit
      | _, _, _ => apply context calls steps function (← evalAll context calls steps arguments)
    | .method target function arguments => do
      match function, arguments, target.isPlace with
      | "push", [item], true => do
        let (text, accessors) ← place context calls steps target
        let value ← eval context calls steps item
        change text accessors (pushed value)
        return .unit
      | _, _, _ => do
        let object ← eval context calls steps target
        let values ← evalAll context calls steps arguments
        match context.program.function? function values.length with
        | some _ => apply context calls steps function values
        | none => callKnown context function (object :: values)
    | .property target name => do
      ofComputed ((← eval context calls steps target).property name)
    | .element target index => do
      let object ← eval context calls steps target
      ofComputed (object.element (← eval context calls steps index))
    | .block body => enclosed (runAll context calls steps body)
    | .conditional condition body otherwise => do
      if ← truth (← eval context calls steps condition) then
        enclosed (runAll context calls steps body)
      else enclosed (runAll context calls steps otherwise)
termination_by structural steps _ => steps

/-- The values of expressions in a row. -/
def evalAll (context : Context m) (calls : Nat) : Nat → List Expr → Execution m (List Value)
  | 0, _ => throw .exhausted
  | _ + 1, [] => return []
  | steps + 1, first :: rest => do
    let value ← eval context calls steps first
    return value :: (← evalAll context calls steps rest)
termination_by structural steps _ => steps

/-- The values of named expressions. -/
def evalEntries (context : Context m) (calls : Nat) :
    Nat → List (String × Expr) → Execution m (List (String × Value))
  | 0, _ => throw .exhausted
  | _ + 1, [] => return []
  | steps + 1, (name, first) :: rest => do
    let value ← eval context calls steps first
    return (name, value) :: (← evalEntries context calls steps rest)
termination_by structural steps _ => steps

/-- The variable that a place is in, and the way from its value to the place. -/
def place (context : Context m) (calls : Nat) :
    Nat → Expr → Execution m (String × List Accessor)
  | 0, _ => throw .exhausted
  | _ + 1, .name text => return (text, [])
  | steps + 1, .property target name => do
    let (text, accessors) ← place context calls steps target
    return (text, accessors ++ [.property name])
  | steps + 1, .element target index => do
    let (text, accessors) ← place context calls steps target
    return (text, accessors ++ [.element (← eval context calls steps index)])
  | _ + 1, _ => fault "Nothing can be put there"
termination_by structural steps _ => steps

/-- A call of a function of the script, or else of one that every script knows. -/
def apply (context : Context m) (calls : Nat) (steps : Nat) (function : String)
    (arguments : List Value) : Execution m Value :=
  match steps with
  | 0 => throw .exhausted
  | steps + 1 =>
    match context.program.function? function arguments.length, calls with
    | none, _ => callKnown context function arguments
    | some _, 0 => throw .exhausted
    | some found, calls + 1 =>
      let parameters := (found.parameters.zip arguments).map fun (name, value) =>
        (⟨name, false, value⟩ : Variable)
      ExceptT.mk do
        return leaving function
          (← (isolated parameters.reverse (runAll context calls steps found.body)).run)
termination_by structural steps

/-- Run statements in order; the value is that of the last one. -/
def runAll (context : Context m) (calls : Nat) : Nat → List Statement → Execution m Value
  | 0, _ => throw .exhausted
  | _ + 1, [] => return .unit
  | steps + 1, [last] => perform context calls steps last
  | steps + 1, first :: rest => do
    let _ ← perform context calls steps first
    runAll context calls steps rest
termination_by structural steps _ => steps

/-- Run one statement. -/
def perform (context : Context m) (calls : Nat) : Nat → Statement → Execution m Value
  | 0, _ => throw .exhausted
  | steps + 1, statement =>
    match statement with
    | .expression value => eval context calls steps value
    | .declare constant name value => do
      declare constant name (← eval context calls steps value)
      return .unit
    | .assign target operator value => do
      let operand ← eval context calls steps value
      let (text, accessors) ← place context calls steps target
      match operator with
      | none => change text accessors fun _ => .ok operand
      | some found => change text accessors fun old => found.update old operand
      return .unit
    | .repeating condition body => repeated context calls steps condition body
    | .each name source body => do
      match (← eval context calls steps source).items? with
      | some items => walk context calls steps name items body
      | none => fault "There is nothing to walk over"
    | .attempt body name handler => ExceptT.mk do
      match ← (enclosed (runAll context calls steps body)).run with
      | .ok value => return .ok value
      | .error interrupt =>
        match caught? interrupt with
        | none => return .error interrupt
        | some value =>
          let handling : Execution m Value := enclosed do
            match name with
            | some text => declare false text value
            | none => pure ()
            enclosed (runAll context calls steps handler)
          return rethrown interrupt (← handling.run)
    | .throwing value => do throw (.thrown (← eval context calls steps value) [])
    | .returning value => do throw (.returned (← eval context calls steps value))
termination_by structural steps _ => steps

/-- Run a body as long as a condition holds. -/
def repeated (context : Context m) (calls : Nat) :
    Nat → Expr → List Statement → Execution m Value
  | 0, _, _ => throw .exhausted
  | steps + 1, condition, body => do
    if ← truth (← eval context calls steps condition) then
      let _ ← enclosed (runAll context calls steps body)
      repeated context calls steps condition body
    else return .unit
termination_by structural steps _ _ => steps

/-- Run a body for every item, which a name stands for. -/
def walk (context : Context m) (calls : Nat) :
    Nat → String → List Value → List Statement → Execution m Value
  | 0, _, _, _ => throw .exhausted
  | _ + 1, _, [], _ => return .unit
  | steps + 1, name, first :: rest, body => do
    let _ ← enclosed do
      declare false name first
      runAll context calls steps body
    walk context calls steps name rest body
termination_by structural steps _ _ _ => steps

end

end Execution

/-- The text of what was thrown, or of a fault, without the functions it passed through. The place
of a fault in the script is left out of its text. -/
def Interrupt.rootText : Interrupt → String
  | returned _ => ""
  | thrown value _ => value.plainText
  | failed failure _ => failure.text
  | fault message _ => message
  | exhausted => "Too many steps or open functions"

/-- The text of an interrupt that ends a script, without any places in the script. -/
def Interrupt.text (interrupt : Interrupt) : String :=
  match interrupt with
  | thrown value functions => inFunctions functions ("Runtime error: " ++ value.plainText)
  | failed failure functions => inFunctions functions ("Runtime error: " ++ failure.text)
  | fault message functions => inFunctions functions message
  | other => other.rootText
where
  /-- A text with the functions it is about. -/
  inFunctions (functions : List String) (message : String) : String :=
    functions.foldl (fun text function => text ++ s!"\nin call to function '{function}'") message

/-- How a script ends: well, as the generator last failed when that is what was thrown, and
otherwise with a failure of its own. -/
def outcome : Except Interrupt Value → Option Failure → Except Failure Unit
  | .ok _, _ => .ok ()
  | .error (.returned _), _ => .ok ()
  | .error interrupt, some failure =>
    if failure.text = interrupt.rootText then .error failure
    else .error (.script interrupt.text)
  | .error interrupt, none => .error (.script interrupt.text)

/-- Execute a script, in at most `steps` steps that follow each other. -/
def Context.execute {m : Type → Type} [Monad m] (context : Context m) (steps : Nat) :
    m (Except Failure Unit) := do
  let computation := Execution.runAll context callLimit steps context.program.statements
  let (result, state) ← (computation.run).run ⟨[], none⟩
  return outcome result state.failure

end Stencil.Script
