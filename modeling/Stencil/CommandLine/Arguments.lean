import Stencil.Evaluation.Render
import Stencil.Files.Path
import Stencil.Text.Search

/-!
# Command line arguments

Arguments are read from the left and the first fault decides. An option has a long name and may
have a short one, its value follows it or is joined to it, and it is given at most once. Only a
joined value may start with a hyphen. Short flags may share a hyphen with each other and with one
option at the end.
-/

namespace Stencil.CommandLine

/-- An option with a value. -/
inductive Setting where
  /-- The entry template. -/
  | script
  /-- The data file. -/
  | json
  /-- The work folder. -/
  | work
  /-- The marker that opens a tag. -/
  | opening
  /-- The marker that continues a block. -/
  | continuing
  /-- The marker that closes a tag. -/
  | closing
  /-- How deep blocks may be nested. -/
  | maxDepth
deriving DecidableEq, Repr

/-- An option without a value. -/
inductive Flag where
  /-- Say more; it may be repeated. -/
  | verbose
  /-- Say the version. -/
  | version
  /-- Say how the program is used. -/
  | help
deriving DecidableEq, Repr

/-- What a name stands for. -/
inductive Switch where
  /-- An option with a value. -/
  | setting (setting : Setting)
  /-- An option without one. -/
  | flag (flag : Flag)

/-- Why arguments lead to no run. -/
inductive Stop where
  /-- The version is asked for. -/
  | version
  /-- Help is asked for. -/
  | help
  /-- The arguments make no sense. -/
  | misuse (reason : String)
deriving DecidableEq, Repr

/-- The arguments read so far. -/
structure Given where
  /-- The values of options, the latest first. -/
  values : List (Setting × String)
  /-- How often more output was asked for. -/
  verbosity : Nat

/-- What a run is asked to do. -/
structure Arguments where
  /-- The entry template. -/
  script : String
  /-- The data file. -/
  json : String
  /-- The work folder. -/
  work : String
  /-- The marker that opens a tag. -/
  opening : String
  /-- The marker that continues a block. -/
  continuing : String
  /-- The marker that closes a tag. -/
  closing : String
  /-- How deep blocks may be nested. -/
  maxDepth : Nat
  /-- How often more output was asked for. -/
  verbosity : Nat
deriving DecidableEq, Repr

/-- What a long name stands for. -/
def long? : String → Option Switch
  | "script" => some (.setting .script)
  | "json" => some (.setting .json)
  | "work" => some (.setting .work)
  | "begin" => some (.setting .opening)
  | "continue" => some (.setting .continuing)
  | "end" => some (.setting .closing)
  | "max-depth" => some (.setting .maxDepth)
  | "verbose" => some (.flag .verbose)
  | "version" => some (.flag .version)
  | "help" => some (.flag .help)
  | _ => none

/-- What a short name stands for. -/
def short? : Char → Option Switch
  | 's' => some (.setting .script)
  | 'j' => some (.setting .json)
  | 'w' => some (.setting .work)
  | 'v' => some (.flag .verbose)
  | 'V' => some (.flag .version)
  | 'h' => some (.flag .help)
  | _ => none

/-- The natural number of sixty-four bits that a text writes in digits, perhaps with a plus sign. -/
def natural? (text : String) : Option Nat :=
  let digits := (Text.dropPrefix? ['+'] text.toList).getD text.toList
  if digits.isEmpty || !digits.all Char.isDigit then none
  else
    let number := digits.foldl (fun value digit => value * 10 + (digit.toNat - '0'.toNat)) 0
    if number < UInt64.size then some number else none

/-- Whether an option takes a value: a path is not empty, and a depth is a number. -/
def Setting.takes (setting : Setting) (value : String) : Bool :=
  match setting with
  | script => !value.isEmpty
  | json => !value.isEmpty
  | work => !value.isEmpty
  | maxDepth => (natural? value).isSome
  | _ => true

namespace Given

/-- Nothing. -/
def nothing : Given := ⟨[], 0⟩

/-- The arguments with one more value. -/
def add (given : Given) (setting : Setting) (value : String) : Except Stop Given :=
  if (given.values.lookup setting).isSome then .error (.misuse "an option is repeated")
  else if setting.takes value then .ok { given with values := (setting, value) :: given.values }
  else .error (.misuse s!"an option does not take the value '{value}'")

/-- The arguments with one more flag. -/
def raise (given : Given) : Flag → Except Stop Given
  | .verbose => .ok { given with verbosity := given.verbosity + 1 }
  | .version => .error .version
  | .help => .error .help

/-- The value of an option, or another one when it was not given. -/
def value (given : Given) (setting : Setting) (other : String) : String :=
  (given.values.lookup setting).getD other

end Given

/-- Whether an argument is an option and no value. -/
def isOption (argument : String) : Bool :=
  match argument.toList with
  | '-' :: _ :: _ => true
  | _ => false

/-- The value behind an equals sign, if one is in front. -/
def afterEquals (text : List Char) : String :=
  String.ofList ((Text.dropPrefix? ['='] text).getD text)

/-- Short names behind one hyphen, and the option whose value is still to come. -/
def readShort (given : Given) : List Char → Except Stop (Given × Option Setting)
  | [] => .ok (given, none)
  | letter :: rest =>
    match short? letter with
    | none => .error (.misuse s!"unexpected argument '-{letter}'")
    | some (.flag flag) =>
      match given.raise flag with
      | .ok raised => readShort raised rest
      | .error stop => .error stop
    | some (.setting setting) =>
      if rest.isEmpty then .ok (given, some setting)
      else (given.add setting (afterEquals rest)).map fun added => (added, none)

/-- A long name, and the option whose value is still to come. -/
def readLong (given : Given) (text : List Char) : Except Stop (Given × Option Setting) :=
  let split := Text.splitFirst? ['='] text
  let name := String.ofList ((split.map Prod.fst).getD text)
  match long? name, split with
  | none, _ => .error (.misuse s!"unexpected argument '--{name}'")
  | some (.flag flag), none => (given.raise flag).map fun raised => (raised, none)
  | some (.flag _), some _ => .error (.misuse s!"unexpected value for '--{name}'")
  | some (.setting setting), none => .ok (given, some setting)
  | some (.setting setting), some (_, value) =>
    (given.add setting (String.ofList value)).map fun added => (added, none)

/-- An option, and the option whose value is still to come. -/
def readOption (given : Given) (argument : String) : Except Stop (Given × Option Setting) :=
  match argument.toList with
  | '-' :: '-' :: name => readLong given name
  | '-' :: names => readShort given names
  | _ => .error (.misuse s!"unexpected argument '{argument}'")

/-- Arguments from the left; `pending` is the option whose value comes next. -/
def readAll (given : Given) : Option Setting → List String → Except Stop Given
  | none, [] => .ok given
  | some _, [] => .error (.misuse "a value is missing")
  | some setting, argument :: rest =>
    if isOption argument then .error (.misuse "a value is missing")
    else match given.add setting argument with
      | .ok added => readAll added none rest
      | .error stop => .error stop
  | none, argument :: rest =>
    if argument = "--" then
      if rest.isEmpty then .ok given else .error (.misuse "unexpected argument")
    else if isOption argument then
      match readOption given argument with
      | .ok (read, pending) => readAll read pending rest
      | .error stop => .error stop
    else .error (.misuse s!"unexpected argument '{argument}'")

/-- What the arguments of a command line ask for. -/
def Arguments.parse (arguments : List String) : Except Stop Arguments := do
  let given ← readAll .nothing none arguments
  match given.values.lookup .script, given.values.lookup .json with
  | some script, some json =>
    return {
      script
      json
      work := given.value .work "."
      opening := given.value .opening "\x7b\x7b"
      continuing := given.value .continuing "||"
      closing := given.value .closing "\x7d\x7d"
      maxDepth := ((given.values.lookup .maxDepth).bind natural?).getD defaultDepthLimit
      verbosity := given.verbosity }
  | _, _ => .error (.misuse "a required argument is missing: --script and --json")

end Stencil.CommandLine
