import Stencil.Script.Program.Parser

/-!
# What is checked before a script is run

A script that assigns to a constant, or into one, is refused before it is run. What counts is the
declaration that is in force where the assignment stands; a function sees its parameters only.

The language of driving scripts has a library of its own, of which only a few functions are carried
here. A script that calls another one of them, or asks for a property that is left out, is refused
as well, so that nothing of it is run in another way than the language has it. A function of the
script comes before one of the library, so one that takes as many arguments may be called.
-/

namespace Stencil.Script

/-- The names declared so far and whether they are constant, the latest first. -/
abbrev Declarations := List (String × Bool)

namespace Checks

/-- Whether a place may be assigned to. -/
def mayAssign (declared : Declarations) (place : Expr) : Bool :=
  match place.root? with
  | some name => declared.lookup name != some true
  | none => true

/-- The functions of the library that are left out: those of all values, of functions, of numbers,
of texts, of arrays, of maps, of bytes, and of ranges and times. -/
def leftOut : List String :=
  ["type_of", "is_shared", "is_def_var", "is_def_fn", "tag", "set_tag", "take", "eval", "exit",
    "sleep", "parse_json", "to_json", "get_fn_metadata_list"] ++
  ["Fn", "call", "curry", "name", "is_anonymous"] ++
  ["abs", "sign", "is_zero", "is_odd", "is_even", "min", "max", "sin", "cos", "tan", "sinh",
    "cosh", "tanh", "asin", "acos", "atan", "asinh", "acosh", "atanh", "hypot", "to_degrees",
    "to_radians", "sqrt", "exp", "ln", "log", "floor", "ceiling", "round", "int", "fraction",
    "is_nan", "is_finite", "is_infinite", "to_int", "to_float", "to_decimal", "parse_int",
    "parse_float", "parse_decimal", "to_hex", "to_octal", "to_binary", "PI", "E", "get_bit",
    "set_bit", "get_bits", "set_bits", "bits"] ++
  ["bytes", "chars", "to_chars", "to_blob", "as_string", "is_empty", "append", "remove", "clear",
    "truncate", "trim", "pop", "to_upper", "to_lower", "make_upper", "make_lower", "starts_with",
    "ends_with", "contains", "index_of", "sub_string", "crop", "replace", "pad", "get", "set",
    "split", "split_rev"] ++
  ["insert", "concat", "shift", "chop", "extract", "splice", "reverse", "filter", "map",
    "for_each", "some", "all", "find", "find_map", "reduce", "reduce_rev", "zip", "dedup", "sort",
    "sort_desc", "order", "order_desc", "order_by", "drain", "retain"] ++
  ["mixin", "fill_with", "keys", "values"] ++
  ["blob", "to_array", "parse_le_int", "parse_be_int", "parse_le_float", "parse_be_float",
    "write_le", "write_be", "write_utf8", "write_ascii"] ++
  ["range", "start", "end", "is_inclusive", "is_exclusive", "timestamp", "elapsed"]

/-- The properties of other values than maps that are left out. What has a property is not
known before the script is run, so an entry of a map cannot be asked for by such a name either. -/
def leftOutProperties : List String :=
  ["is_zero", "is_odd", "is_even", "floor", "ceiling", "round", "int", "fraction", "is_nan",
    "is_finite", "is_infinite", "bytes", "chars", "bits", "is_empty", "is_inclusive",
    "is_exclusive", "tag"]

/-- Whether a script may call a function with so many arguments. -/
def mayCall (program : Program) (function : String) (count : Nat) : Bool :=
  (program.function? function count).isSome || !leftOut.contains function

mutual

/-- Whether an expression assigns to no constant and uses nothing that is left out. -/
def passes (program : Program) (declared : Declarations) : Expr → Bool
  | .literal _ => true
  | .name _ => true
  | .joined parts => allPass program declared parts
  | .array items => allPass program declared items
  | .map entries => entriesPass program declared entries
  | .unary _ operand => passes program declared operand
  | .binary _ left right => passes program declared left && passes program declared right
  | .both left right => passes program declared left && passes program declared right
  | .either left right => passes program declared left && passes program declared right
  | .call function arguments =>
    mayCall program function arguments.length && allPass program declared arguments
  | .method target function arguments =>
    mayCall program function arguments.length && passes program declared target &&
      allPass program declared arguments
  | .property target name =>
    !leftOutProperties.contains name && passes program declared target
  | .element target index => passes program declared target && passes program declared index
  | .block body => blockPasses program declared body
  | .conditional condition body otherwise =>
    passes program declared condition && blockPasses program declared body &&
      blockPasses program declared otherwise

/-- Whether no expression in a row does either. -/
def allPass (program : Program) (declared : Declarations) : List Expr → Bool
  | [] => true
  | first :: rest => passes program declared first && allPass program declared rest

/-- Whether no named expression does either. -/
def entriesPass (program : Program) (declared : Declarations) : List (String × Expr) → Bool
  | [] => true
  | (_, first) :: rest => passes program declared first && entriesPass program declared rest

/-- Whether no statement does either. -/
def blockPasses (program : Program) (declared : Declarations) : List Statement → Bool
  | [] => true
  | .expression value :: rest => passes program declared value && blockPasses program declared rest
  | .declare constant name value :: rest =>
    passes program declared value && blockPasses program ((name, constant) :: declared) rest
  | .assign place _ value :: rest =>
    mayAssign declared place && passes program declared place && passes program declared value &&
      blockPasses program declared rest
  | .repeating condition body :: rest =>
    passes program declared condition && blockPasses program declared body &&
      blockPasses program declared rest
  | .each name source body :: rest =>
    passes program declared source && blockPasses program ((name, false) :: declared) body &&
      blockPasses program declared rest
  | .attempt body name handler :: rest =>
    blockPasses program declared body &&
      blockPasses program (name.toList.map (fun caught => (caught, false)) ++ declared) handler &&
      blockPasses program declared rest
  | .throwing value :: rest => passes program declared value && blockPasses program declared rest
  | .returning value :: rest => passes program declared value && blockPasses program declared rest

end

end Checks

/-- The program of a script; none when the script is malformed or does not pass the checks. -/
def Program.parse? (source : String) : Option Program := do
  let tokens ← Token.ofText source
  let program ← Parser.programWithin (tokens.length + 1) tokens
  let inFunctions := program.functions.all fun function =>
    Checks.blockPasses program (function.parameters.map fun name => (name, false)) function.body
  if Checks.blockPasses program [] program.statements && inFunctions then return program else none

end Stencil.Script
