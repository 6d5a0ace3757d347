/-!
# Builtin functions

The functions an expression may call: their names and how many arguments each takes.
-/

namespace Stencil

/-- A builtin function. -/
inductive Builtin where
  | cat | default | first | has | join | keys | last | len | lower | matching | replace | slice
  | str | kind | upper | values
deriving DecidableEq, Repr

namespace Builtin

/-- All functions, in the order of their names. -/
def all : List Builtin :=
  [cat, default, first, has, join, keys, last, len, lower, matching, replace, slice, str, kind,
    upper, values]

/-- The name a function is called by. -/
def name : Builtin → String
  | cat => "cat"
  | default => "default"
  | first => "first"
  | has => "has"
  | join => "join"
  | keys => "keys"
  | last => "last"
  | len => "len"
  | lower => "lower"
  | matching => "match"
  | replace => "replace"
  | slice => "slice"
  | str => "str"
  | kind => "type"
  | upper => "upper"
  | values => "values"

/-- The function of a name. -/
def ofName? (name : String) : Option Builtin := all.find? fun builtin => builtin.name == name

/-- The least number of arguments, and the greatest one if there is one. -/
def arity : Builtin → Nat × Option Nat
  | len | upper | lower | keys | values | first | last | kind | str => (1, some 1)
  | cat => (1, none)
  | join => (1, some 2)
  | has | default | matching => (2, some 2)
  | slice => (2, some 3)
  | replace => (3, some 3)

/-- Whether a function takes a number of arguments. -/
def accepts (builtin : Builtin) (count : Nat) : Bool :=
  let (least, greatest) := builtin.arity
  least ≤ count && match greatest with
    | some most => count ≤ most
    | none => true

/-- The number of arguments a function takes, in words. -/
def arityText (builtin : Builtin) : String :=
  match builtin.arity with
  | (least, none) => s!"at least {least}"
  | (least, some most) => if most = least then toString least else s!"{least} to {most}"

/-- The name of a function is found again. -/
theorem ofName?_name (builtin : Builtin) : ofName? builtin.name = some builtin := by
  cases builtin <;> decide

end Builtin

end Stencil
