import Stencil.Failure
import Stencil.Script.Operation

/-!
# Functions of driving scripts

The functions that every script may call, apart from its own. Two of them ask the generator for
something: to render a template with metadata, and to copy a folder. Metadata comes as up to eight
arguments, as an array or as a map, whose entries come in the order of their names. An array with
an item that is no entry is refused like any other request that fails.
-/

namespace Stencil.Script

/-- What a script asks of the generator. -/
inductive Request where
  /-- Render a template to an output file. -/
  | render (template output : String) (metadata : List Metadata)
  /-- Take the entries of metadata out of an array. -/
  | unpack (items : List Value)
  /-- Copy the files of a folder. -/
  | copy (source target : String)
deriving Repr

/-- What a call of a known function comes to. -/
inductive Answer where
  /-- A value. -/
  | value (value : Value)
  /-- A request to the generator. -/
  | request (request : Request)

namespace Host

/-- How many entries of metadata may be written as arguments. -/
def mostArguments : Nat := 8

/-- The entry of metadata that a value is. -/
def entry? : Value → Option Metadata
  | .metadata entry => some entry
  | _ => none

/-- The entries of metadata of an array; it fails at the first item that is none. -/
def entriesOf : List Value → Except Failure (List Metadata)
  | [] => .ok []
  | .metadata entry :: rest => do return entry :: (← entriesOf rest)
  | other :: _ =>
    .error (.script s!"Expected metadata pairs in the array, got {other.typeName}")

/-- The metadata of the arguments behind a template and its output, or the array of which an item is
no entry; none when no form of the function takes them. -/
def metadata? : List Value → Option (Except (List Value) (List Metadata))
  | [.array items] => some ((entriesOf items).mapError fun _ => items)
  | [.map entries] =>
    some (.ok (entries.map fun entry => ⟨entry.1, entry.2.plainText⟩))
  | arguments =>
    if arguments.length ≤ mostArguments then (arguments.mapM entry?).map .ok else none

/-- A call that renders a template. It asks for no more than the entries of an array that cannot be
had. -/
def render? : List Value → Option Answer
  | .string template :: .string output :: rest =>
    (metadata? rest).map fun
      | .ok entries => .request (.render template output entries)
      | .error items => .request (.unpack items)
  | _ => none

/-- A call that builds an entry of metadata. -/
def build? : List Value → Option Answer
  | [.string key, value] => some (.value (.metadata ⟨key, value.plainText⟩))
  | _ => none

/-- A call that copies a folder. -/
def copy? : List Value → Option Answer
  | [.string source, .string target] => some (.request (.copy source target))
  | _ => none

/-- A call that only writes to the log. -/
def log? : List Value → Option Answer
  | [] => some (.value .unit)
  | [_] => some (.value .unit)
  | _ => none

/-- A call on one value. -/
def unary? (result : Value → Option Value) : List Value → Option Answer
  | [value] => (result value).map .value
  | _ => none

/-- What a call comes to; none when no function of that name takes the arguments. -/
def call? (function : String) (arguments : List Value) : Option Answer :=
  match function with
  | "RenderTemplate" => render? arguments
  | "RunTemplate" => render? arguments
  | "BuildMetadataPair" => build? arguments
  | "BuildKeyValuePair" => build? arguments
  | "CopyFolder" => copy? arguments
  | "print" => log? arguments
  | "debug" => log? arguments
  | "len" => unary? (fun value => value.length?.map .integer) arguments
  | "to_string" => unary? (fun value => some (.string value.text)) arguments
  | "to_debug" =>
    unary? (fun value => some (.string (value.nestedText Value.nestedMetadata))) arguments
  | _ => none

end Host

end Stencil.Script
