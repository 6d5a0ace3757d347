import Stencil.Evaluation.Store
import Stencil.Failure
import Stencil.Value.Json

/-!
# Global data

The outermost store of a generation: every member of the data document is a name.
-/

namespace Stencil

/-- What kind of document a message says it met. -/
def Json.kindText : Json → String
  | null => "null"
  | boolean _ => "a boolean"
  | number _ => "a number"
  | string _ => "a string"
  | array _ => "an array"
  | object _ => "an object"

/-- The store of a data document, whose root must be an object. -/
def Store.ofJson : Json → Except Failure Store
  | .object members =>
    .ok (Store.empty.setAll (members.map fun member => (member.1, Value.ofJson member.2)))
  | other =>
    .error (.conversion ⟨
      s!"Expected a JSON object at the root of the data file, got {other.kindText}",
      some "Wrap the data in an object, e.g. \x7b\"database\": ...\x7d", some 401⟩)

end Stencil
