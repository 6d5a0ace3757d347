/-!
# Metadata

What a driving script passes along with a template: names with texts.
-/

namespace Stencil

/-- A name and the text it has for one rendering. -/
structure Metadata where
  /-- The name. -/
  key : String
  /-- Its text. -/
  value : String
deriving DecidableEq, Repr

namespace Metadata

/-- The text of an entry. -/
def text (entry : Metadata) : String := entry.key ++ "=" ++ entry.value

end Metadata

end Stencil
