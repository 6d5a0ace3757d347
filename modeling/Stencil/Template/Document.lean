import Stencil.Template.Expr

/-!
# Documents

A parsed template: literal text, outputs and blocks, nested as they were written.
-/

namespace Stencil

/-- A piece of a parsed template. -/
inductive Node where
  /-- Text to be written as it is. -/
  | literal (text : String)
  /-- An expression whose text is written. -/
  | output (expression : Expr)
  /-- The first branch whose condition holds, or the last body. -/
  | conditional (branches : List (Expr × List Node)) (otherwise : List Node)
  /-- A body for every entry of a source, or another one when there is none. -/
  | loop (key : Option String) (value : String) (source : Expr) (body empty : List Node)
  /-- A body in which a name has a value. -/
  | binding (name : String) (value : Expr) (body : List Node)
deriving Repr, Inhabited

/-- A parsed template. -/
structure Document where
  /-- Its pieces in order. -/
  nodes : List Node
deriving Repr, Inhabited

end Stencil
