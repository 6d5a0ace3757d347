import Stencil.Evaluation.Eval
import Stencil.Failure
import Stencil.Template.Document

/-!
# Rendering documents

The text a document has in a store. Every block is rendered in a scope of its own, so nothing a
block sets is seen outside of it. Rendering fails only when it enters a block that is nested
deeper than the limit allows.
-/

namespace Stencil

/-- The scope of a loop's body for one entry. -/
def Store.enter (store : Store) (key : Option String) (value : String) (entry : Value × Value) :
    Store :=
  match key with
  | some name => (store.push.set name entry.1).set value entry.2
  | none => store.push.set value entry.2

namespace Node

/-- Whether one more block may be entered when so many are open. -/
def enter (limit depth : Nat) : Except Failure Unit :=
  if depth < limit then .ok () else .error (.renderDepthExceeded limit)

mutual

/-- The text of a node inside `depth` blocks. -/
def render (limit depth : Nat) (store : Store) : Node → Except Failure String
  | literal text => .ok text
  | output expression => .ok (expression.eval store).text
  | conditional branches otherwise => do
    enter limit depth
    match renderBranches limit (depth + 1) store branches with
    | some rendered => rendered
    | none => renderAll limit (depth + 1) store.push otherwise
  | loop key value source body empty => do
    enter limit depth
    match (source.eval store).entries with
    | [] => renderAll limit (depth + 1) store.push empty
    | entries =>
      let texts ← entries.mapM fun entry =>
        renderAll limit (depth + 1) (store.enter key value entry) body
      return String.join texts
  | binding name value body => do
    enter limit depth
    renderAll limit (depth + 1) (store.push.set name (value.eval store)) body

/-- The text of the first branch whose condition holds; none when no condition does. -/
def renderBranches (limit depth : Nat) (store : Store) :
    List (Expr × List Node) → Option (Except Failure String)
  | [] => none
  | (condition, body) :: rest =>
    if (condition.eval store).isTruthy then some (renderAll limit depth store.push body)
    else renderBranches limit depth store rest

/-- The texts of nodes in a row. -/
def renderAll (limit depth : Nat) (store : Store) : List Node → Except Failure String
  | [] => .ok ""
  | node :: rest => do
    let first ← node.render limit depth store
    let others ← renderAll limit depth store rest
    return first ++ others

end

end Node

/-- How deep blocks may be nested while a document is rendered, unless a run says otherwise. -/
def defaultDepthLimit : Nat := 64

/-- The text of a document in a store. -/
def Document.render (limit : Nat) (document : Document) (store : Store) : Except Failure String :=
  Node.renderAll limit 0 store document.nodes

end Stencil
