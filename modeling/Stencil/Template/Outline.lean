import Stencil.Template.Chunk
import Stencil.Template.Document
import Stencil.Template.Tag

/-!
# Outlines

A document under construction: the nodes of the innermost open body, and around it the blocks
that are still open. Each chunk changes the outline in one step, and a template is well formed when
every step succeeds and no block is left open. Nodes are kept the latest first until their body is
complete.
-/

namespace Stencil

/-- The part of an open block whose body is being read. -/
inductive OpenPart where
  /-- A branch with a condition, after some complete branches. -/
  | branch (earlier : List (Expr × List Node)) (condition : Expr)
  /-- The last branch of a conditional. -/
  | otherwise (branches : List (Expr × List Node))
  /-- The body of a loop. -/
  | loop (key : Option String) (value : String) (source : Expr)
  /-- The branch of a loop without entries. -/
  | empty (key : Option String) (value : String) (source : Expr) (body : List Node)
  /-- The body of a binding. -/
  | binding (name : String) (value : Expr)
deriving Repr

/-- A block that is still open. -/
structure OpenBlock where
  /-- The part whose body is being read. -/
  part : OpenPart
  /-- Where the block was opened. -/
  position : Position
  /-- The nodes before the block in the body around it, the latest first. -/
  before : List Node
deriving Repr

/-- A document under construction. -/
structure Outline where
  /-- The nodes of the innermost body, the latest first. -/
  nodes : List Node
  /-- The open blocks, the innermost first. -/
  blocks : List OpenBlock
deriving Repr

namespace OpenPart

/-- The part of a block that has just been opened. -/
def ofOpening : Opening → OpenPart
  | .conditional condition => branch [] condition
  | .loop key value source => loop key value source
  | .binding name value => binding name value

/-- The kind of block a part belongs to. -/
def kind : OpenPart → BlockKind
  | branch _ _ => .conditional
  | otherwise _ => .conditional
  | loop _ _ _ => .loop
  | empty _ _ _ _ => .loop
  | binding _ _ => .binding

/-- The node of a block whose last body is complete. -/
def close (body : List Node) : OpenPart → Node
  | branch earlier condition => .conditional (earlier ++ [(condition, body)]) []
  | otherwise branches => .conditional branches body
  | loop key value source => .loop key value source body []
  | empty key value source first => .loop key value source first body
  | binding name value => .binding name value body

/-- The next part of a block, behind a complete body. -/
def continued (body : List Node) : OpenPart → Branch → Except SyntaxFault OpenPart
  | branch earlier condition, .elif next => .ok (branch (earlier ++ [(condition, body)]) next)
  | branch earlier condition, .otherwise => .ok (otherwise (earlier ++ [(condition, body)]))
  | branch earlier condition, .bare => .ok (otherwise (earlier ++ [(condition, body)]))
  | branch _ _, .empty => .error .emptyInConditional
  | loop _ _ _, .elif _ => .error .elifInLoop
  | loop key value source, _ => .ok (empty key value source body)
  | binding _ _, _ => .error .continuationInBinding
  | part, _ => .error (.afterLastBranch part.kind)

end OpenPart

namespace Outline

/-- Nothing read yet. -/
def start : Outline := ⟨[], []⟩

/-- Add a node to the innermost body. -/
def push (outline : Outline) (node : Node) : Outline :=
  ⟨node :: outline.nodes, outline.blocks⟩

/-- Do what a tag says. -/
def applyTag (delimiters : Delimiters) (outline : Outline) : Tag → Except SyntaxError Outline
  | .comment => .ok outline
  | .output expression => .ok (outline.push (.output expression))
  | .opening header position =>
    if maxBlockDepth ≤ outline.blocks.length then .error ⟨.blocksTooDeep, position⟩
    else .ok ⟨[], ⟨.ofOpening header, position, outline.nodes⟩ :: outline.blocks⟩
  | .continuation branch position =>
    match outline.blocks with
    | [] => .error ⟨.strayContinuation delimiters.continuing, position⟩
    | block :: around =>
      match block.part.continued outline.nodes.reverse branch with
      | .ok part => .ok ⟨[], { block with part } :: around⟩
      | .error fault => .error ⟨fault, position⟩
  | .closing position =>
    match outline.blocks with
    | [] => .error ⟨.strayEnd, position⟩
    | block :: around =>
      .ok ⟨block.part.close outline.nodes.reverse :: block.before, around⟩

/-- Take one chunk in. -/
def step (delimiters : Delimiters) (outline : Outline) : Chunk → Except SyntaxError Outline
  | .text content => .ok (outline.push (.literal (String.ofList content)))
  | .tag content position => do
    let tag ← Tag.parse delimiters content position
    outline.applyTag delimiters tag

/-- The document of an outline in which no block is open. -/
def finish (delimiters : Delimiters) (outline : Outline) : Except SyntaxError Document :=
  match outline.blocks with
  | [] => .ok ⟨outline.nodes.reverse⟩
  | block :: _ =>
    .error ⟨.unterminatedBlock block.part.kind delimiters.opening delimiters.closing,
      block.position⟩

end Outline

/-- The document of a template. -/
def Document.parse (delimiters : Delimiters) (source : String) : Except SyntaxError Document := do
  let chunks ← Chunk.split delimiters source
  let outline ← chunks.foldlM (Outline.step delimiters) Outline.start
  outline.finish delimiters

end Stencil
