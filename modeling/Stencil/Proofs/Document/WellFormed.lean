import Stencil.Proofs.Document.Chunks
import Stencil.Proofs.Evaluation.FreeNames
import Stencil.Proofs.Expr.WellFormed
import Stencil.Proofs.Outline.Progress

/-!
# Well-formed documents

In a well-formed document every expression is well formed, every name that a block binds is a word
that is no keyword, every conditional has a branch, and no literal text is empty, at every depth.
Every tag says something well formed, and an outline stays well formed with every chunk it takes in.
The main statement is that a template is parsed into nothing else.
-/

namespace Stencil

/-- Whether what a loop or a binding binds are words that are no keywords; a binding has no key. -/
def areNames (key : Option String) (value : String) : Bool :=
  key.all Token.isName && Token.isName value

namespace Node

mutual

/-- Whether a node is well formed at every depth. -/
def isWellFormed : Node → Bool
  | literal text => text ≠ ""
  | output expression => expression.isWellFormed
  | conditional branches otherwise =>
    !branches.isEmpty && branchesWellFormed branches && allWellFormed otherwise
  | loop key value source body empty =>
    areNames key value && source.isWellFormed && allWellFormed body && allWellFormed empty
  | binding name value body => areNames none name && value.isWellFormed && allWellFormed body

/-- Whether the conditions and the bodies of branches are well formed. -/
def branchesWellFormed : List (Expr × List Node) → Bool
  | [] => true
  | (condition, body) :: rest =>
    condition.isWellFormed && allWellFormed body && branchesWellFormed rest

/-- Whether nodes in a row are well formed. -/
def allWellFormed : List Node → Bool
  | [] => true
  | node :: rest => node.isWellFormed && allWellFormed rest

end

/-- Nodes in a row are well formed one by one. -/
theorem allWellFormed_iff {nodes : List Node} :
    allWellFormed nodes = true ↔ ∀ node ∈ nodes, node.isWellFormed = true := by
  induction nodes with
  | nil => simp [allWellFormed]
  | cons node rest ih => simp [allWellFormed, ih]

/-- Branches are well formed in two parts of a row. -/
theorem branchesWellFormed_append (earlier later : List (Expr × List Node)) :
    branchesWellFormed (earlier ++ later) =
      (branchesWellFormed earlier && branchesWellFormed later) := by
  induction earlier with
  | nil => rfl
  | cons branch rest ih =>
    rw [List.cons_append, branchesWellFormed, branchesWellFormed, ih, Bool.and_assoc,
      Bool.and_assoc, Bool.and_assoc]

end Node

/-- Whether a document is well formed. -/
def Document.isWellFormed (document : Document) : Bool := Node.allWellFormed document.nodes

/-! ## Tags -/

/-- Whether the header of a block is well formed. -/
def Opening.isWellFormed : Opening → Bool
  | .conditional condition => condition.isWellFormed
  | .loop key value source => areNames key value && source.isWellFormed
  | .binding name value => areNames none name && value.isWellFormed

/-- Whether the header of a further branch is well formed. -/
def Branch.isWellFormed : Branch → Bool
  | .elif condition => condition.isWellFormed
  | .bare | .otherwise | .empty => true

namespace Tag

open TokenStream (IsProper)

variable {stream : TokenStream}

/-- Whether what a tag says is well formed. -/
def isWellFormed : Tag → Bool
  | output expression => expression.isWellFormed
  | opening header _ => header.isWellFormed
  | continuation branch _ => branch.isWellFormed
  | comment | closing _ => true

/-- An expression at the end of a tag is well formed. -/
theorem ensures_parseLast (proper : stream.IsProper false) :
    Ensures (parseLast stream) fun expression => expression.isWellFormed = true :=
  (Expr.keeps_parse stream proper).bind fun _ ⟨wellFormed, _⟩ =>
    .always fun _ => .ok wellFormed

/-- A branch is well formed. -/
theorem ensures_parseBranch (proper : stream.IsProper false) :
    Ensures (parseBranch stream) fun branch => branch.isWellFormed = true := by
  unfold parseBranch
  split
  case h_1 | h_2 => exact .always fun rest => .always fun _ => .ok rfl
  case h_3 here =>
    refine (proper.pass here nofun).bind fun rest others => ?_
    exact (ensures_parseLast others).bind fun condition wellFormed => .ok wellFormed
  case h_4 => exact .error _

/-- The header of a loop is well formed. -/
theorem ensures_parseLoop (proper : stream.IsProper false)
    (here : stream.peek = .keyword .forWord) :
    Ensures (parseLoop stream) fun header => header.isWellFormed = true := by
  refine (proper.pass here nofun).bind fun rest others => ?_
  refine (others.expectName _).bind fun ⟨first, rest⟩ ⟨isName, others⟩ => ?_
  dsimp only at isName others ⊢
  split
  case isTrue comma =>
    refine (others.pass comma nofun).bind fun rest others => ?_
    refine (others.expectName _).bind fun ⟨second, rest⟩ ⟨alsoName, others⟩ => ?_
    refine (others.expect (by decide)).bind fun rest others => ?_
    refine (ensures_parseLast others).bind fun source wellFormed => .ok ?_
    rw [Opening.isWellFormed, areNames, Option.all_some, isName, alsoName, wellFormed]
    rfl
  case isFalse =>
    refine (others.expect (by decide)).bind fun rest others => ?_
    refine (ensures_parseLast others).bind fun source wellFormed => .ok ?_
    rw [Opening.isWellFormed, areNames, Option.all_none, isName, wellFormed]
    rfl

/-- The header of a binding is well formed. -/
theorem ensures_parseBinding (proper : stream.IsProper false)
    (here : stream.peek = .keyword .setWord) :
    Ensures (parseBinding stream) fun header => header.isWellFormed = true := by
  refine (proper.pass here nofun).bind fun rest others => ?_
  refine (others.expectName _).bind fun ⟨name, rest⟩ ⟨isName, others⟩ => ?_
  dsimp only at isName others ⊢
  split
  case isTrue assigns =>
    have noDot : rest.peek ≠ .symbol .dot := by
      intro dot
      rw [dot] at assigns
      cases assigns
    refine (others.pass rfl noDot).bind fun rest others => ?_
    refine (ensures_parseLast others).bind fun value wellFormed => .ok ?_
    rw [Opening.isWellFormed, areNames, Option.all_none, isName, wellFormed]
    rfl
  case isFalse => exact .error _

/-- A tag without a continuing marker in front is well formed. -/
theorem ensures_parseBody (body : List Char) (position : Position) :
    Ensures (parseBody body position) fun tag => tag.isWellFormed = true := by
  refine (TokenStream.ensures_ofText body position).bind fun stream proper => ?_
  have branches : Ensures (do
      let branch ← parseBranch stream
      .ok (.continuation branch position)) fun tag : Tag => tag.isWellFormed = true :=
    (ensures_parseBranch proper).bind fun branch wellFormed => .ok wellFormed
  split
  case h_1 here =>
    refine (proper.pass here nofun).bind fun rest others => ?_
    exact (ensures_parseLast others).bind fun condition wellFormed => .ok wellFormed
  case h_2 here =>
    exact (ensures_parseLoop proper here).bind fun header wellFormed => .ok wellFormed
  case h_3 here =>
    exact (ensures_parseBinding proper here).bind fun header wellFormed => .ok wellFormed
  case h_4 | h_5 | h_6 => exact branches
  case h_7 => exact .always fun rest => .always fun _ => .ok rfl
  case h_8 => exact (ensures_parseLast proper).bind fun expression wellFormed => .ok wellFormed

/-- What a tag says is well formed. -/
theorem ensures_parse (delimiters : Delimiters) (content : List Char) (start : Position) :
    Ensures (parse delimiters content start) fun tag => tag.isWellFormed = true := by
  simp only [parse]
  split
  · exact .error _
  · exact .ok rfl
  · split
    · split_ifs
      · exact .ok rfl
      · refine (TokenStream.ensures_ofText _ _).bind fun stream proper => ?_
        exact (ensures_parseBranch proper).bind fun branch wellFormed => .ok wellFormed
    · exact ensures_parseBody _ _

end Tag

/-! ## Outlines -/

namespace OpenPart

open Node (branchesWellFormed allWellFormed)

/-- Whether what was read of a block is well formed. -/
def isWellFormed : OpenPart → Bool
  | branch earlier condition => branchesWellFormed earlier && condition.isWellFormed
  | otherwise branches => !branches.isEmpty && branchesWellFormed branches
  | loop key value source => areNames key value && source.isWellFormed
  | empty key value source body =>
    areNames key value && source.isWellFormed && allWellFormed body
  | binding name value => areNames none name && value.isWellFormed

/-- What a well-formed header opens is well formed. -/
theorem isWellFormed_ofOpening {header : Opening} (wellFormed : header.isWellFormed = true) :
    (ofOpening header).isWellFormed = true := by
  cases header with
  | conditional | loop | binding => exact wellFormed

variable {body : List Node} {part : OpenPart}

/-- Branches with one more behind them are some. -/
theorem isEmpty_concat (earlier : List (Expr × List Node)) (last : Expr × List Node) :
    (earlier ++ [last]).isEmpty = false := by
  cases earlier <;> rfl

/-- A block that is closed behind a well-formed body is well formed. -/
theorem isWellFormed_close (wellFormed : part.isWellFormed = true)
    (inside : allWellFormed body = true) : (part.close body).isWellFormed = true := by
  cases part with
  | branch earlier condition =>
    rw [isWellFormed, Bool.and_eq_true] at wellFormed
    simp only [close, Node.isWellFormed, isEmpty_concat, Node.branchesWellFormed_append,
      branchesWellFormed, allWellFormed, wellFormed.1, wellFormed.2, inside]
    rfl
  | otherwise branches =>
    rw [close, Node.isWellFormed, inside, Bool.and_true]
    exact wellFormed
  | loop key value source =>
    rw [close, Node.isWellFormed, inside, allWellFormed, Bool.and_true, Bool.and_true]
    exact wellFormed
  | empty key value source first =>
    rw [close, Node.isWellFormed, inside, Bool.and_true]
    exact wellFormed
  | binding name value =>
    rw [close, Node.isWellFormed, inside, Bool.and_true]
    exact wellFormed

/-- A block that goes on behind a well-formed body is well formed. -/
theorem ensures_continued {branch : Branch} (wellFormed : part.isWellFormed = true)
    (inside : allWellFormed body = true) (next : branch.isWellFormed = true) :
    Ensures (part.continued body branch) fun part => part.isWellFormed = true := by
  cases part with
  | branch earlier condition =>
    rw [isWellFormed, Bool.and_eq_true] at wellFormed
    have complete : branchesWellFormed (earlier ++ [(condition, body)]) = true := by
      simp only [Node.branchesWellFormed_append, branchesWellFormed, wellFormed.1, wellFormed.2,
        inside]
      rfl
    cases branch with
    | elif condition => exact .ok (Bool.and_eq_true_iff.mpr ⟨complete, next⟩)
    | otherwise | bare =>
      refine .ok ?_
      rw [isWellFormed, isEmpty_concat, complete]
      rfl
    | empty => exact .error _
  | loop key value source =>
    have complete : (empty key value source body).isWellFormed = true := by
      rw [isWellFormed, inside, Bool.and_true]
      exact wellFormed
    cases branch with
    | elif condition => exact .error _
    | otherwise | bare | empty => exact .ok complete
  | otherwise | empty | binding =>
    cases branch with
    | elif | otherwise | bare | empty => exact .error _

end OpenPart

/-- An open block is well formed when the part that is being read is and what stands in front of the
block is. -/
structure OpenBlock.IsWellFormed (block : OpenBlock) : Prop where
  /-- What was read of the block is well formed. -/
  part : block.part.isWellFormed = true
  /-- The nodes in front of the block are well formed. -/
  before : ∀ node ∈ block.before, node.isWellFormed = true

namespace Outline

/-- An outline is well formed when the nodes of its innermost body and its open blocks are. -/
structure IsWellFormed (outline : Outline) : Prop where
  /-- The nodes of the innermost body are well formed. -/
  nodes : ∀ node ∈ outline.nodes, node.isWellFormed = true
  /-- The open blocks are well formed. -/
  blocks : ∀ block ∈ outline.blocks, block.IsWellFormed

variable {delimiters : Delimiters} {outline : Outline}

/-- The complete nodes of the innermost body, in their order, are well formed. -/
theorem IsWellFormed.reverse (wellFormed : outline.IsWellFormed) :
    Node.allWellFormed outline.nodes.reverse = true :=
  Node.allWellFormed_iff.mpr fun node member => wellFormed.nodes node (List.mem_reverse.mp member)

/-- A well-formed node may be added. -/
theorem IsWellFormed.push (wellFormed : outline.IsWellFormed) {node : Node}
    (added : node.isWellFormed = true) : (outline.push node).IsWellFormed :=
  ⟨List.forall_mem_cons.mpr ⟨added, wellFormed.nodes⟩, wellFormed.blocks⟩

/-- What a well-formed tag says keeps an outline well formed. -/
theorem IsWellFormed.applyTag (wellFormed : outline.IsWellFormed) {tag : Tag}
    (spoken : tag.isWellFormed = true) :
    Ensures (outline.applyTag delimiters tag) IsWellFormed := by
  cases tag with
  | comment => exact .ok wellFormed
  | output expression => exact .ok (wellFormed.push spoken)
  | opening header position =>
    rw [Outline.applyTag]
    split
    · exact .error _
    · refine .ok ⟨List.forall_mem_nil _, List.forall_mem_cons.mpr ⟨?_, wellFormed.blocks⟩⟩
      exact ⟨OpenPart.isWellFormed_ofOpening spoken, wellFormed.nodes⟩
  | continuation branch position =>
    have inside := wellFormed.reverse
    have blocks := wellFormed.blocks
    rw [Outline.applyTag]
    split
    case h_1 => exact .error _
    case h_2 block around stack =>
      rw [stack] at blocks
      obtain ⟨innermost, others⟩ := List.forall_mem_cons.mp blocks
      split
      case h_1 part continued =>
        have next := OpenPart.ensures_continued innermost.part inside spoken part continued
        exact .ok ⟨List.forall_mem_nil _,
          List.forall_mem_cons.mpr ⟨⟨next, innermost.before⟩, others⟩⟩
      case h_2 => exact .error _
  | closing position =>
    have inside := wellFormed.reverse
    have blocks := wellFormed.blocks
    rw [Outline.applyTag]
    split
    case h_1 => exact .error _
    case h_2 block around stack =>
      rw [stack] at blocks
      obtain ⟨innermost, others⟩ := List.forall_mem_cons.mp blocks
      have closed := OpenPart.isWellFormed_close innermost.part inside
      exact .ok ⟨List.forall_mem_cons.mpr ⟨closed, innermost.before⟩, others⟩

/-- A chunk keeps an outline well formed, unless it is an empty text. -/
theorem IsWellFormed.step (wellFormed : outline.IsWellFormed) {chunk : Chunk}
    (filled : chunk ≠ .text []) : Ensures (outline.step delimiters chunk) IsWellFormed := by
  cases chunk with
  | text content =>
    refine .ok (wellFormed.push (decide_eq_true fun none => filled ?_))
    rw [← String.toList_ofList (l := content), none]
    rfl
  | tag content position =>
    exact (Tag.ensures_parse delimiters content position).bind fun tag spoken =>
      wellFormed.applyTag spoken

/-- Chunks without an empty text among them keep an outline well formed. -/
theorem IsWellFormed.folded (wellFormed : outline.IsWellFormed) {chunks : List Chunk}
    (filled : .text [] ∉ chunks) :
    Ensures (chunks.foldlM (Outline.step delimiters) outline) IsWellFormed := by
  induction chunks generalizing outline with
  | nil => exact .ok wellFormed
  | cons chunk rest ih =>
    obtain ⟨first, others⟩ := not_or.mp (mt List.mem_cons.mpr filled)
    rw [List.foldlM_cons]
    exact (wellFormed.step (Ne.symm first)).bind fun next kept => ih kept others

end Outline

/-- A well-formed call finds an argument at each place that its function requires one, and the value
of that argument among the values it passes. -/
theorem Expr.exists_argument {builtin : Builtin} {arguments : List Expr}
    (wellFormed : (call builtin arguments).isWellFormed = true) (store : Store) {index : Nat}
    (required : index < builtin.arity.1) :
    ∃ argument, arguments[index]? = some argument ∧
      (evalAll store arguments)[index]? = some (argument.eval store) := by
  rw [isWellFormed, Builtin.accepts, Bool.and_eq_true, Bool.and_eq_true, decide_eq_true_iff]
    at wellFormed
  have present : index < arguments.length := Nat.lt_of_lt_of_le required wellFormed.1.1
  refine ⟨arguments[index], List.getElem?_eq_getElem present, ?_⟩
  rw [evalAll_eq_map, List.getElem?_map, List.getElem?_eq_getElem present, Option.map_some]

namespace Document

/-- A template is parsed into a well-formed document, whatever it is and whatever its markers are:
every call has as many arguments as its function takes, every literal is null, a truth value, a
string, an integer that is not negative or a float that is neither negative nor not a number, every
name that is looked up or bound is a word that is no keyword, every conditional has a branch, and no
literal text is empty, at every depth. So a function that is called finds the value of each argument
that it requires, in every store. -/
theorem isWellFormed_of_parse {delimiters : Delimiters} {source : String} {document : Document}
    (accepted : parse delimiters source = .ok document) :
    document.isWellFormed = true ∧
      ∀ (builtin : Builtin) (arguments : List Expr),
        (Expr.call builtin arguments).isWellFormed = true → ∀ (store : Store) (index : Nat),
          index < builtin.arity.1 → ∃ argument, arguments[index]? = some argument ∧
            (Expr.evalAll store arguments)[index]? = some (argument.eval store) := by
  refine ⟨?_, fun _ _ wellFormed store _ => Expr.exists_argument wellFormed store⟩
  obtain ⟨chunks, nodes, cut, folded, rfl⟩ := parse_eq_ok_iff_folded.mp accepted
  have pieces := Chunk.split_lossless delimiters source
  rw [cut] at pieces
  have filled : .text [] ∉ chunks := by
    intro member
    obtain ⟨before, after, parts⟩ := List.append_of_mem member
    have text := pieces.2.1 before [] after parts
    cases after with
    | nil => exact text.1 rfl
    | cons next rest =>
      cases next with
      | text => exact text
      | tag => exact text.1 rfl
  have start : Outline.start.IsWellFormed := ⟨List.forall_mem_nil _, List.forall_mem_nil _⟩
  exact (start.folded filled _ folded).reverse

/-- Keywords behind dots, a float, a call with all it requires, and every kind of block. -/
theorem isWellFormed_of_parse_sample :
    let source := "a\x7b\x7b for key, row in data.for \x7d\x7d" ++
      "\x7b\x7b replace(row.if, key, 2.5) \x7d\x7d\x7b\x7b || \x7d\x7d" ++
      "\x7b\x7b set n to -3 \x7d\x7d\x7b\x7b if n.not[0] \x7d\x7db\x7b\x7b end \x7d\x7d" ++
      "\x7b\x7b end \x7d\x7d\x7b\x7b end \x7d\x7d"
    let arguments : List Expr := [.access (.name "row") (.literal (.string "if")), .name "key",
      .literal (.float ⟨0x4004000000000000⟩)]
    ∃ document, parse .standard source = .ok document ∧ document.isWellFormed = true ∧
      (Expr.call .replace arguments).isWellFormed = true ∧ ∀ store : Store,
        ∃ argument, arguments[2]? = some argument ∧
          (Expr.evalAll store arguments)[2]? = some (argument.eval store) := by
  intro source arguments
  obtain ⟨document, accepted⟩ : ∃ document, parse .standard source = .ok document :=
    exists_eq_ok_iff.mpr (by decide +kernel)
  have called : (Expr.call .replace arguments).isWellFormed = true := by decide +kernel
  obtain ⟨wellFormed, served⟩ := isWellFormed_of_parse accepted
  exact ⟨document, accepted, wellFormed, called, fun store =>
    served .replace arguments called store 2 (by decide)⟩

end Document

end Stencil
