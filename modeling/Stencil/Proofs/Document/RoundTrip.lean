import Mathlib.Data.List.Forall2
import Stencil.Proofs.Document.Cutting
import Stencil.Proofs.Document.Tags
import Stencil.Proofs.Outline.Derivation

/-!
# Reading back a written document

A template that writes the pieces of a document is cut into these pieces, whatever places they have
in it. Pieces of nodes have a derivation with the same nodes. The main statement follows from both
and from the grammar: parsing a written document gives it back.
-/

namespace Stencil

namespace Piece

/-- A text that is not empty is found as itself. -/
theorem mapM_ofText {content : String} (nonempty : content ≠ "") {chunks : List Chunk}
    {found : List Piece} (mapped : chunks.mapM (Chunk.piece .standard) = .ok found) :
    (Chunk.ofText content.toList ++ chunks).mapM (Chunk.piece .standard) =
      .ok (.text content :: found) := by
  have filled : content.toList ≠ [] := fun empty => nonempty (String.toList_eq_nil_iff.mp empty)
  have piece : Chunk.piece .standard (.text content.toList) = .ok (.text content) := by
    rw [Chunk.piece, String.ofList_toList]
  have chunk : Chunk.ofText content.toList = [.text content.toList] := by
    cases characters : content.toList with
    | nil => exact absurd characters filled
    | cons first others => rfl
  rw [chunk, List.singleton_append, List.mapM_cons, piece, mapped]
  rfl

/-- A written tag is found at some place. -/
theorem mapM_tag {saying : Tag} {content : List Char} (readable : saying.isReadable = true)
    (writes : Token.Writes saying.tokens content) (start : Position) {chunks : List Chunk}
    {found : List Piece} (mapped : chunks.mapM (Chunk.piece .standard) = .ok found) :
    ∃ position, (Chunk.tag content start :: chunks).mapM (Chunk.piece .standard) =
      .ok (.tag (saying.moveTo position) :: found) := by
  obtain ⟨position, read⟩ := Tag.parse_writes readable writes start
  have piece : Chunk.piece .standard (.tag content start) =
      .ok (.tag (saying.moveTo position)) := bind_eq_ok_iff.mpr ⟨_, read, rfl⟩
  refine ⟨position, ?_⟩
  rw [List.mapM_cons, piece, mapped]
  rfl

/-- Pieces that are apart are found in every text that writes them. -/
theorem exists_placed (pieces : List Piece) {written : List Char} (apart : areApart pieces = true)
    (writes : Writes pieces written) (position : Position) :
    ∃ chunks found, Chunk.splitFrom .standard position written = .ok chunks ∧
      chunks.mapM (Chunk.piece .standard) = .ok found ∧ List.Forall₂ Placed pieces found := by
  match pieces with
  | [] =>
    cases writes with
    | nil => exact ⟨[], [], Chunk.splitFrom_text rfl position, rfl, .nil⟩
  | [.text content] =>
    simp only [areApart, holdsMarker, Bool.and_eq_true, bne_iff_ne, Bool.not_eq_true'] at apart
    obtain ⟨nonempty, absent⟩ := apart
    cases writes with
    | text _ others =>
      cases others with
      | nil =>
        have found := @mapM_ofText content nonempty [] [] rfl
        rw [List.append_nil] at found ⊢
        exact ⟨_, _, Chunk.splitFrom_text absent position, found, .cons rfl .nil⟩
  | .tag saying :: others =>
    simp only [areApart, Bool.and_eq_true] at apart
    obtain ⟨readable, later⟩ := apart
    cases writes with
    | tag inside behind =>
      obtain ⟨start, next, cut⟩ := @Chunk.splitFrom_tag [] _ _ rfl (by simp) inside
        (Tag.tokens_ne_nil readable) _ position
      obtain ⟨chunks, found, split, mapped, placed⟩ := exists_placed others later behind next
      obtain ⟨place, whole⟩ := mapM_tag readable inside start mapped
      rw [split] at cut
      exact ⟨_, _, cut, whole, .cons ⟨place, rfl⟩ placed⟩
  | .text content :: .tag saying :: others =>
    simp only [areApart, holdsMarker, endsInBrace, Bool.and_eq_true, bne_iff_ne,
      Bool.not_eq_true', beq_eq_false_iff_ne] at apart
    obtain ⟨⟨⟨nonempty, absent⟩, ends⟩, readable, later⟩ := apart
    cases writes with
    | text _ behind =>
      cases behind with
      | tag inside behind =>
        obtain ⟨start, next, cut⟩ := Chunk.splitFrom_tag absent ends inside
          (Tag.tokens_ne_nil readable) _ position
        obtain ⟨chunks, found, split, mapped, placed⟩ := exists_placed others later behind next
        obtain ⟨place, tag⟩ := mapM_tag readable inside start mapped
        have whole := mapM_ofText nonempty tag
        rw [split] at cut
        exact ⟨_, _, cut, whole, .cons rfl (.cons ⟨place, rfl⟩ placed)⟩
  | .text _ :: .text _ :: _ => cases apart

end Piece

/-! ## Pieces of nodes are apart -/

/-- Whether a tag stands in front of pieces. -/
def Piece.startsWithTag : List Piece → Bool
  | .tag _ :: _ => true
  | [] | .text _ :: _ => false

/-- A tag stands in front of branches and what follows them. -/
theorem startsWithTag_branchPieces {header : Expr → Tag} (branches : List (Expr × List Node))
    {after : List Piece} (tag : Piece.startsWithTag after = true) :
    Piece.startsWithTag (branchPieces header branches ++ after) = true := by
  cases branches with
  | nil => exact tag
  | cons first others => rfl

/-- A tag stands in front of the last branch and the end of a block. -/
theorem startsWithTag_last (branch : Branch) (body : List Node) (after : List Piece) :
    Piece.startsWithTag (((if body.isEmpty then [] else
      .tag (.continuation branch .origin) :: nodePieces body) ++ [.tag (.closing .origin)]) ++
        after) = true := by
  cases body <;> rfl

/-- A node that is no literal starts with a tag. -/
theorem Node.startsWithTag_pieces {node : Node} (writable : node.isWritable = true)
    (other : node.isLiteral = false) (after : List Piece) :
    Piece.startsWithTag (node.pieces ++ after) = true := by
  cases node with
  | literal text => cases other
  | output expression => rfl
  | conditional branches otherwise =>
    cases branches with
    | nil => cases writable
    | cons first others => rfl
  | loop key value source body empty => rfl
  | binding name value body => rfl

/-- A text is apart from a tag behind it. -/
theorem areApart_text {content : String} {after : List Piece}
    (writable : (Node.literal content).isWritable = true)
    (clear : Piece.endsInBrace content = false) (tag : Piece.startsWithTag after = true)
    (apart : Piece.areApart after = true) : Piece.areApart (.text content :: after) = true := by
  cases after with
  | nil => cases tag
  | cons first others =>
    cases first with
    | text other => cases tag
    | tag saying =>
      rw [Node.isWritable] at writable
      rw [Piece.areApart, writable, clear, apart]
      rfl

/-- A literal is apart from the nodes it may stand before. -/
theorem areApart_literal {content : String} {others : List Node} {final : Bool}
    {after : List Piece} (writable : (Node.literal content).isWritable = true)
    (stands : (Node.literal content).standsBefore final others = true)
    (othersWritable : nodesWritable final others = true)
    (apart : Piece.areApart (nodePieces others ++ after) = true)
    (ends : if final then after = [] else Piece.startsWithTag after = true) :
    Piece.areApart (.text content :: (nodePieces others ++ after)) = true := by
  simp only [Node.standsBefore, Bool.and_eq_true, Bool.or_eq_true, Bool.not_eq_true'] at stands
  obtain ⟨alone, clear⟩ := stands
  cases others with
  | nil =>
    cases final with
    | true =>
      obtain rfl : after = [] := ends
      exact writable
    | false =>
      have brace : Piece.endsInBrace content = false := by simpa using clear
      exact areApart_text writable brace ends apart
  | cons second more =>
    simp only [nodesWritable, Bool.and_eq_true] at othersWritable
    have brace : Piece.endsInBrace content = false := by simpa using clear
    have other : second.isLiteral = false := by simpa using alone
    refine areApart_text writable brace ?_ apart
    rw [nodePieces, List.append_assoc]
    exact second.startsWithTag_pieces othersWritable.1.1 other _

/-- The last branch and the end of a block are apart. -/
theorem areApart_last {branch : Branch} (readable : branch.isReadable = true) {body : List Node}
    {after : List Piece} (apart : Piece.areApart after = true)
    (inside : Piece.areApart (nodePieces body ++ .tag (.closing .origin) :: after) = true) :
    Piece.areApart (((if body.isEmpty then [] else
      .tag (.continuation branch .origin) :: nodePieces body) ++ [.tag (.closing .origin)]) ++
        after) = true := by
  cases body with
  | nil => exact apart
  | cons first others =>
    have header : (Tag.continuation branch .origin).isReadable = true := readable
    simp [Piece.areApart, header, inside]

mutual

/-- The pieces of a node that is no literal are apart, whatever stands apart behind them. -/
theorem Node.areApart_pieces (node : Node) (writable : node.isWritable = true)
    (other : node.isLiteral = false) {after : List Piece} (apart : Piece.areApart after = true) :
    Piece.areApart (node.pieces ++ after) = true := by
  have closed : Piece.areApart (.tag (.closing .origin) :: after) = true := apart
  match node with
  | .literal text => cases other
  | .output expression =>
    simp only [Node.isWritable] at writable
    simp [Node.pieces, Piece.areApart, Tag.isReadable, writable, apart]
  | .conditional branches otherwise =>
    simp only [Node.isWritable, Bool.and_eq_true] at writable
    have inside := areApart_nodePieces otherwise writable.2 closed rfl
    have last := @areApart_last .otherwise rfl otherwise after apart inside
    rw [Node.pieces, List.append_assoc]
    exact @areApart_branchPieces branches (fun condition =>
      .opening (.conditional condition) .origin) (fun condition readable => readable) writable.1.2
      _ last (startsWithTag_last .otherwise otherwise after)
  | .loop key value source body empty =>
    simp only [Node.isWritable, Bool.and_eq_true] at writable
    have inside := areApart_nodePieces empty writable.2 closed rfl
    have last := @areApart_last .empty rfl empty after apart inside
    have whole := areApart_nodePieces body writable.1.2 last
      (startsWithTag_last .empty empty after)
    have header : (Tag.opening (.loop key value source) .origin).isReadable = true := writable.1.1
    rw [Node.pieces, List.cons_append, List.append_assoc, Piece.areApart, header, whole]
    rfl
  | .binding name value body =>
    simp only [Node.isWritable, Bool.and_eq_true] at writable
    have inside := areApart_nodePieces body writable.2 closed rfl
    have header : (Tag.opening (.binding name value) .origin).isReadable = true := writable.1
    rw [Node.pieces, List.cons_append, List.append_assoc, Piece.areApart, header]
    exact inside

/-- The pieces of branches are apart. -/
theorem areApart_branchPieces (branches : List (Expr × List Node)) {header : Expr → Tag}
    (readable : ∀ condition : Expr, condition.isReadable = true →
      (header condition).isReadable = true)
    (writable : branchesWritable branches = true) {after : List Piece}
    (apart : Piece.areApart after = true) (tag : Piece.startsWithTag after = true) :
    Piece.areApart (branchPieces header branches ++ after) = true := by
  match branches with
  | [] => exact apart
  | (condition, body) :: others =>
    simp only [branchesWritable, Bool.and_eq_true] at writable
    have later := @areApart_branchPieces others (fun condition =>
      .continuation (.elif condition) .origin) (fun condition readable => readable) writable.2
      after apart tag
    have inside := areApart_nodePieces body writable.1.2 later
      (startsWithTag_branchPieces others tag)
    rw [branchPieces, List.cons_append, List.append_assoc, Piece.areApart,
      readable condition writable.1.1]
    exact inside

/-- The pieces of nodes in a row are apart. -/
theorem areApart_nodePieces (nodes : List Node) {final : Bool}
    (writable : nodesWritable final nodes = true) {after : List Piece}
    (apart : Piece.areApart after = true)
    (ends : if final then after = [] else Piece.startsWithTag after = true) :
    Piece.areApart (nodePieces nodes ++ after) = true := by
  match nodes with
  | [] => exact apart
  | first :: others =>
    simp only [nodesWritable, Bool.and_eq_true] at writable
    obtain ⟨⟨firstWritable, stands⟩, othersWritable⟩ := writable
    have later := areApart_nodePieces others othersWritable apart ends
    rw [nodePieces, List.append_assoc]
    match first with
    | .literal text => exact areApart_literal firstWritable stands othersWritable later ends
    | .output expression => exact Node.areApart_pieces _ firstWritable rfl later
    | .conditional branches otherwise => exact Node.areApart_pieces _ firstWritable rfl later
    | .loop key value source body empty => exact Node.areApart_pieces _ firstWritable rfl later
    | .binding name value body => exact Node.areApart_pieces _ firstWritable rfl later

end

/-! ## Pieces of nodes have a derivation -/

/-- Places are found for pieces in a row by finding them for the first and for the second. -/
theorem placed_append {first second found : List Piece}
    (placed : List.Forall₂ Piece.Placed (first ++ second) found) :
    ∃ front back, found = front ++ back ∧ List.Forall₂ Piece.Placed first front ∧
      List.Forall₂ Piece.Placed second back := by
  induction first generalizing found with
  | nil => exact ⟨[], found, rfl, .nil, placed⟩
  | cons piece first ih =>
    cases placed with
    | cons here others =>
      obtain ⟨front, back, rfl, before, behind⟩ := ih others
      exact ⟨_ :: front, back, rfl, .cons here before, behind⟩

/-- A tag is found at some place. -/
theorem placed_tag {saying : Tag} {pieces found : List Piece}
    (placed : List.Forall₂ Piece.Placed (.tag saying :: pieces) found) :
    ∃ position others, found = .tag (saying.moveTo position) :: others ∧
      List.Forall₂ Piece.Placed pieces others := by
  cases placed with
  | cons here others =>
    obtain ⟨position, rfl⟩ := here
    exact ⟨position, _, rfl, others⟩

/-- Pieces found at their places have a derivation that makes given nodes. -/
def Derivable (nodes : List Node) (found : List Piece) : Prop :=
  ∃ body, bodyPieces body = found ∧ bodyNodes body = nodes ∧ bodyNesting body = nodeNesting nodes

/-- The end of a block is found alone when the last branch is empty, and behind its body when it is
not. -/
theorem placed_last {branch : Branch} {nodes : List Node} {found : List Piece}
    (inside : ∀ {found}, List.Forall₂ Piece.Placed (nodePieces nodes) found →
      Derivable nodes found)
    (placed : List.Forall₂ Piece.Placed ((if nodes.isEmpty then [] else
      .tag (.continuation branch .origin) :: nodePieces nodes) ++ [.tag (.closing .origin)]) found) :
    ∃ closing, (nodes = [] ∧ found = [.tag (.closing closing)]) ∨
      ∃ position body, found = .tag (.continuation branch position) ::
        (bodyPieces body ++ [.tag (.closing closing)]) ∧ bodyNodes body = nodes ∧
          bodyNesting body = nodeNesting nodes := by
  obtain ⟨front, back, rfl, before, behind⟩ := placed_append placed
  obtain ⟨closing, _, rfl, ⟨⟩⟩ := placed_tag behind
  refine ⟨closing, ?_⟩
  cases nodes with
  | nil =>
    cases before
    exact Or.inl ⟨rfl, rfl⟩
  | cons first others =>
    obtain ⟨position, rest, rfl, later⟩ := placed_tag before
    obtain ⟨body, rfl, made, nested⟩ := inside later
    exact Or.inr ⟨position, body, rfl, made, nested⟩

mutual

/-- The pieces of a node, as they were found, derive from the grammar. -/
theorem Node.exists_fragment (node : Node) (writable : node.isWritable = true)
    {found : List Piece} (placed : List.Forall₂ Piece.Placed node.pieces found) :
    ∃ part : Fragment, part.pieces = found ∧ part.nodes = [node] ∧
      part.nesting = node.nesting := by
  match node with
  | .literal text =>
    cases placed with
    | cons here others =>
      cases here
      cases others
      exact ⟨.text text, rfl, rfl, rfl⟩
  | .output expression =>
    obtain ⟨position, _, rfl, ⟨⟩⟩ := placed_tag placed
    exact ⟨.output expression, rfl, rfl, rfl⟩
  | .conditional [] otherwise => cases writable
  | .conditional ((condition, body) :: others) otherwise =>
    simp only [Node.isWritable, branchesWritable, Bool.and_eq_true] at writable
    obtain ⟨⟨-, ⟨-, bodyWritable⟩, othersWritable⟩, lastWritable⟩ := writable
    obtain ⟨front, back, rfl, before, behind⟩ := placed_append placed
    obtain ⟨position, rest, rfl, inside⟩ := placed_tag before
    obtain ⟨first, further, rfl, firstPlaced, othersPlaced⟩ := placed_append inside
    obtain ⟨inner, rfl, made, nested⟩ := derivable body bodyWritable firstPlaced
    obtain ⟨last, rfl, noBranches, lastMade, lastNested⟩ : ∃ last : Branches, last.pieces = back ∧
        last.branches = [] ∧ last.otherwise = otherwise ∧
          last.nesting = nodeNesting otherwise := by
      obtain ⟨closing, ⟨rfl, rfl⟩ | ⟨place, body, rfl, made, nested⟩⟩ :=
        placed_last (derivable otherwise lastWritable) behind
      · exact ⟨.done closing, rfl, rfl, rfl, rfl⟩
      · exact ⟨.last .otherwise place body closing, rfl, rfl, made, nested⟩
    obtain ⟨next, written, branches, ending, deep⟩ :=
      exists_branches others othersWritable last noBranches othersPlaced
    refine ⟨.conditional condition position inner next, ?_, ?_, ?_⟩
    · rw [Fragment.pieces, written]
      simp only [Tag.moveTo, List.cons_append, List.append_assoc]
    · rw [Fragment.nodes, made, branches, ending, lastMade]
    · rw [Fragment.nesting, nested, deep, lastNested, Node.nesting, branchNesting, Nat.max_assoc]
  | .loop key value source body empty =>
    simp only [Node.isWritable, Bool.and_eq_true] at writable
    obtain ⟨position, rest, rfl, others⟩ := placed_tag placed
    obtain ⟨front, back, rfl, before, behind⟩ := placed_append others
    obtain ⟨inner, rfl, made, nested⟩ := derivable body writable.1.2 before
    obtain ⟨closing, ⟨rfl, rfl⟩ | ⟨place, last, rfl, lastMade, lastNested⟩⟩ :=
      placed_last (derivable empty writable.2) behind
    · refine ⟨.loop key value source position inner (.done closing), rfl, ?_, ?_⟩
      · rw [Fragment.nodes, made, EmptyBranch.nodes]
      · rw [Fragment.nesting, nested, EmptyBranch.nesting, Node.nesting, nodeNesting]
    · refine ⟨.loop key value source position inner (.last .empty place last closing), rfl, ?_, ?_⟩
      · rw [Fragment.nodes, made, EmptyBranch.nodes, lastMade]
      · rw [Fragment.nesting, nested, EmptyBranch.nesting, lastNested, Node.nesting]
  | .binding name value body =>
    simp only [Node.isWritable, Bool.and_eq_true] at writable
    obtain ⟨position, rest, rfl, others⟩ := placed_tag placed
    obtain ⟨front, back, rfl, before, behind⟩ := placed_append others
    obtain ⟨closing, _, rfl, ⟨⟩⟩ := placed_tag behind
    obtain ⟨inner, rfl, made, nested⟩ := derivable body writable.2 before
    refine ⟨.binding name value position inner closing, rfl, ?_, ?_⟩
    · rw [Fragment.nodes, made]
    · rw [Fragment.nesting, nested, Node.nesting]

/-- The pieces of further branches, as they were found, derive from the grammar in front of whatever
follows them. -/
theorem exists_branches (branches : List (Expr × List Node))
    (writable : branchesWritable branches = true) (next : Branches) (last : next.branches = [])
    {found : List Piece} (placed : List.Forall₂ Piece.Placed
      (branchPieces (fun condition => .continuation (.elif condition) .origin) branches) found) :
    ∃ all : Branches, all.pieces = found ++ next.pieces ∧ all.branches = branches ∧
      all.otherwise = next.otherwise ∧ all.nesting = max (branchNesting branches) next.nesting := by
  match branches with
  | [] =>
    cases placed
    refine ⟨next, rfl, last, rfl, ?_⟩
    rw [branchNesting, Nat.zero_max]
  | (condition, body) :: others =>
    simp only [branchesWritable, Bool.and_eq_true] at writable
    obtain ⟨position, rest, rfl, inside⟩ := placed_tag placed
    obtain ⟨front, back, rfl, before, behind⟩ := placed_append inside
    obtain ⟨inner, rfl, made, nested⟩ := derivable body writable.1.2 before
    obtain ⟨all, written, branches, ending, deep⟩ :=
      exists_branches others writable.2 next last behind
    refine ⟨.elif condition position inner all, ?_, ?_, ?_, ?_⟩
    · rw [Branches.pieces, written]
      simp only [Tag.moveTo, List.cons_append, List.append_assoc]
    · rw [Branches.branches, made, branches]
    · rw [Branches.otherwise, ending]
    · rw [Branches.nesting, nested, deep, branchNesting, Nat.max_assoc]

/-- The pieces of nodes, as they were found, derive from the grammar. -/
theorem derivable (nodes : List Node) {final : Bool} (writable : nodesWritable final nodes = true)
    {found : List Piece} (placed : List.Forall₂ Piece.Placed (nodePieces nodes) found) :
    Derivable nodes found := by
  match nodes with
  | [] =>
    cases placed
    exact ⟨[], rfl, rfl, rfl⟩
  | first :: others =>
    simp only [nodesWritable, Bool.and_eq_true] at writable
    obtain ⟨front, back, rfl, before, behind⟩ := placed_append placed
    obtain ⟨part, rfl, made, nested⟩ := first.exists_fragment writable.1.1 before
    obtain ⟨body, rfl, madeLater, nestedLater⟩ := derivable others writable.2 behind
    refine ⟨part :: body, rfl, ?_, ?_⟩
    · rw [bodyNodes, made, madeLater]
      rfl
    · rw [bodyNesting, nested, nestedLater, nodeNesting]

end

/-! ## Writing and reading a document -/

/-- The text of pieces that are apart is one that writes them. -/
theorem Piece.writes_source (pieces : List Piece) (apart : areApart pieces = true) :
    Writes pieces (pieces.flatMap source) := by
  match pieces with
  | [] => exact .nil
  | [.text content] => exact .text content .nil
  | .tag saying :: others =>
    simp only [areApart, Bool.and_eq_true] at apart
    have behind := writes_source others apart.2
    have whole := Writes.tag (Tag.writes_content apart.1) behind
    simpa only [List.flatMap_cons, source, List.cons_append, List.append_assoc,
      List.nil_append] using whole
  | .text content :: .tag saying :: others =>
    simp only [areApart, Bool.and_eq_true] at apart
    exact .text content (writes_source (.tag saying :: others) (by simp [areApart, apart.2]))
  | .text _ :: .text _ :: _ => cases apart

namespace Document

/-- The pieces of a document that can be written are apart. -/
theorem areApart_pieces {document : Document} (writable : document.isWritable = true) :
    Piece.areApart document.pieces = true := by
  rw [isWritable, Bool.and_eq_true] at writable
  have apart := @areApart_nodePieces document.nodes true writable.1 [] rfl rfl
  rwa [List.append_nil] at apart

/-- Parsing any text that writes a document gives back that document, whatever blanks stand in its
tags. Its own text, with a space between any two tokens, is one of those that write it. -/
theorem parse_written {document : Document} (writable : document.isWritable = true) :
    Piece.Writes document.pieces document.source.toList ∧
      ∀ source : String, Piece.Writes document.pieces source.toList →
        parse .standard source = .ok document := by
  have apart := areApart_pieces writable
  constructor
  · rw [source, String.toList_ofList]
    exact Piece.writes_source document.pieces apart
  · intro source writes
    rw [isWritable, Bool.and_eq_true, decide_eq_true_iff] at writable
    obtain ⟨nodesFine, shallow⟩ := writable
    obtain ⟨chunks, found, cut, classified, placed⟩ :=
      Piece.exists_placed document.pieces apart writes .origin
    obtain ⟨body, written, made, nested⟩ := derivable document.nodes nodesFine placed
    have within : bodyNesting body ≤ maxBlockDepth := nested ▸ shallow
    exact parse_eq_ok_iff.mpr ⟨chunks, found, body, cut, classified, written, within, by rw [made]⟩

/-- A document with every kind of block, a text with both markers and a final brace is read back. -/
theorem parse_written_sample :
    let first : List Node := [.output (.literal (.string "\x7d\x7d\x7b\x7b\"\\")), .literal "\x7b ",
      .conditional [(.name "a", [.literal "x"]), (.binary .add (.name "b") (.name "c"), [])]
        [.output (.unary .not (.name "d"))]]
    let second : List Node := [.loop (some "k") "v" (.array [.name "e"])
      [.binding "w" (.name "v") [.output (.name "w")]] [.literal "none"], .literal "last \x7b"]
    let document : Document := ⟨first ++ second⟩
    document.isWritable = true ∧ document.source = String.join
      ["\x7b\x7b \"\x7d\x7d\x7b\x7b\\\"\\\\\" \x7d\x7d\x7b ",
        "\x7b\x7b if a \x7d\x7dx\x7b\x7b elif b + c \x7d\x7d",
        "\x7b\x7b else \x7d\x7d\x7b\x7b not d \x7d\x7d\x7b\x7b end \x7d\x7d",
        "\x7b\x7b for k, v in [ e ] \x7d\x7d\x7b\x7b set w to v \x7d\x7d",
        "\x7b\x7b w \x7d\x7d\x7b\x7b end \x7d\x7d",
        "\x7b\x7b empty \x7d\x7dnone\x7b\x7b end \x7d\x7dlast \x7b"] ∧
      parse .standard document.source = .ok document := by
  intro first second document
  have writable : document.isWritable = true := by decide
  have written := parse_written writable
  exact ⟨writable, by decide +kernel, written.2 _ written.1⟩

end Document

end Stencil
