import Stencil.Proofs.Outline.Grammar
import Stencil.Proofs.Outcome

/-!
# Outlines follow the grammar

An outline takes in the pieces of a template one by one. The pieces of a body that does not nest too
deep put its nodes into the outline and leave the blocks around it as they were. And whatever pieces
an outline has taken in, they derive from the grammar as far as they go. The main statement puts
both together: the templates that are accepted are those whose pieces have a derivation, and the
document is made of the nodes of that derivation.
-/

namespace Stencil

/-- The piece of a chunk. -/
def Chunk.piece (delimiters : Delimiters) : Chunk → Except SyntaxError Piece
  | .text content => .ok (.text (String.ofList content))
  | .tag content position => do
    let tag ← Tag.parse delimiters content position
    .ok (.tag tag)

namespace Outline

variable {delimiters : Delimiters}

/-- Take one piece in. -/
def take (delimiters : Delimiters) (outline : Outline) : Piece → Except SyntaxError Outline
  | .text content => .ok (outline.push (.literal content))
  | .tag tag => outline.applyTag delimiters tag

/-- Take pieces in one by one. -/
def takeAll (delimiters : Delimiters) (outline : Outline) (pieces : List Piece) :
    Except SyntaxError Outline :=
  pieces.foldlM (take delimiters) outline

/-- Add nodes in order to the innermost body. -/
def pushAll (outline : Outline) (nodes : List Node) : Outline :=
  ⟨nodes.reverse ++ outline.nodes, outline.blocks⟩

/-- A chunk is taken in as its piece. -/
theorem step_eq_ok_iff {outline next : Outline} {chunk : Chunk} :
    outline.step delimiters chunk = .ok next ↔
      ∃ piece, chunk.piece delimiters = .ok piece ∧ outline.take delimiters piece = .ok next := by
  cases chunk with
  | text content =>
    constructor
    · exact fun taken => ⟨_, rfl, taken⟩
    · rintro ⟨_, ⟨⟩, taken⟩
      exact taken
  | tag content position =>
    rw [step, bind_eq_ok_iff, Chunk.piece]
    constructor
    · rintro ⟨tag, classified, taken⟩
      exact ⟨.tag tag, bind_eq_ok_iff.mpr ⟨tag, classified, rfl⟩, taken⟩
    · rintro ⟨piece, classified, taken⟩
      obtain ⟨tag, known, ⟨⟩⟩ := bind_eq_ok_iff.mp classified
      exact ⟨tag, known, taken⟩

/-- Chunks are taken in as their pieces. -/
theorem foldlM_step_eq_ok_iff {outline final : Outline} {chunks : List Chunk} :
    chunks.foldlM (step delimiters) outline = .ok final ↔
      ∃ pieces, chunks.mapM (Chunk.piece delimiters) = .ok pieces ∧
        outline.takeAll delimiters pieces = .ok final := by
  induction chunks generalizing outline with
  | nil =>
    constructor
    · exact fun taken => ⟨[], rfl, taken⟩
    · rintro ⟨_, ⟨⟩, taken⟩
      exact taken
  | cons chunk chunks ih =>
    rw [List.foldlM_cons, bind_eq_ok_iff, List.mapM_cons]
    constructor
    · rintro ⟨next, stepped, others⟩
      obtain ⟨piece, classified, taken⟩ := step_eq_ok_iff.mp stepped
      obtain ⟨pieces, mapped, takenAll⟩ := ih.mp others
      refine ⟨piece :: pieces, ?_, bind_eq_ok_iff.mpr ⟨next, taken, takenAll⟩⟩
      rw [classified, mapped]
      rfl
    · rintro ⟨whole, mapped, takenAll⟩
      obtain ⟨piece, classified, others⟩ := bind_eq_ok_iff.mp mapped
      obtain ⟨pieces, later, ⟨⟩⟩ := bind_eq_ok_iff.mp others
      obtain ⟨next, taken, rest⟩ := bind_eq_ok_iff.mp takenAll
      exact ⟨next, step_eq_ok_iff.mpr ⟨piece, classified, taken⟩, ih.mpr ⟨pieces, later, rest⟩⟩

/-- Taking in a first piece and then the others. -/
theorem takeAll_cons {outline next : Outline} {piece : Piece} (rest : List Piece)
    (taken : outline.take delimiters piece = .ok next) :
    outline.takeAll delimiters (piece :: rest) = next.takeAll delimiters rest := by
  rw [takeAll, List.foldlM_cons, taken]
  rfl

/-- A block is opened where not too many are open. -/
theorem take_opening (outline : Outline) (header : Opening) (position : Position)
    (shallow : outline.blocks.length < maxBlockDepth) :
    outline.take delimiters (.tag (.opening header position)) =
      .ok ⟨[], ⟨.ofOpening header, position, outline.nodes⟩ :: outline.blocks⟩ :=
  if_neg (Nat.not_le.mpr shallow)

/-- A further branch continues the innermost block. -/
theorem take_continuation {nodes before : List Node} {part next : OpenPart}
    {opened : Position} {around : List OpenBlock} {branch : Branch} (position : Position)
    (continued : part.continued nodes.reverse branch = .ok next) :
    (⟨nodes, ⟨part, opened, before⟩ :: around⟩ : Outline).take delimiters
      (.tag (.continuation branch position)) = .ok ⟨[], ⟨next, opened, before⟩ :: around⟩ := by
  simp only [take, applyTag, continued]

/-- The end of a block closes the innermost one. -/
theorem take_closing (nodes before : List Node) (part : OpenPart) (opened position : Position)
    (around : List OpenBlock) :
    (⟨nodes, ⟨part, opened, before⟩ :: around⟩ : Outline).take delimiters
      (.tag (.closing position)) = .ok ⟨part.close nodes.reverse :: before, around⟩ := rfl

/-- Adding nodes is adding some of them and then the others. -/
theorem pushAll_append (outline : Outline) (first second : List Node) :
    outline.pushAll (first ++ second) = (outline.pushAll first).pushAll second := by
  simp [pushAll, List.reverse_append, List.append_assoc]

/-- The nodes of a body that has just been opened. -/
theorem pushAll_nil (nodes : List Node) (blocks : List OpenBlock) :
    pushAll ⟨[], blocks⟩ nodes = ⟨nodes.reverse, blocks⟩ := by
  rw [pushAll, List.append_nil]

/-! ## Derivations are taken in -/

mutual

/-- The pieces of a part add its nodes. -/
theorem takeAll_fragment (part : Fragment) (outline : Outline) (rest : List Piece)
    (shallow : outline.blocks.length + part.nesting ≤ maxBlockDepth) :
    outline.takeAll delimiters (part.pieces ++ rest) =
      (outline.pushAll part.nodes).takeAll delimiters rest := by
  match part with
  | .text content => exact takeAll_cons rest rfl
  | .comment => exact takeAll_cons rest rfl
  | .output expression => exact takeAll_cons rest rfl
  | .conditional condition position body next =>
    rw [Fragment.nesting] at shallow
    rw [Fragment.pieces, List.cons_append, List.append_assoc,
      takeAll_cons _ (take_opening outline _ position (by omega)),
      takeAll_body body _ _ (by simp only [List.length_cons]; omega), pushAll_nil]
    refine (takeAll_branches next _ [] condition _ _ _ rest (by omega)).trans ?_
    rw [List.reverse_reverse]
    rfl
  | .loop key value source position body next =>
    rw [Fragment.nesting] at shallow
    rw [Fragment.pieces, List.cons_append, List.append_assoc,
      takeAll_cons _ (take_opening outline _ position (by omega)),
      takeAll_body body _ _ (by simp only [List.length_cons]; omega), pushAll_nil]
    refine (takeAll_emptyBranch next _ _ key value source _ _ rest (by omega)).trans ?_
    rw [List.reverse_reverse]
    rfl
  | .binding name value position body closing =>
    rw [Fragment.nesting] at shallow
    rw [Fragment.pieces, List.cons_append, List.append_assoc,
      takeAll_cons _ (take_opening outline _ position (by omega)),
      takeAll_body body _ _ (by simp only [List.length_cons]; omega), pushAll_nil]
    refine (takeAll_cons rest (take_closing _ _ _ _ closing _)).trans ?_
    rw [List.reverse_reverse]
    rfl

/-- The pieces behind a branch of a conditional complete its node. -/
theorem takeAll_branches (next : Branches) (nodes : List Node)
    (earlier : List (Expr × List Node)) (condition : Expr) (opened : Position)
    (before : List Node) (around : List OpenBlock) (rest : List Piece)
    (shallow : around.length + 1 + next.nesting ≤ maxBlockDepth) :
    (⟨nodes, ⟨.branch earlier condition, opened, before⟩ :: around⟩ : Outline).takeAll delimiters
        (next.pieces ++ rest) =
      (⟨.conditional (earlier ++ (condition, nodes.reverse) :: next.branches) next.otherwise ::
        before, around⟩ : Outline).takeAll delimiters rest := by
  match next with
  | .done closing => exact takeAll_cons rest (take_closing _ _ _ _ closing _)
  | .last mark position body closing =>
    rw [Branches.nesting] at shallow
    have continued : OpenPart.continued nodes.reverse (.branch earlier condition) mark.branch =
        .ok (.otherwise (earlier ++ [(condition, nodes.reverse)])) := by cases mark <;> rfl
    rw [Branches.pieces, List.cons_append, List.append_assoc,
      takeAll_cons _ (take_continuation position continued),
      takeAll_body body _ _ (by simp only [List.length_cons]; omega), pushAll_nil]
    refine (takeAll_cons rest (take_closing _ _ _ _ closing _)).trans ?_
    rw [List.reverse_reverse]
    rfl
  | .elif further position body next =>
    rw [Branches.nesting] at shallow
    have continued : OpenPart.continued nodes.reverse (.branch earlier condition) (.elif further) =
        .ok (.branch (earlier ++ [(condition, nodes.reverse)]) further) := rfl
    rw [Branches.pieces, List.cons_append, List.append_assoc,
      takeAll_cons _ (take_continuation position continued),
      takeAll_body body _ _ (by simp only [List.length_cons]; omega), pushAll_nil]
    refine (takeAll_branches next _ _ further _ _ _ rest (by omega)).trans ?_
    rw [List.reverse_reverse, List.append_assoc]
    rfl

/-- The pieces behind the body of a loop complete its node. -/
theorem takeAll_emptyBranch (next : EmptyBranch) (nodes : List Node) (opened : Position)
    (key : Option String) (value : String) (source : Expr) (before : List Node)
    (around : List OpenBlock) (rest : List Piece)
    (shallow : around.length + 1 + next.nesting ≤ maxBlockDepth) :
    (⟨nodes, ⟨.loop key value source, opened, before⟩ :: around⟩ : Outline).takeAll delimiters
        (next.pieces ++ rest) =
      (⟨.loop key value source nodes.reverse next.nodes :: before, around⟩ : Outline).takeAll
        delimiters rest := by
  match next with
  | .done closing => exact takeAll_cons rest (take_closing _ _ _ _ closing _)
  | .last mark position body closing =>
    rw [EmptyBranch.nesting] at shallow
    have continued : OpenPart.continued nodes.reverse (.loop key value source) mark.branch =
        .ok (.empty key value source nodes.reverse) := by cases mark <;> rfl
    rw [EmptyBranch.pieces, List.cons_append, List.append_assoc,
      takeAll_cons _ (take_continuation position continued),
      takeAll_body body _ _ (by simp only [List.length_cons]; omega), pushAll_nil]
    refine (takeAll_cons rest (take_closing _ _ _ _ closing _)).trans ?_
    rw [List.reverse_reverse]
    rfl

/-- The pieces of a body add its nodes. -/
theorem takeAll_body (body : List Fragment) (outline : Outline) (rest : List Piece)
    (shallow : outline.blocks.length + bodyNesting body ≤ maxBlockDepth) :
    outline.takeAll delimiters (bodyPieces body ++ rest) =
      (outline.pushAll (bodyNodes body)).takeAll delimiters rest := by
  match body with
  | [] => rfl
  | first :: others =>
    rw [bodyNesting] at shallow
    rw [bodyPieces, List.append_assoc, takeAll_fragment first outline _ (by omega),
      takeAll_body others _ rest (by simp only [pushAll]; omega), bodyNodes, pushAll_append]

end

end Outline

/-! ## What has been taken in has a derivation -/

/-- The pieces of an open block up to the body that is being read, when so many blocks are open. -/
inductive OpenPart.Derives (depth : Nat) : OpenPart → List Piece → Prop
  /-- The header of a conditional. -/
  | conditional (condition : Expr) (position : Position) :
    Derives depth (.branch [] condition) [.tag (.opening (.conditional condition) position)]
  /-- A further branch of a conditional. -/
  | elif {earlier : List (Expr × List Node)} {condition : Expr} {pieces : List Piece}
    (started : Derives depth (.branch earlier condition) pieces) (body : List Fragment)
    (shallow : depth + bodyNesting body ≤ maxBlockDepth) (next : Expr) (position : Position) :
    Derives depth (.branch (earlier ++ [(condition, bodyNodes body)]) next)
      (pieces ++ (bodyPieces body ++ [.tag (.continuation (.elif next) position)]))
  /-- The last branch of a conditional. -/
  | otherwise {earlier : List (Expr × List Node)} {condition : Expr} {pieces : List Piece}
    (started : Derives depth (.branch earlier condition) pieces) (body : List Fragment)
    (shallow : depth + bodyNesting body ≤ maxBlockDepth) (mark : LastMark) (position : Position) :
    Derives depth (.otherwise (earlier ++ [(condition, bodyNodes body)]))
      (pieces ++ (bodyPieces body ++ [.tag (.continuation mark.branch position)]))
  /-- The header of a loop. -/
  | loop (key : Option String) (value : String) (source : Expr) (position : Position) :
    Derives depth (.loop key value source) [.tag (.opening (.loop key value source) position)]
  /-- The last branch of a loop. -/
  | empty (key : Option String) (value : String) (source : Expr) (opened : Position)
    (body : List Fragment) (shallow : depth + bodyNesting body ≤ maxBlockDepth)
    (mark : EmptyMark) (position : Position) :
    Derives depth (.empty key value source (bodyNodes body))
      (.tag (.opening (.loop key value source) opened) ::
        (bodyPieces body ++ [.tag (.continuation mark.branch position)]))
  /-- The header of a binding. -/
  | binding (name : String) (value : Expr) (position : Position) :
    Derives depth (.binding name value) [.tag (.opening (.binding name value) position)]

/-- The pieces an outline has taken in. -/
inductive Outline.Derives : Outline → List Piece → Prop
  /-- Outside of all blocks, the pieces of a body. -/
  | outside (body : List Fragment) (shallow : bodyNesting body ≤ maxBlockDepth) :
    Derives ⟨(bodyNodes body).reverse, []⟩ (bodyPieces body)
  /-- Inside a block, the pieces before the block, those of its part and those of a body. -/
  | inside {before : List Node} {blocks : List OpenBlock} {earlier pieces : List Piece}
    {part : OpenPart} (around : Derives ⟨before, blocks⟩ earlier) (opened : Position)
    (started : part.Derives (blocks.length + 1) pieces) (body : List Fragment)
    (shallow : blocks.length + 1 + bodyNesting body ≤ maxBlockDepth) :
    Derives ⟨(bodyNodes body).reverse, ⟨part, opened, before⟩ :: blocks⟩
      (earlier ++ (pieces ++ bodyPieces body))

/-- A block that has just been opened has only its header. -/
theorem OpenPart.derives_ofOpening (depth : Nat) (header : Opening) (position : Position) :
    (ofOpening header).Derives depth [.tag (.opening header position)] := by
  cases header with
  | conditional condition => exact .conditional condition position
  | loop key value source => exact .loop key value source position
  | binding name value => exact .binding name value position

/-- A conditional is complete with a body for its open branch and what follows that. -/
theorem OpenPart.Derives.branches {depth : Nat} {earlier : List (Expr × List Node)}
    {condition : Expr} {pieces : List Piece}
    (started : Derives depth (.branch earlier condition) pieces) (body : List Fragment)
    (shallow : depth + bodyNesting body ≤ maxBlockDepth) (next : Branches)
    (deeper : depth + next.nesting ≤ maxBlockDepth) :
    ∃ part : Fragment, part.pieces = pieces ++ (bodyPieces body ++ next.pieces) ∧
      part.nodes = [.conditional (earlier ++ (condition, bodyNodes body) :: next.branches)
        next.otherwise] ∧ depth + part.nesting ≤ maxBlockDepth + 1 := by
  -- Each earlier branch is moved to the front of `next`, until the header of the block is left.
  generalize same : OpenPart.branch earlier condition = whole at started
  induction started generalizing earlier condition body next with
  | conditional first position =>
    cases same
    refine ⟨.conditional first position body next, rfl, rfl, ?_⟩
    rw [Fragment.nesting]
    omega
  | elif started inner inside further position ih =>
    cases same
    obtain ⟨part, written, made, nested⟩ := ih inner inside (.elif further position body next)
      (by rw [Branches.nesting]; omega) rfl
    refine ⟨part, ?_, ?_, nested⟩
    · rw [written, Branches.pieces]
      simp only [List.append_assoc, List.cons_append, List.nil_append]
    · rw [made, Branches.branches, Branches.otherwise]
      simp only [List.append_assoc, List.cons_append, List.nil_append]
  | otherwise | loop | empty | binding => cases same

/-- A block is complete with a body for its open part and its end. -/
theorem OpenPart.Derives.close {depth : Nat} {part : OpenPart} {pieces : List Piece}
    (started : part.Derives depth pieces) (body : List Fragment)
    (shallow : depth + bodyNesting body ≤ maxBlockDepth) (closing : Position) :
    ∃ block : Fragment, block.pieces = pieces ++ (bodyPieces body ++ [.tag (.closing closing)]) ∧
      block.nodes = [part.close (bodyNodes body)] ∧ depth + block.nesting ≤ maxBlockDepth + 1 := by
  have done : depth + (Branches.done closing).nesting ≤ maxBlockDepth := by
    rw [Branches.nesting]
    omega
  cases part with
  | branch earlier condition => exact started.branches body shallow (.done closing) done
  | otherwise branches =>
    cases started with
    | otherwise started inner inside mark position =>
      obtain ⟨block, written, made, nested⟩ :=
        started.branches inner inside (.last mark position body closing) shallow
      refine ⟨block, ?_, made, nested⟩
      rw [written, Branches.pieces]
      simp only [List.append_assoc, List.cons_append, List.nil_append]
  | loop key value source =>
    cases started with
    | loop _ _ _ position =>
      refine ⟨.loop key value source position body (.done closing), rfl, rfl, ?_⟩
      rw [Fragment.nesting, EmptyBranch.nesting]
      omega
  | empty key value source nodes =>
    cases started with
    | empty _ _ _ opened inner inside mark position =>
      refine ⟨.loop key value source opened inner (.last mark position body closing), ?_, rfl, ?_⟩
      · simp only [Fragment.pieces, EmptyBranch.pieces, List.append_assoc, List.cons_append,
          List.nil_append]
      · rw [Fragment.nesting, EmptyBranch.nesting]
        omega
  | binding name value =>
    cases started with
    | binding _ _ position =>
      refine ⟨.binding name value position body closing, rfl, rfl, ?_⟩
      rw [Fragment.nesting]
      omega

/-- A block goes on with a further branch behind a body for its open part. -/
theorem OpenPart.Derives.continued {depth : Nat} {part next : OpenPart} {pieces : List Piece}
    (started : part.Derives depth pieces) (body : List Fragment)
    (shallow : depth + bodyNesting body ≤ maxBlockDepth) {branch : Branch} (position : Position)
    (continues : part.continued (bodyNodes body) branch = .ok next) :
    next.Derives depth
      (pieces ++ (bodyPieces body ++ [.tag (.continuation branch position)])) := by
  cases part with
  | branch earlier condition =>
    cases branch with
    | bare => cases continues; exact started.otherwise body shallow .bare position
    | otherwise => cases continues; exact started.otherwise body shallow .otherwise position
    | elif further => cases continues; exact started.elif body shallow further position
    | empty => cases continues
  | loop key value source =>
    cases started with
    | loop _ _ _ opened =>
      cases branch with
      | bare => cases continues; exact .empty key value source opened body shallow .bare position
      | otherwise =>
        cases continues
        exact .empty key value source opened body shallow .otherwise position
      | elif further => cases continues
      | empty => cases continues; exact .empty key value source opened body shallow .empty position
  | otherwise | empty | binding => cases branch <;> cases continues

namespace Outline

variable {delimiters : Delimiters} {outline next : Outline} {pieces : List Piece}

/-- A complete part may follow what has been taken in. -/
theorem Derives.fragment (derives : outline.Derives pieces) (part : Fragment)
    (shallow : outline.blocks.length + part.nesting ≤ maxBlockDepth) :
    (outline.pushAll part.nodes).Derives (pieces ++ part.pieces) := by
  have nodes (body : List Fragment) :
      part.nodes.reverse ++ (bodyNodes body).reverse = (bodyNodes (body ++ [part])).reverse := by
    simp [bodyNodes_append, bodyNodes]
  have written (body : List Fragment) :
      bodyPieces body ++ part.pieces = bodyPieces (body ++ [part]) := by
    simp [bodyPieces_append, bodyPieces]
  have nested (body : List Fragment) :
      bodyNesting (body ++ [part]) = max (bodyNesting body) part.nesting := by
    simp [bodyNesting_append, bodyNesting]
  cases derives with
  | outside body inside =>
    rw [pushAll, nodes, written]
    refine .outside _ ?_
    simp only [List.length_nil] at shallow
    rw [nested]
    omega
  | inside around opened started body inside =>
    rw [pushAll, nodes, List.append_assoc, List.append_assoc, written]
    refine .inside around opened started _ ?_
    simp only [List.length_cons] at shallow
    rw [nested]
    omega

/-- One more piece is one more step of the derivation. -/
theorem Derives.take (derives : outline.Derives pieces) {piece : Piece}
    (taken : outline.take delimiters piece = .ok next) : next.Derives (pieces ++ [piece]) := by
  have shallow : outline.blocks.length ≤ maxBlockDepth := by
    cases derives with
    | outside => exact Nat.zero_le _
    | inside around opened started body inside =>
      simp only [List.length_cons]
      omega
  cases piece with
  | text content =>
    cases taken
    exact derives.fragment (.text content) shallow
  | tag tag =>
    cases tag with
    | comment =>
      cases taken
      exact derives.fragment .comment shallow
    | output expression =>
      cases taken
      exact derives.fragment (.output expression) shallow
    | opening header position =>
      by_cases full : maxBlockDepth ≤ outline.blocks.length
      · have refused : outline.take delimiters (.tag (.opening header position)) =
            .error ⟨.blocksTooDeep, position⟩ := if_pos full
        rw [refused] at taken
        cases taken
      · rw [take_opening outline header position (Nat.not_le.mp full)] at taken
        cases taken
        have room : outline.blocks.length + 1 + bodyNesting [] ≤ maxBlockDepth := by
          rw [bodyNesting]
          omega
        exact .inside derives position (OpenPart.derives_ofOpening _ header position) [] room
    | continuation branch position =>
      cases derives with
      | outside => cases taken
      | @inside before blocks earlier written part around opened started body inside =>
        cases continues : part.continued (bodyNodes body) branch with
        | error fault =>
          simp only [Outline.take, applyTag, List.reverse_reverse, continues] at taken
          cases taken
        | ok further =>
          rw [take_continuation position (by rw [List.reverse_reverse]; exact continues)] at taken
          cases taken
          have empty : blocks.length + 1 + bodyNesting [] ≤ maxBlockDepth := by
            rw [bodyNesting]
            omega
          have whole := Derives.inside around opened
            (started.continued body inside position continues) [] empty
          simpa [bodyPieces, bodyNodes] using whole
    | closing position =>
      cases derives with
      | outside => cases taken
      | @inside before blocks earlier written part around opened started body inside =>
        obtain ⟨block, pieces, nodes, nested⟩ := started.close body inside position
        rw [take_closing, List.reverse_reverse] at taken
        cases taken
        have room : blocks.length + block.nesting ≤ maxBlockDepth := by omega
        have whole := around.fragment block room
        rw [pieces, nodes] at whole
        simpa [pushAll] using whole

/-- Whatever pieces have been taken in, they have a derivation. -/
theorem Derives.takeAll (derives : outline.Derives pieces) {others : List Piece}
    (taken : outline.takeAll delimiters others = .ok next) : next.Derives (pieces ++ others) := by
  induction others generalizing outline pieces with
  | nil =>
    cases taken
    rw [List.append_nil]
    exact derives
  | cons piece others ih =>
    obtain ⟨middle, first, rest⟩ := bind_eq_ok_iff.mp taken
    have whole := ih (derives.take first) rest
    rwa [List.append_assoc] at whole

/-- The pieces that make a whole document are those of a body, and the document has its nodes. -/
theorem takeAll_finish_eq_ok_iff {document : Document} :
    (start.takeAll delimiters pieces >>= finish delimiters) = .ok document ↔
      ∃ body, bodyPieces body = pieces ∧ bodyNesting body ≤ maxBlockDepth ∧
        document = ⟨bodyNodes body⟩ := by
  constructor
  · intro accepted
    obtain ⟨final, taken, finished⟩ := bind_eq_ok_iff.mp accepted
    have empty : bodyNesting [] ≤ maxBlockDepth := Nat.zero_le _
    have derives := (Derives.outside [] empty).takeAll taken
    rw [bodyPieces, List.nil_append] at derives
    cases derives with
    | outside body shallow =>
      cases finished
      exact ⟨body, rfl, shallow, by rw [List.reverse_reverse]⟩
    | inside around opened started body shallow => cases finished
  · rintro ⟨body, rfl, shallow, rfl⟩
    have room : start.blocks.length + bodyNesting body ≤ maxBlockDepth := by
      simpa [start] using shallow
    have taken := @takeAll_body delimiters body start [] room
    rw [List.append_nil] at taken
    rw [taken]
    change finish delimiters (start.pushAll (bodyNodes body)) = _
    simp [finish, pushAll, start]

end Outline

/-- A document is made of the nodes of a body whose pieces are those of the template. -/
theorem Document.parse_eq_ok_iff {delimiters : Delimiters} {source : String}
    {document : Document} : Document.parse delimiters source = .ok document ↔
      ∃ chunks pieces body, Chunk.split delimiters source = .ok chunks ∧
        chunks.mapM (Chunk.piece delimiters) = .ok pieces ∧ bodyPieces body = pieces ∧
          bodyNesting body ≤ maxBlockDepth ∧ document = ⟨bodyNodes body⟩ := by
  rw [Document.parse, bind_eq_ok_iff]
  constructor
  · rintro ⟨chunks, cut, accepted⟩
    obtain ⟨final, stepped, finished⟩ := bind_eq_ok_iff.mp accepted
    obtain ⟨pieces, classified, taken⟩ := Outline.foldlM_step_eq_ok_iff.mp stepped
    obtain ⟨body, written, shallow, made⟩ := Outline.takeAll_finish_eq_ok_iff.mp
      (bind_eq_ok_iff.mpr ⟨final, taken, finished⟩)
    exact ⟨chunks, pieces, body, cut, classified, written, shallow, made⟩
  · rintro ⟨chunks, pieces, body, cut, classified, written, shallow, made⟩
    obtain ⟨final, taken, finished⟩ := bind_eq_ok_iff.mp
      (@Outline.takeAll_finish_eq_ok_iff delimiters pieces document |>.mpr
        ⟨body, written, shallow, made⟩)
    have stepped := Outline.foldlM_step_eq_ok_iff.mpr ⟨pieces, classified, taken⟩
    exact ⟨chunks, cut, bind_eq_ok_iff.mpr ⟨final, stepped, finished⟩⟩

/-- A template is accepted exactly when it is cut into chunks, every tag can be read, and the texts
and tags derive from the block grammar with no more blocks open at once than the limit; the document
has the nodes of the derivation. There is at most one derivation, and its nodes say everything its
pieces say, in their order. -/
theorem Document.parse_iff_derivation :
    (∀ delimiters source document, Document.parse delimiters source = .ok document ↔
      ∃ chunks pieces body, Chunk.split delimiters source = .ok chunks ∧
        chunks.mapM (Chunk.piece delimiters) = .ok pieces ∧ bodyPieces body = pieces ∧
          bodyNesting body ≤ maxBlockDepth ∧ document = ⟨bodyNodes body⟩) ∧
      Function.Injective bodyPieces ∧
        ∀ body, nodeContents (bodyNodes body) = (bodyPieces body).flatMap Piece.contents :=
  ⟨fun _ _ _ => Document.parse_eq_ok_iff, bodyPieces_injective, nodeContents_bodyNodes⟩

end Stencil
