import Stencil.Template.Outline

/-!
# The block grammar

A template is a row of pieces: texts, and tags with what they say. The grammar of these pieces is
given by its derivation trees, whose types leave no room for a branch in the wrong place: behind the
first body of a conditional stand any number of further conditions and at most one last branch,
behind the body of a loop at most one, and behind that of a binding none. The main statement is that
a row of pieces has at most one derivation.
-/

namespace Stencil

/-- A piece of a template. -/
inductive Piece where
  /-- Text between tags. -/
  | text (content : String)
  /-- A tag with what it says. -/
  | tag (tag : Tag)
deriving Repr

/-- How the last branch of a conditional is marked. -/
inductive LastMark where
  /-- By the marker alone. -/
  | bare
  /-- By the keyword of the branch that is taken when no other one is. -/
  | otherwise
deriving DecidableEq, Repr

/-- How the last branch of a loop is marked. -/
inductive EmptyMark where
  /-- By the marker alone. -/
  | bare
  /-- By the keyword of the last branch of a conditional. -/
  | otherwise
  /-- By the keyword of the branch without entries. -/
  | empty
deriving DecidableEq, Repr

/-- The branch a mark stands for. -/
def LastMark.branch : LastMark → Branch
  | bare => .bare
  | otherwise => .otherwise

/-- The branch a mark stands for. -/
def EmptyMark.branch : EmptyMark → Branch
  | bare => .bare
  | otherwise => .otherwise
  | empty => .empty

mutual

/-- The derivation of one part of a body, with the positions of its tags. -/
inductive Fragment where
  /-- A text. -/
  | text (content : String)
  /-- A comment. -/
  | comment
  /-- An output. -/
  | output (expression : Expr)
  /-- A conditional with its first branch and what follows that. -/
  | conditional (condition : Expr) (position : Position) (body : List Fragment) (next : Branches)
  /-- A loop with its body and what follows that. -/
  | loop (key : Option String) (value : String) (source : Expr) (position : Position)
    (body : List Fragment) (next : EmptyBranch)
  /-- A binding with its body. -/
  | binding (name : String) (value : Expr) (position : Position) (body : List Fragment)
    (closing : Position)

/-- The derivation of what follows a branch of a conditional. -/
inductive Branches where
  /-- The end of the block. -/
  | done (closing : Position)
  /-- The last branch and the end of the block. -/
  | last (mark : LastMark) (position : Position) (body : List Fragment) (closing : Position)
  /-- A branch with a condition and what follows it. -/
  | elif (condition : Expr) (position : Position) (body : List Fragment) (next : Branches)

/-- The derivation of what follows the body of a loop. -/
inductive EmptyBranch where
  /-- The end of the block. -/
  | done (closing : Position)
  /-- The last branch and the end of the block. -/
  | last (mark : EmptyMark) (position : Position) (body : List Fragment) (closing : Position)

end

mutual

/-- The pieces of a part. -/
def Fragment.pieces : Fragment → List Piece
  | .text content => [.text content]
  | .comment => [.tag .comment]
  | .output expression => [.tag (.output expression)]
  | .conditional condition position body next =>
    .tag (.opening (.conditional condition) position) :: (bodyPieces body ++ next.pieces)
  | .loop key value source position body next =>
    .tag (.opening (.loop key value source) position) :: (bodyPieces body ++ next.pieces)
  | .binding name value position body closing =>
    .tag (.opening (.binding name value) position) ::
      (bodyPieces body ++ [.tag (.closing closing)])

/-- The pieces of what follows a branch of a conditional. -/
def Branches.pieces : Branches → List Piece
  | .done closing => [.tag (.closing closing)]
  | .last mark position body closing =>
    .tag (.continuation mark.branch position) :: (bodyPieces body ++ [.tag (.closing closing)])
  | .elif condition position body next =>
    .tag (.continuation (.elif condition) position) :: (bodyPieces body ++ next.pieces)

/-- The pieces of what follows the body of a loop. -/
def EmptyBranch.pieces : EmptyBranch → List Piece
  | .done closing => [.tag (.closing closing)]
  | .last mark position body closing =>
    .tag (.continuation mark.branch position) :: (bodyPieces body ++ [.tag (.closing closing)])

/-- The pieces of a body. -/
def bodyPieces : List Fragment → List Piece
  | [] => []
  | first :: others => first.pieces ++ bodyPieces others

end

mutual

/-- The nodes of a part: none for a comment, and else one. -/
def Fragment.nodes : Fragment → List Node
  | .text content => [.literal content]
  | .comment => []
  | .output expression => [.output expression]
  | .conditional condition _ body next =>
    [.conditional ((condition, bodyNodes body) :: next.branches) next.otherwise]
  | .loop key value source _ body next => [.loop key value source (bodyNodes body) next.nodes]
  | .binding name value _ body _ => [.binding name value (bodyNodes body)]

/-- The further branches of a conditional. -/
def Branches.branches : Branches → List (Expr × List Node)
  | .done _ | .last _ _ _ _ => []
  | .elif condition _ body next => (condition, bodyNodes body) :: next.branches

/-- The last branch of a conditional, empty when there is none. -/
def Branches.otherwise : Branches → List Node
  | .done _ => []
  | .last _ _ body _ => bodyNodes body
  | .elif _ _ _ next => next.otherwise

/-- The last branch of a loop, empty when there is none. -/
def EmptyBranch.nodes : EmptyBranch → List Node
  | .done _ => []
  | .last _ _ body _ => bodyNodes body

/-- The nodes of a body. -/
def bodyNodes : List Fragment → List Node
  | [] => []
  | first :: others => first.nodes ++ bodyNodes others

end

mutual

/-- How many blocks are open at once in a part. -/
def Fragment.nesting : Fragment → Nat
  | .text _ | .comment | .output _ => 0
  | .conditional _ _ body next => max (bodyNesting body) next.nesting + 1
  | .loop _ _ _ _ body next => max (bodyNesting body) next.nesting + 1
  | .binding _ _ _ body _ => bodyNesting body + 1

/-- How many blocks are open at once behind a branch of a conditional. -/
def Branches.nesting : Branches → Nat
  | .done _ => 0
  | .last _ _ body _ => bodyNesting body
  | .elif _ _ body next => max (bodyNesting body) next.nesting

/-- How many blocks are open at once behind the body of a loop. -/
def EmptyBranch.nesting : EmptyBranch → Nat
  | .done _ => 0
  | .last _ _ body _ => bodyNesting body

/-- How many blocks are open at once in a body. -/
def bodyNesting : List Fragment → Nat
  | [] => 0
  | first :: others => max first.nesting (bodyNesting others)

end

/-! ## Bodies in a row -/

/-- The pieces of bodies in a row. -/
theorem bodyPieces_append (first second : List Fragment) :
    bodyPieces (first ++ second) = bodyPieces first ++ bodyPieces second := by
  induction first with
  | nil => rfl
  | cons part others ih => simp only [List.cons_append, bodyPieces, ih, List.append_assoc]

/-- The nodes of bodies in a row. -/
theorem bodyNodes_append (first second : List Fragment) :
    bodyNodes (first ++ second) = bodyNodes first ++ bodyNodes second := by
  induction first with
  | nil => rfl
  | cons part others ih => simp only [List.cons_append, bodyNodes, ih, List.append_assoc]

/-- Bodies in a row nest as deep as the deepest one. -/
theorem bodyNesting_append (first second : List Fragment) :
    bodyNesting (first ++ second) = max (bodyNesting first) (bodyNesting second) := by
  induction first with
  | nil => simp [bodyNesting]
  | cons part others ih => simp only [List.cons_append, bodyNesting, ih, Nat.max_assoc]

/-! ## One derivation -/

/-- A place where a body ends: the end of the template, a further branch or the end of a block. -/
def StopsBody : List Piece → Prop
  | [] | .tag (.continuation _ _) :: _ | .tag (.closing _) :: _ => True
  | _ => False

/-- A body ends in front of what follows a branch of a conditional. -/
theorem Branches.stopsBody (next : Branches) (after : List Piece) :
    StopsBody (next.pieces ++ after) := by
  cases next <;> trivial

/-- A body ends in front of what follows the body of a loop. -/
theorem EmptyBranch.stopsBody (next : EmptyBranch) (after : List Piece) :
    StopsBody (next.pieces ++ after) := by
  cases next <;> trivial

/-- A body ends in front of the end of its block. -/
theorem stopsBody_closing (closing : Position) (after : List Piece) :
    StopsBody (.tag (.closing closing) :: after) := trivial

/-- No body ends in front of a part of one. -/
theorem Fragment.not_stopsBody (part : Fragment) (after : List Piece) :
    ¬StopsBody (part.pieces ++ after) := by
  cases part <;> exact id

/-- A mark is known by its branch. -/
theorem LastMark.eq_of_branch {left right : LastMark} (same : left.branch = right.branch) :
    left = right := by
  cases left <;> cases right <;> first | rfl | cases same

/-- A mark is known by its branch. -/
theorem EmptyMark.eq_of_branch {left right : EmptyMark} (same : left.branch = right.branch) :
    left = right := by
  cases left <;> cases right <;> first | rfl | cases same

mutual

/-- A part is known by its pieces, whatever follows them. -/
theorem Fragment.eq_of_pieces (left right : Fragment) {after behind : List Piece}
    (same : left.pieces ++ after = right.pieces ++ behind) : left = right ∧ after = behind := by
  match left with
  | .text content | .comment | .output expression =>
    cases right <;> cases same
    exact ⟨rfl, rfl⟩
  | .conditional condition position body next =>
    cases right
    case conditional =>
      simp only [Fragment.pieces, List.cons_append, List.append_assoc, List.cons.injEq,
        Piece.tag.injEq, Tag.opening.injEq, Opening.conditional.injEq] at same
      obtain ⟨⟨rfl, rfl⟩, inside⟩ := same
      obtain ⟨rfl, others⟩ :=
        eq_of_bodyPieces body _ (next.stopsBody _) (Branches.stopsBody _ _) inside
      obtain ⟨rfl, rfl⟩ := next.eq_of_pieces _ others
      exact ⟨rfl, rfl⟩
    all_goals cases same
  | .loop key value source position body next =>
    cases right
    case loop =>
      simp only [Fragment.pieces, List.cons_append, List.append_assoc, List.cons.injEq,
        Piece.tag.injEq, Tag.opening.injEq, Opening.loop.injEq] at same
      obtain ⟨⟨⟨rfl, rfl, rfl⟩, rfl⟩, inside⟩ := same
      obtain ⟨rfl, others⟩ :=
        eq_of_bodyPieces body _ (next.stopsBody _) (EmptyBranch.stopsBody _ _) inside
      obtain ⟨rfl, rfl⟩ := next.eq_of_pieces _ others
      exact ⟨rfl, rfl⟩
    all_goals cases same
  | .binding name value position body closing =>
    cases right
    case binding =>
      simp only [Fragment.pieces, List.cons_append, List.append_assoc, List.cons.injEq,
        Piece.tag.injEq, Tag.opening.injEq, Opening.binding.injEq, List.nil_append] at same
      obtain ⟨⟨⟨rfl, rfl⟩, rfl⟩, inside⟩ := same
      obtain ⟨rfl, others⟩ := eq_of_bodyPieces body _ (stopsBody_closing _ _)
        (stopsBody_closing _ _) inside
      cases others
      exact ⟨rfl, rfl⟩
    all_goals cases same

/-- What follows a branch of a conditional is known by its pieces. -/
theorem Branches.eq_of_pieces (left right : Branches) {after behind : List Piece}
    (same : left.pieces ++ after = right.pieces ++ behind) : left = right ∧ after = behind := by
  match left with
  | .done closing =>
    cases right <;> cases same
    exact ⟨rfl, rfl⟩
  | .last mark position body closing =>
    cases right with
    | done => cases same
    | last =>
      simp only [Branches.pieces, List.cons_append, List.append_assoc, List.cons.injEq,
        Piece.tag.injEq, Tag.continuation.injEq, List.nil_append] at same
      obtain ⟨⟨marked, rfl⟩, inside⟩ := same
      obtain rfl := LastMark.eq_of_branch marked
      obtain ⟨rfl, others⟩ := eq_of_bodyPieces body _ (stopsBody_closing _ _)
        (stopsBody_closing _ _) inside
      cases others
      exact ⟨rfl, rfl⟩
    | elif => cases mark <;> cases same
  | .elif condition position body next =>
    cases right with
    | done => cases same
    | last mark => cases mark <;> cases same
    | elif =>
      simp only [Branches.pieces, List.cons_append, List.append_assoc, List.cons.injEq,
        Piece.tag.injEq, Tag.continuation.injEq, Branch.elif.injEq] at same
      obtain ⟨⟨rfl, rfl⟩, inside⟩ := same
      obtain ⟨rfl, others⟩ :=
        eq_of_bodyPieces body _ (next.stopsBody _) (Branches.stopsBody _ _) inside
      obtain ⟨rfl, rfl⟩ := next.eq_of_pieces _ others
      exact ⟨rfl, rfl⟩

/-- What follows the body of a loop is known by its pieces. -/
theorem EmptyBranch.eq_of_pieces (left right : EmptyBranch) {after behind : List Piece}
    (same : left.pieces ++ after = right.pieces ++ behind) : left = right ∧ after = behind := by
  match left with
  | .done closing =>
    cases right <;> cases same
    exact ⟨rfl, rfl⟩
  | .last mark position body closing =>
    cases right with
    | done => cases same
    | last =>
      simp only [EmptyBranch.pieces, List.cons_append, List.append_assoc, List.cons.injEq,
        Piece.tag.injEq, Tag.continuation.injEq, List.nil_append] at same
      obtain ⟨⟨marked, rfl⟩, inside⟩ := same
      obtain rfl := EmptyMark.eq_of_branch marked
      obtain ⟨rfl, others⟩ := eq_of_bodyPieces body _ (stopsBody_closing _ _)
        (stopsBody_closing _ _) inside
      cases others
      exact ⟨rfl, rfl⟩

/-- A body is known by its pieces, as far as it goes. -/
theorem eq_of_bodyPieces (left right : List Fragment) {after behind : List Piece}
    (stops : StopsBody after) (ends : StopsBody behind)
    (same : bodyPieces left ++ after = bodyPieces right ++ behind) :
    left = right ∧ after = behind := by
  match left, right with
  | [], [] => exact ⟨rfl, same⟩
  | [], first :: others =>
    simp only [bodyPieces, List.nil_append, List.append_assoc] at same
    exact absurd (same ▸ stops) (first.not_stopsBody _)
  | first :: others, [] =>
    simp only [bodyPieces, List.nil_append, List.append_assoc] at same
    exact absurd (same ▸ ends) (first.not_stopsBody _)
  | first :: others, second :: more =>
    simp only [bodyPieces, List.append_assoc] at same
    obtain ⟨rfl, later⟩ := first.eq_of_pieces _ same
    obtain ⟨rfl, rfl⟩ := eq_of_bodyPieces others _ stops ends later
    exact ⟨rfl, rfl⟩

end

/-- A body has one derivation. -/
theorem bodyPieces_injective : Function.Injective bodyPieces := by
  intro left right same
  have stops : StopsBody [] := trivial
  have whole : bodyPieces left ++ [] = bodyPieces right ++ [] := by rw [same]
  exact (eq_of_bodyPieces left right stops stops whole).1

/-! ## What a template says -/

/-- What a template says beside its structure. -/
inductive Content where
  /-- A text. -/
  | text (content : String)
  /-- An expression, written out or in the header of a branch. -/
  | expression (expression : Expr)
deriving Repr

/-- The expression of a header. -/
def Opening.expression : Opening → Expr
  | conditional condition => condition
  | loop _ _ source => source
  | binding _ value => value

/-- The text or the expression of a piece, if it has one. -/
def Piece.contents : Piece → List Content
  | text content => [.text content]
  | tag (.output expression) => [.expression expression]
  | tag (.opening header _) => [.expression header.expression]
  | tag (.continuation (.elif condition) _) => [.expression condition]
  | tag (.continuation _ _) | tag .comment | tag (.closing _) => []

mutual

/-- The texts and expressions of a node in order. -/
def Node.contents : Node → List Content
  | .literal text => [.text text]
  | .output expression => [.expression expression]
  | .conditional branches otherwise => branchContents branches ++ nodeContents otherwise
  | .loop _ _ source body empty =>
    .expression source :: (nodeContents body ++ nodeContents empty)
  | .binding _ value body => .expression value :: nodeContents body

/-- The texts and expressions of branches in order. -/
def branchContents : List (Expr × List Node) → List Content
  | [] => []
  | (condition, body) :: others =>
    .expression condition :: (nodeContents body ++ branchContents others)

/-- The texts and expressions of nodes in order. -/
def nodeContents : List Node → List Content
  | [] => []
  | first :: others => first.contents ++ nodeContents others

end

/-- Nodes in a row say what they say one after the other. -/
theorem nodeContents_append (first second : List Node) :
    nodeContents (first ++ second) = nodeContents first ++ nodeContents second := by
  induction first with
  | nil => rfl
  | cons node others ih => simp only [List.cons_append, nodeContents, ih, List.append_assoc]

mutual

/-- The node of a part says what its pieces say. -/
theorem Fragment.nodeContents_nodes (part : Fragment) :
    nodeContents part.nodes = part.pieces.flatMap Piece.contents := by
  match part with
  | .text content | .comment | .output expression => rfl
  | .conditional condition position body next =>
    have inside := nodeContents_bodyNodes body
    have others := next.contents_branches
    simp [Fragment.nodes, Fragment.pieces, nodeContents, Node.contents, branchContents, inside,
      others, Piece.contents, Opening.expression]
  | .loop key value source position body next =>
    have inside := nodeContents_bodyNodes body
    have others := next.nodeContents_nodes
    simp [Fragment.nodes, Fragment.pieces, nodeContents, Node.contents, inside, others,
      Piece.contents, Opening.expression]
  | .binding name value position body closing =>
    have inside := nodeContents_bodyNodes body
    simp [Fragment.nodes, Fragment.pieces, nodeContents, Node.contents, inside, Piece.contents,
      Opening.expression]

/-- The further branches of a conditional say what their pieces say. -/
theorem Branches.contents_branches (next : Branches) :
    branchContents next.branches ++ nodeContents next.otherwise =
      next.pieces.flatMap Piece.contents := by
  match next with
  | .done closing => rfl
  | .last mark position body closing =>
    have inside := nodeContents_bodyNodes body
    cases mark <;> simp [Branches.branches, Branches.otherwise, Branches.pieces, branchContents,
      inside, Piece.contents, LastMark.branch]
  | .elif condition position body next =>
    have inside := nodeContents_bodyNodes body
    have others := next.contents_branches
    simp [Branches.branches, Branches.otherwise, Branches.pieces, branchContents, inside, others,
      Piece.contents]

/-- The last branch of a loop says what its pieces say. -/
theorem EmptyBranch.nodeContents_nodes (next : EmptyBranch) :
    nodeContents next.nodes = next.pieces.flatMap Piece.contents := by
  match next with
  | .done closing => rfl
  | .last mark position body closing =>
    have inside := nodeContents_bodyNodes body
    cases mark <;> simp [EmptyBranch.nodes, EmptyBranch.pieces, inside, Piece.contents,
      EmptyMark.branch]

/-- The nodes of a body say what its pieces say. -/
theorem nodeContents_bodyNodes (body : List Fragment) :
    nodeContents (bodyNodes body) = (bodyPieces body).flatMap Piece.contents := by
  match body with
  | [] => rfl
  | first :: others =>
    have part := first.nodeContents_nodes
    have later := nodeContents_bodyNodes others
    rw [bodyNodes, nodeContents_append, part, later, bodyPieces, List.flatMap_append]

end

end Stencil
