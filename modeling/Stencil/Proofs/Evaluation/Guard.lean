import Stencil.Proofs.Document.Written
import Stencil.Proofs.Evaluation.Depth
import Stencil.Proofs.Outline.Derivation

/-!
# The guard on the depth of blocks

A store decides which bodies of a block are rendered, and so how deep rendering goes into a
document. This is said here without any limit. Rendering with a limit fails exactly when it would
go deeper than that, whatever the limit is, and gives the same text with every limit that suffices.
A document that was parsed has no more blocks inside each other than the parser lets be open at
once, so there is a limit that suffices for all of them.
-/

namespace Stencil

namespace Node

/-! ## Levels that are entered -/

/-- Whether a node is a block. -/
def isBlock : Node → Bool
  | literal _ | output _ => false
  | conditional _ _ | loop _ _ _ _ _ | binding _ _ _ => true

/-- The bodies of a block that are rendered, in order and each with the scope it has: the first
branch of a conditional whose condition holds, or else its last one; the body of a loop once for
every entry, or else its other one; the body of a binding. -/
def bodies (store : Store) : Node → List (Store × List Node)
  | literal _ | output _ => []
  | conditional branches otherwise =>
    match branches.find? fun branch => (branch.1.eval store).isTruthy with
    | some taken => [(store.push, taken.2)]
    | none => [(store.push, otherwise)]
  | loop key value source body empty =>
    match (source.eval store).entries with
    | [] => [(store.push, empty)]
    | entries => entries.map fun entry => (store.enter key value entry, body)
  | binding name value body => [(store.push.set name (value.eval store), body)]

/-- Whether rendering a node enters a block on a level. A block by itself is on the first level, and
what is in a body of it that is rendered is one level further in. -/
inductive Enters : Store → Node → Nat → Prop
  /-- The node is a block. -/
  | here {store : Store} {node : Node} (block : node.isBlock = true) : Enters store node 1
  /-- A block is entered in a body that is rendered. -/
  | inside {store inner : Store} {node next : Node} {body : List Node} {level : Nat}
    (rendered : (inner, body) ∈ node.bodies store) (member : next ∈ body)
    (deeper : Enters inner next level) : Enters store node (level + 1)

/-- What is no block has no bodies. -/
theorem bodies_of_not_isBlock {store : Store} {node : Node} (plain : node.isBlock = false) :
    node.bodies store = [] := by
  cases node with
  | literal text => rfl
  | output expression => rfl
  | conditional | loop | binding => cases plain

/-- What is no block enters nothing. -/
theorem not_enters {store : Store} {node : Node} {level : Nat} (plain : node.isBlock = false) :
    ¬Enters store node level := by
  intro enters
  cases enters with
  | here block => exact Bool.false_ne_true (plain.symm.trans block)
  | inside rendered _ _ =>
    rw [bodies_of_not_isBlock plain] at rendered
    cases rendered

/-- There is no level before the first one. -/
theorem not_enters_zero (store : Store) (node : Node) : ¬Enters store node 0 := nofun

/-- The levels of a block beyond the first are those of its bodies. -/
theorem enters_add_two_iff {store : Store} {node : Node} {level : Nat} :
    Enters store node (level + 2) ↔
      ∃ part ∈ node.bodies store, ∃ next ∈ part.2, Enters part.1 next (level + 1) := by
  constructor
  · intro enters
    cases enters with
    | inside rendered member deeper => exact ⟨_, rendered, _, member, deeper⟩
  · rintro ⟨part, rendered, next, member, deeper⟩
    exact .inside rendered member deeper

/-- The first level is entered by a block. -/
theorem enters_one_iff {store : Store} {node : Node} :
    Enters store node 1 ↔ node.isBlock = true := by
  constructor
  · intro enters
    cases enters with
    | here block => exact block
    | inside _ _ deeper => exact absurd deeper (not_enters_zero _ _)
  · exact .here

/-! ## Rendering by bodies -/

/-- Nodes in a row are rendered one by one. -/
theorem renderAll_eq_mapM (limit depth : Nat) (store : Store) (nodes : List Node) :
    renderAll limit depth store nodes = do
      let texts ← nodes.mapM (render limit depth store)
      return String.join texts := by
  induction nodes with
  | nil => rfl
  | cons node rest ih =>
    rw [renderAll, ih, List.mapM_cons]
    cases node.render limit depth store with
    | error failure => rfl
    | ok first =>
      cases rest.mapM (render limit depth store) with
      | error failure => rfl
      | ok texts => exact congrArg Except.ok String.join_cons.symm

/-- The branch that is rendered is the first one whose condition holds. -/
theorem renderBranches_eq_find? (limit depth : Nat) (store : Store)
    (branches : List (Expr × List Node)) :
    renderBranches limit depth store branches =
      (branches.find? fun branch => (branch.1.eval store).isTruthy).map
        fun taken => renderAll limit depth store.push taken.2 := by
  induction branches with
  | nil => rfl
  | cons branch rest ih =>
    obtain ⟨condition, body⟩ := branch
    rw [renderBranches, List.find?_cons, ih]
    cases (condition.eval store).isTruthy <;> rfl

/-- The text of one body is the text of this body. -/
theorem mapM_singleton_join (limit depth : Nat) (store : Store) (body : List Node) :
    (do let texts ← [(store, body)].mapM fun part => renderAll limit depth part.1 part.2
        return String.join texts) = renderAll limit depth store body := by
  rw [List.mapM_cons]
  cases renderAll limit depth store body with
  | error failure => rfl
  | ok text => exact congrArg Except.ok (String.join_cons.trans String.append_empty)

/-- What is no block has one text with every limit. -/
theorem exists_render_of_not_isBlock {node : Node} (plain : node.isBlock = false) (store : Store) :
    ∃ text, ∀ limit depth, node.render limit depth store = .ok text := by
  cases node with
  | literal text => exact ⟨text, fun _ _ => rfl⟩
  | output expression => exact ⟨(expression.eval store).text, fun _ _ => rfl⟩
  | conditional | loop | binding => cases plain

/-- A block that may be entered is rendered as its bodies, one after the other. -/
theorem render_of_isBlock {node : Node} (block : node.isBlock = true) (limit depth : Nat)
    (store : Store) :
    node.render limit depth store = do
      enter limit depth
      let texts ← (node.bodies store).mapM fun part => renderAll limit (depth + 1) part.1 part.2
      return String.join texts := by
  cases node with
  | literal text => cases block
  | output expression => cases block
  | conditional branches otherwise =>
    rw [render, renderBranches_eq_find?, bodies]
    cases branches.find? fun branch => (branch.1.eval store).isTruthy <;>
      simp only [Option.map_none, Option.map_some, mapM_singleton_join]
  | loop key value source body empty =>
    rw [render, bodies]
    cases (source.eval store).entries with
    | nil => simp only [mapM_singleton_join]
    | cons first rest => simp only [List.mapM_map]; rfl
  | binding name value body =>
    rw [render, bodies]
    simp only [mapM_singleton_join]

/-! ## The guard -/

/-- Texts that are put together fail as making them does. -/
theorem join_eq_error_iff {texts : Except Failure (List String)} {failure : Failure} :
    (do return String.join (← texts)) = .error failure ↔ texts = .error failure :=
  bind_eq_error_iff.trans (or_iff_left fun ⟨_, _, done⟩ => nomatch done)

/-- Nodes in a row go too deep when one of them does. -/
theorem renderAll_eq_error_iff {limit depth : Nat} {store : Store} {nodes : List Node} :
    renderAll limit depth store nodes = .error (.renderDepthExceeded limit) ↔
      ∃ node ∈ nodes, node.render limit depth store = .error (.renderDepthExceeded limit) := by
  rw [renderAll_eq_mapM, join_eq_error_iff]
  exact mapM_eq_error_iff fun node _ => node.render_eq_error

/-- A block may be entered below the limit. -/
theorem enter_eq_ok_iff {limit depth : Nat} {done : Unit} :
    enter limit depth = .ok done ↔ depth < limit := by
  rw [enter]
  split
  case isTrue within => exact iff_of_true rfl within
  case isFalse beyond => exact iff_of_false nofun beyond

/-- A block goes too deep when it may not be entered or when one of its bodies goes too deep. -/
theorem render_block_eq_error_iff {node : Node} (block : node.isBlock = true) {limit depth : Nat}
    {store : Store} :
    node.render limit depth store = .error (.renderDepthExceeded limit) ↔
      limit ≤ depth ∨ ∃ part ∈ node.bodies store,
        renderAll limit (depth + 1) part.1 part.2 = .error (.renderDepthExceeded limit) := by
  rw [render_of_isBlock block, enter]
  split
  case isTrue within =>
    rw [or_iff_right (Nat.not_le.mpr within)]
    refine Iff.trans join_eq_error_iff ?_
    exact mapM_eq_error_iff fun part _ => renderAll_eq_error part.2
  case isFalse beyond => exact iff_of_true rfl (Or.inl (Nat.le_of_not_lt beyond))

/-- A node goes too deep exactly when it enters a block one level beyond the limit. -/
theorem render_eq_error_iff_enters {limit room depth : Nat} (within : depth + room = limit)
    (store : Store) (node : Node) :
    node.render limit depth store = .error (.renderDepthExceeded limit) ↔
      Enters store node (room + 1) := by
  induction room generalizing depth store node with
  | zero =>
    rw [enters_one_iff]
    cases block : node.isBlock with
    | false =>
      obtain ⟨text, rendered⟩ := exists_render_of_not_isBlock block store
      rw [rendered]
      exact iff_of_false nofun Bool.false_ne_true
    | true => exact iff_of_true ((render_block_eq_error_iff block).mpr (Or.inl (by omega))) rfl
  | succ room ih =>
    cases block : node.isBlock with
    | false =>
      obtain ⟨text, rendered⟩ := exists_render_of_not_isBlock block store
      rw [rendered]
      exact iff_of_false nofun (not_enters block)
    | true =>
      rw [render_block_eq_error_iff block, or_iff_right (by omega), enters_add_two_iff]
      refine exists_congr fun part => and_congr_right fun _ => ?_
      rw [renderAll_eq_error_iff]
      exact exists_congr fun next => and_congr_right fun _ => ih (by omega) part.1 next

/-- Nodes in a row whose texts stay as they are with a larger limit have the same text with it. -/
theorem renderAll_mono {limit larger depth : Nat} {store : Store} {nodes : List Node}
    (each : ∀ (node : Node) (text : String), node.render limit depth store = .ok text →
      node.render larger depth store = .ok text) {text : String}
    (rendered : renderAll limit depth store nodes = .ok text) :
    renderAll larger depth store nodes = .ok text := by
  rw [renderAll_eq_mapM] at rendered ⊢
  obtain ⟨texts, found, joined⟩ := bind_eq_ok_iff.mp rendered
  exact bind_eq_ok_iff.mpr ⟨texts, mapM_ok_mono (fun node _ => each node) found, joined⟩

/-- A node that can be rendered has the same text with every larger limit. -/
theorem render_mono {limit larger : Nat} (more : limit ≤ larger) {room depth : Nat}
    (within : limit ≤ depth + room) {store : Store} {node : Node} {text : String}
    (rendered : node.render limit depth store = .ok text) :
    node.render larger depth store = .ok text := by
  cases block : node.isBlock with
  | false =>
    obtain ⟨_, same⟩ := exists_render_of_not_isBlock block store
    rwa [same] at rendered ⊢
  | true =>
    rw [render_of_isBlock block] at rendered ⊢
    obtain ⟨_, entered, inside⟩ := bind_eq_ok_iff.mp rendered
    obtain ⟨texts, found, joined⟩ := bind_eq_ok_iff.mp inside
    have below : depth < limit := enter_eq_ok_iff.mp entered
    -- Every block that is entered takes one of the levels that are left.
    cases room with
    | zero => omega
    | succ room =>
      have deeper : limit ≤ depth + 1 + room := by omega
      refine bind_eq_ok_iff.mpr ⟨(), enter_eq_ok_iff.mpr (Nat.lt_of_lt_of_le below more),
        bind_eq_ok_iff.mpr ⟨texts, ?_, joined⟩⟩
      exact mapM_ok_mono (fun part _ _ => renderAll_mono fun _ _ => render_mono more deeper) found
termination_by room

/-! ## Levels of a document -/

/-- A node in a row nests no deeper than the row. -/
theorem nesting_le_of_mem {nodes : List Node} {node : Node} (member : node ∈ nodes) :
    node.nesting ≤ nodeNesting nodes := by
  induction nodes with
  | nil => cases member
  | cons first rest ih =>
    rw [nodeNesting]
    rcases List.mem_cons.mp member with rfl | later
    · exact Nat.le_max_left _ _
    · exact Nat.le_trans (ih later) (Nat.le_max_right _ _)

/-- The body of a branch nests no deeper than the branches. -/
theorem nodeNesting_le_of_mem_branches {branches : List (Expr × List Node)}
    {branch : Expr × List Node} (member : branch ∈ branches) :
    nodeNesting branch.2 ≤ branchNesting branches := by
  induction branches with
  | nil => cases member
  | cons first rest ih =>
    rw [branchNesting]
    rcases List.mem_cons.mp member with rfl | later
    · exact Nat.le_max_left _ _
    · exact Nat.le_trans (ih later) (Nat.le_max_right _ _)

/-- A body that is rendered has one level less than its block. -/
theorem nodeNesting_lt_of_mem_bodies {store : Store} {node : Node} {part : Store × List Node}
    (rendered : part ∈ node.bodies store) : nodeNesting part.2 < node.nesting := by
  cases node with
  | literal text => cases rendered
  | output expression => cases rendered
  | conditional branches otherwise =>
    rw [bodies] at rendered
    rw [nesting]
    split at rendered
    case h_1 taken found =>
      have least := nodeNesting_le_of_mem_branches (List.mem_of_find?_eq_some found)
      rw [List.mem_singleton.mp rendered]
      exact Nat.lt_succ_of_le (Nat.le_trans least (Nat.le_max_left _ _))
    case h_2 =>
      rw [List.mem_singleton.mp rendered]
      exact Nat.lt_succ_of_le (Nat.le_max_right _ _)
  | loop key value source body empty =>
    rw [bodies] at rendered
    rw [nesting]
    split at rendered
    case h_1 =>
      rw [List.mem_singleton.mp rendered]
      exact Nat.lt_succ_of_le (Nat.le_max_right _ _)
    case h_2 =>
      obtain ⟨entry, _, rfl⟩ := List.mem_map.mp rendered
      exact Nat.lt_succ_of_le (Nat.le_max_left _ _)
  | binding name value body =>
    rw [bodies] at rendered
    rw [nesting, List.mem_singleton.mp rendered]
    exact Nat.lt_succ_self _

/-- No level is entered beyond the deepest one of a node. -/
theorem Enters.le_nesting {store : Store} {node : Node} {level : Nat}
    (enters : Enters store node level) : level ≤ node.nesting := by
  induction enters with
  | @here store node block =>
    cases node with
    | literal | output => cases block
    | conditional | loop | binding => exact Nat.succ_le_succ (Nat.zero_le _)
  | inside rendered member _ ih =>
    have below := nodeNesting_lt_of_mem_bodies rendered
    dsimp only at below
    have inside := nesting_le_of_mem member
    omega

end Node

/-- Nodes in a row nest as deep as the deepest part of the row. -/
theorem nodeNesting_append (first second : List Node) :
    nodeNesting (first ++ second) = max (nodeNesting first) (nodeNesting second) := by
  induction first with
  | nil => rw [List.nil_append, nodeNesting, Nat.zero_max]
  | cons node others ih => rw [List.cons_append, nodeNesting, nodeNesting, ih, Nat.max_assoc]

mutual

/-- The node of a part nests as deep as the part. -/
theorem Fragment.nodeNesting_nodes (part : Fragment) : nodeNesting part.nodes = part.nesting := by
  match part with
  | .text _ => rfl
  | .comment => rfl
  | .output _ => rfl
  | .conditional condition position body next =>
    simp only [Fragment.nodes, nodeNesting, Node.nesting, branchNesting, Fragment.nesting,
      nodeNesting_bodyNodes body, ← next.nesting_eq, Nat.max_assoc, Nat.max_zero]
  | .loop key value source position body next =>
    simp only [Fragment.nodes, nodeNesting, Node.nesting, Fragment.nesting,
      nodeNesting_bodyNodes body, next.nodeNesting_nodes, Nat.max_zero]
  | .binding name value position body closing =>
    simp only [Fragment.nodes, nodeNesting, Node.nesting, Fragment.nesting,
      nodeNesting_bodyNodes body, Nat.max_zero]

/-- The branches behind the first one nest as deep as what follows it. -/
theorem Branches.nesting_eq (next : Branches) :
    max (branchNesting next.branches) (nodeNesting next.otherwise) = next.nesting := by
  match next with
  | .done _ => rfl
  | .last mark position body closing =>
    simp only [Branches.branches, Branches.otherwise, branchNesting, Branches.nesting,
      nodeNesting_bodyNodes body, Nat.zero_max]
  | .elif condition position body next =>
    simp only [Branches.branches, Branches.otherwise, branchNesting, Branches.nesting,
      nodeNesting_bodyNodes body, ← next.nesting_eq, Nat.max_assoc]

/-- The other body of a loop nests as deep as what follows the first one. -/
theorem EmptyBranch.nodeNesting_nodes (next : EmptyBranch) :
    nodeNesting next.nodes = next.nesting := by
  match next with
  | .done _ => rfl
  | .last mark position body closing =>
    rw [EmptyBranch.nodes, EmptyBranch.nesting, nodeNesting_bodyNodes body]

/-- The nodes of a body nest as deep as the body. -/
theorem nodeNesting_bodyNodes (body : List Fragment) :
    nodeNesting (bodyNodes body) = bodyNesting body := by
  match body with
  | [] => rfl
  | first :: others =>
    rw [bodyNodes, nodeNesting_append, first.nodeNesting_nodes, nodeNesting_bodyNodes others,
      bodyNesting]

end

namespace Document

/-- Whether rendering a document enters a block on a level. -/
def Enters (document : Document) (store : Store) (level : Nat) : Prop :=
  ∃ node ∈ document.nodes, node.Enters store level

/-- A document cannot be rendered exactly when it enters a block one level beyond the limit. -/
theorem render_eq_error_iff_enters {document : Document} {store : Store} {limit : Nat}
    {failure : Failure} : document.render limit store = .error failure ↔
      failure = .renderDepthExceeded limit ∧ document.Enters store (limit + 1) := by
  have tooDeep : document.render limit store = .error (.renderDepthExceeded limit) ↔
      document.Enters store (limit + 1) :=
    Node.renderAll_eq_error_iff.trans <| exists_congr fun node => and_congr_right fun _ =>
      Node.render_eq_error_iff_enters (Nat.zero_add limit) store node
  constructor
  · intro fails
    obtain rfl := render_eq_error fails
    exact ⟨rfl, tooDeep.mp fails⟩
  · rintro ⟨rfl, enters⟩
    exact tooDeep.mpr enters

/-- A document enters no level beyond its deepest one. -/
theorem Enters.le_nodeNesting {document : Document} {store : Store} {level : Nat}
    (enters : document.Enters store level) : level ≤ nodeNesting document.nodes := by
  obtain ⟨node, member, inside⟩ := enters
  exact Nat.le_trans inside.le_nesting (Node.nesting_le_of_mem member)

/-- A parsed document nests no deeper than the parser lets blocks be open at once. -/
theorem nodeNesting_le_of_parse {delimiters : Delimiters} {source : String} {document : Document}
    (accepted : parse delimiters source = .ok document) :
    nodeNesting document.nodes ≤ maxBlockDepth := by
  obtain ⟨chunks, pieces, body, -, -, -, shallow, rfl⟩ := parse_eq_ok_iff.mp accepted
  rwa [nodeNesting_bodyNodes]

/-- How the depth of blocks is guarded. Rendering fails for no other reason than that a block is
entered one level beyond the limit, and then it does fail; what can be rendered has the same text
with every larger limit. And a document that was parsed has no more than 256 blocks inside each
other, so it can be rendered in every store with a limit of at least 256. -/
theorem depth_guard :
    (∀ (document : Document) (store : Store) (limit : Nat),
      (∀ failure, document.render limit store = .error failure ↔
        failure = .renderDepthExceeded limit ∧ document.Enters store (limit + 1)) ∧
      ∀ text, document.render limit store = .ok text →
        ∀ larger, limit ≤ larger → document.render larger store = .ok text) ∧
    ∀ (delimiters : Delimiters) (source : String) (document : Document),
      parse delimiters source = .ok document →
        nodeNesting document.nodes ≤ 256 ∧
          ∀ limit, 256 ≤ limit → ∀ store, ∃ text, document.render limit store = .ok text := by
  refine ⟨fun document store limit => ⟨fun failure => render_eq_error_iff_enters, ?_⟩, ?_⟩
  · intro text rendered larger more
    exact Node.renderAll_mono
      (fun _ _ => Node.render_mono more (Nat.le_of_eq (Nat.zero_add limit).symm)) rendered
  · intro delimiters source document accepted
    have shallow : nodeNesting document.nodes ≤ 256 := nodeNesting_le_of_parse accepted
    refine ⟨shallow, fun limit enough store => ?_⟩
    cases rendered : document.render limit store with
    | ok text => exact ⟨text, rfl⟩
    | error failure =>
      have deepest := (render_eq_error_iff_enters.mp rendered).2.le_nodeNesting
      omega

/-- Three blocks inside each other, of which the loop has no entries: the second level is entered
and the third is not. -/
theorem depth_guard_sample :
    let source := "\x7b\x7b if a \x7d\x7d\x7b\x7b || \x7d\x7d" ++
      "\x7b\x7b for v in [] \x7d\x7d\x7b\x7b if v \x7d\x7d\x7b\x7b end \x7d\x7d" ++
      "\x7b\x7b empty \x7d\x7dnone\x7b\x7b end \x7d\x7d\x7b\x7b end \x7d\x7d"
    let store : Store := .empty
    ∃ document, parse .standard source = .ok document ∧ nodeNesting document.nodes ≤ 256 ∧
      document.Enters store 2 ∧ ¬document.Enters store 3 ∧
      document.render 64 store = .ok "none" ∧ ∃ text, document.render 256 store = .ok text := by
  intro source store
  obtain ⟨document, accepted⟩ : ∃ document, parse .standard source = .ok document :=
    exists_eq_ok_iff.mpr (by decide +kernel)
  have renders : (parse .standard source >>= fun document =>
      .ok (document.render 1 store, document.render 2 store)) =
        .ok (.error (.renderDepthExceeded 1), .ok "none") := by
    decide +kernel
  rw [accepted] at renders
  obtain ⟨fails, succeeds⟩ : _ ∧ _ := by simpa only [bind, Except.bind, Except.ok.injEq,
    Prod.mk.injEq] using renders
  obtain ⟨guarded, parsed⟩ := depth_guard
  obtain ⟨shallow, enough⟩ := parsed .standard source document accepted
  have entered := (((guarded document store 1).1 _).mp fails).2
  have kept : ¬document.Enters store 3 := fun enters => by
    cases succeeds.symm.trans (((guarded document store 2).1 _).mpr ⟨rfl, enters⟩)
  exact ⟨document, accepted, shallow, entered, kept,
    (guarded document store 2).2 _ succeeds 64 (by decide), enough 256 (Nat.le_refl 256) store⟩

end Document

end Stencil
