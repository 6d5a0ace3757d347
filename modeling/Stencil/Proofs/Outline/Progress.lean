import Mathlib.Data.List.Induction
import Stencil.Proofs.Outline.Derivation

/-!
# How far an outline gets

Chunks are taken in one by one until a tag is refused. What was taken in before it leaves an outline
whose open blocks were each opened by a tag and can be closed, one after the other, by as many ends.
So a template is accepted when it is cut, all its chunks are taken in and no block is left, and it is
refused when one of these fails.
-/

namespace Stencil

namespace Outline

variable {delimiters : Delimiters} {outline final : Outline} {before after chunks : List Chunk}
  {content : List Char} {position : Position} {error : SyntaxError}

/-- Chunks in a row are taken in when the first ones are and then the others. -/
theorem folded_append_iff :
    (before ++ after).foldlM (step delimiters) outline = .ok final ↔
      ∃ middle, before.foldlM (step delimiters) outline = .ok middle ∧
        after.foldlM (step delimiters) middle = .ok final := by
  rw [List.foldlM_append, bind_eq_ok_iff]

/-- A tag that is taken in among others has been read and does what it says. -/
theorem exists_tag_of_folded
    (folded : (before ++ .tag content position :: after).foldlM (step delimiters) outline =
      .ok final) :
    ∃ middle tag next, before.foldlM (step delimiters) outline = .ok middle ∧
      Tag.parse delimiters content position = .ok tag ∧
        middle.applyTag delimiters tag = .ok next ∧
          after.foldlM (step delimiters) next = .ok final := by
  obtain ⟨middle, first, others⟩ := folded_append_iff.mp folded
  rw [List.foldlM_cons] at others
  obtain ⟨next, stepped, rest⟩ := bind_eq_ok_iff.mp others
  obtain ⟨tag, reads, applied⟩ := bind_eq_ok_iff.mp stepped
  exact ⟨middle, tag, next, first, reads, applied, rest⟩

/-- All tags among chunks that are taken in can be read. -/
theorem exists_tag_of_mem_folded (folded : chunks.foldlM (step delimiters) outline = .ok final)
    (member : .tag content position ∈ chunks) :
    ∃ tag, Tag.parse delimiters content position = .ok tag := by
  obtain ⟨before, after, rfl⟩ := List.append_of_mem member
  obtain ⟨_, tag, _, -, reads, -⟩ := exists_tag_of_folded folded
  exact ⟨tag, reads⟩

/-- Where chunks are not taken in, there is a first tag that is refused. -/
theorem exists_refused_of_folded
    (refused : chunks.foldlM (step delimiters) outline = .error error) :
    ∃ before content position after middle, chunks = before ++ .tag content position :: after ∧
      before.foldlM (step delimiters) outline = .ok middle ∧
        middle.step delimiters (.tag content position) = .error error := by
  induction chunks generalizing outline with
  | nil => cases refused
  | cons first others ih =>
    rw [List.foldlM_cons] at refused
    rcases bind_eq_error_iff.mp refused with here | ⟨next, stepped, later⟩
    · cases first with
      | text content => cases here
      | tag content position => exact ⟨[], content, position, others, outline, rfl, rfl, here⟩
    · obtain ⟨before, content, position, after, middle, rfl, folded, refused⟩ := ih later
      refine ⟨first :: before, content, position, after, middle, rfl, ?_, refused⟩
      rw [List.foldlM_cons]
      exact bind_eq_ok_iff.mpr ⟨next, stepped, folded⟩

/-- Behind chunks that are taken in, a tag that is refused is refused whatever follows. -/
theorem folded_eq_error (folded : before.foldlM (step delimiters) outline = .ok final)
    (refused : final.step delimiters (.tag content position) = .error error) :
    (before ++ .tag content position :: after).foldlM (step delimiters) outline = .error error := by
  rw [List.foldlM_append]
  refine bind_eq_error_iff.mpr (Or.inr ⟨final, folded, ?_⟩)
  rw [List.foldlM_cons]
  exact bind_eq_error_iff.mpr (Or.inl refused)

/-! ## Open blocks -/

/-- A block that a tag opens behind some chunks, inside the blocks around it, and that stays open
behind others: at no place there only the blocks around it are open. -/
structure Opens (delimiters : Delimiters) (earlier : List Chunk) (content : List Char)
    (position : Position) (later : List Chunk) (block : OpenBlock) (around : List OpenBlock) :
    Prop where
  /-- The tag opens a block at the position of this one. -/
  reads : ∃ header, Tag.parse delimiters content position = .ok (.opening header block.position)
  /-- In front of the tag the blocks around it are open. -/
  inside : ∃ nodes, earlier.foldlM (step delimiters) start = .ok ⟨nodes, around⟩
  /-- Behind the tag there are always more blocks open than those around it. -/
  stays : ∀ first second reached, later = first ++ second →
    (earlier ++ .tag content position :: first).foldlM (step delimiters) start = .ok reached →
      around.length < reached.blocks.length

/-- One more chunk behind which the block is open, in whichever branch. -/
theorem Opens.snoc {earlier later : List Chunk} {block next : OpenBlock} {around : List OpenBlock}
    {last : Chunk} (opens : Opens delimiters earlier content position later block around)
    (same : next.position = block.position)
    (folded : (earlier ++ .tag content position :: later ++ [last]).foldlM (step delimiters) start =
      .ok final)
    (deeper : around.length < final.blocks.length) :
    Opens delimiters earlier content position (later ++ [last]) next around := by
  refine ⟨same ▸ opens.reads, opens.inside, fun first second reached parts taken => ?_⟩
  rcases List.eq_nil_or_concat second with rfl | ⟨init, _, rfl⟩
  · rw [List.append_nil] at parts
    rw [← parts, ← List.cons_append, ← List.append_assoc, folded] at taken
    cases taken
    exact deeper
  · rw [List.concat_eq_append, ← List.append_assoc] at parts
    exact opens.stays first init reached (List.append_inj' parts rfl).1 taken

/-- What a chunk that is taken in does to the open blocks: nothing, or it opens a block, continues
the innermost one or closes it. -/
theorem blocks_of_step {chunk : Chunk} {next : Outline}
    (stepped : outline.step delimiters chunk = .ok next) :
    next.blocks = outline.blocks ∨
      (∃ content position header block, chunk = .tag content position ∧
        Tag.parse delimiters content position = .ok (.opening header block.position) ∧
          next.blocks = block :: outline.blocks) ∨
      (∃ block renewed around, outline.blocks = block :: around ∧
        next.blocks = renewed :: around ∧ renewed.position = block.position) ∨
      ∃ block, outline.blocks = block :: next.blocks := by
  cases chunk with
  | text content =>
    cases stepped
    exact Or.inl rfl
  | tag content position =>
    obtain ⟨tag, reads, applied⟩ := bind_eq_ok_iff.mp stepped
    cases tag with
    | comment | output =>
      cases applied
      exact Or.inl rfl
    | opening header place =>
      rw [applyTag] at applied
      split at applied
      · cases applied
      · cases applied
        exact Or.inr (Or.inl ⟨content, position, header, _, rfl, reads, rfl⟩)
    | continuation branch place =>
      rw [applyTag] at applied
      split at applied
      · cases applied
      · rename_i block around stack
        split at applied
        · cases applied
          exact Or.inr (Or.inr (Or.inl ⟨block, _, around, stack, rfl, rfl⟩))
        · cases applied
    | closing place =>
      rw [applyTag] at applied
      split at applied
      · cases applied
      · rename_i block around stack
        cases applied
        exact Or.inr (Or.inr (Or.inr ⟨block, stack⟩))

/-- Every open block was opened by a tag and has stayed open since. -/
theorem exists_opens_of_folded {inner around : List OpenBlock} {block : OpenBlock}
    (folded : chunks.foldlM (step delimiters) start = .ok final)
    (blocks : final.blocks = inner ++ block :: around) :
    ∃ earlier content position later, chunks = earlier ++ .tag content position :: later ∧
      Opens delimiters earlier content position later block around := by
  induction chunks using List.reverseRecOn generalizing final inner block with
  | nil =>
    cases folded
    simp [start] at blocks
  | append_singleton init last ih =>
    have whole := folded
    obtain ⟨middle, before, stepped⟩ := folded_append_iff.mp folded
    rw [List.foldlM_cons] at stepped
    obtain ⟨_, stepped, ⟨⟩⟩ := bind_eq_ok_iff.mp stepped
    have deeper : around.length < final.blocks.length := by
      rw [blocks, List.length_append, List.length_cons]
      omega
    -- Unless the last chunk opens the block, it was open in front of it, at the same position.
    have onward {outer : List OpenBlock} {old : OpenBlock} (same : block.position = old.position)
        (stack : middle.blocks = outer ++ old :: around) :
        ∃ earlier content position later,
          init ++ [last] = earlier ++ .tag content position :: later ∧
          Opens delimiters earlier content position later block around := by
      obtain ⟨earlier, content, position, later, rfl, opens⟩ := ih before stack
      exact ⟨earlier, content, position, later ++ [last], by simp, opens.snoc same whole deeper⟩
    rcases blocks_of_step stepped with unchanged |
      ⟨content, position, header, newest, rfl, reads, opened⟩ |
      ⟨old, renewed, others, stack, continued, same⟩ | ⟨closed, stack⟩
    · exact onward rfl (unchanged.symm.trans blocks)
    · rw [opened] at blocks
      cases inner with
      | nil =>
        obtain ⟨rfl, rfl⟩ := List.cons.inj blocks
        refine ⟨init, content, position, [], rfl, ⟨header, reads⟩, ⟨middle.nodes, before⟩, ?_⟩
        intro first second reached parts taken
        obtain ⟨rfl, rfl⟩ := List.append_eq_nil_iff.mp parts.symm
        cases whole.symm.trans taken
        exact deeper
      | cons first inner => exact onward rfl (List.cons.inj blocks).2
    · rw [continued] at blocks
      cases inner with
      | nil =>
        obtain ⟨rfl, rfl⟩ := List.cons.inj blocks
        exact @onward [] old same stack
      | cons first inner =>
        obtain ⟨-, rfl⟩ := List.cons.inj blocks
        exact @onward (old :: inner) block rfl stack
    · rw [blocks] at stack
      exact @onward (closed :: inner) block rfl stack

/-- Ends close the open blocks one after the other. -/
theorem folded_ends {ends : List Chunk} (areEnds : ∀ chunk ∈ ends, ∃ content position place,
      chunk = .tag content position ∧ Tag.parse delimiters content position = .ok (.closing place))
    (enough : ends.length = outline.blocks.length) :
    ∃ nodes, ends.foldlM (step delimiters) outline = .ok ⟨nodes, []⟩ := by
  induction ends generalizing outline with
  | nil =>
    obtain ⟨nodes, blocks⟩ := outline
    obtain rfl : blocks = [] := List.eq_nil_of_length_eq_zero enough.symm
    exact ⟨nodes, rfl⟩
  | cons first others ih =>
    obtain ⟨content, position, place, rfl, reads⟩ := areEnds first List.mem_cons_self
    obtain ⟨nodes, blocks⟩ := outline
    cases blocks with
    | nil => cases enough
    | cons block around =>
      have closed : step delimiters ⟨nodes, block :: around⟩ (.tag content position) =
          .ok ⟨block.part.close nodes.reverse :: block.before, around⟩ :=
        bind_eq_ok_iff.mpr ⟨_, reads, rfl⟩
      obtain ⟨left, folded⟩ := @ih ⟨block.part.close nodes.reverse :: block.before, around⟩
        (fun chunk member => areEnds chunk (List.mem_cons_of_mem _ member)) (Nat.succ.inj enough)
      refine ⟨left, ?_⟩
      rw [List.foldlM_cons]
      exact bind_eq_ok_iff.mpr ⟨_, closed, folded⟩

end Outline

/-! ## Whole templates -/

namespace Document

variable {delimiters : Delimiters} {source : String} {document : Document} {error : SyntaxError}

/-- A template is accepted when it is cut, its chunks are taken in and no block is left open. -/
theorem parse_eq_ok_iff_folded : parse delimiters source = .ok document ↔
    ∃ chunks nodes, Chunk.split delimiters source = .ok chunks ∧
      chunks.foldlM (Outline.step delimiters) .start = .ok ⟨nodes, []⟩ ∧
        document = ⟨nodes.reverse⟩ := by
  rw [parse, bind_eq_ok_iff]
  constructor
  · rintro ⟨chunks, cut, built⟩
    obtain ⟨⟨nodes, blocks⟩, folded, finished⟩ := bind_eq_ok_iff.mp built
    cases blocks with
    | nil =>
      cases finished
      exact ⟨chunks, nodes, cut, folded, rfl⟩
    | cons block around => cases finished
  · rintro ⟨chunks, nodes, cut, folded, rfl⟩
    exact ⟨chunks, cut, bind_eq_ok_iff.mpr ⟨_, folded, rfl⟩⟩

/-- Why a template is refused. -/
inductive Refusal (delimiters : Delimiters) (source : String) (error : SyntaxError) : Prop
  /-- It cannot be cut. -/
  | uncut (missing : Chunk.split delimiters source = .error error)
  /-- Behind chunks that are taken in there is a tag that is refused. -/
  | tag {before after : List Chunk} {content : List Char} {position : Position} {outline : Outline}
    (cut : Chunk.split delimiters source = .ok (before ++ .tag content position :: after))
    (folded : before.foldlM (Outline.step delimiters) .start = .ok outline)
    (refused : outline.step delimiters (.tag content position) = .error error)
  /-- All chunks are taken in, and a block is left open. -/
  | block {chunks : List Chunk} {nodes : List Node} {block : OpenBlock} {around : List OpenBlock}
    (cut : Chunk.split delimiters source = .ok chunks)
    (folded : chunks.foldlM (Outline.step delimiters) .start = .ok ⟨nodes, block :: around⟩)
    (left : error = ⟨.unterminatedBlock block.part.kind delimiters.opening delimiters.closing,
      block.position⟩)

/-- A template that is refused is refused for one of these reasons. -/
theorem refusal (refused : parse delimiters source = .error error) :
    Refusal delimiters source error := by
  rcases bind_eq_error_iff.mp refused with missing | ⟨chunks, cut, unfit⟩
  · exact .uncut missing
  · rcases bind_eq_error_iff.mp unfit with stopped | ⟨⟨nodes, blocks⟩, folded, unfinished⟩
    · obtain ⟨before, content, position, after, middle, rfl, folded, refused⟩ :=
        Outline.exists_refused_of_folded stopped
      exact .tag cut folded refused
    · cases blocks with
      | nil => cases unfinished
      | cons block around =>
        cases unfinished
        exact .block cut folded rfl

end Document

end Stencil
