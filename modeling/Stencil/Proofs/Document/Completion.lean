import Stencil.Proofs.Document.ErrorPositions
import Stencil.Proofs.Document.Extension
import Stencil.Proofs.Document.Tags

/-!
# Completing a template

A template that is refused has a first tag that cannot be right. What stands in front of that tag is
accepted once its open blocks are closed, and when the tag is refused because of these blocks no
template starts with it. A template whose blocks are not closed lacks nothing else.
-/

namespace Stencil

namespace Chunk

/-- As many tags that end a block. -/
def ends (count : Nat) : List Char := (List.replicate count "\x7b\x7b end \x7d\x7d".toList).flatten

/-- The tag that ends a block is read wherever it stands. -/
theorem parse_end (position : Position) :
    ∃ place, Tag.parse .standard " end ".toList position = .ok (.closing place) := by
  have writes : Token.Writes (Tag.closing .origin).tokens " end ".toList :=
    @Tag.writes_content (.closing .origin) rfl
  exact @Tag.parse_writes (.closing .origin) _ rfl writes position

/-- The tag that ends a block is cut off whole. -/
theorem isFirm_end : IsFirm .standard " end ".toList := by
  have writes : Token.Writes (Tag.closing .origin).tokens " end ".toList :=
    @Tag.writes_content (.closing .origin) rfl
  exact fun tail => splitTag?_writes writes (List.cons_ne_nil _ _) tail

/-- Ends behind a text are cut off one by one. -/
theorem splitFrom_ends {text : List Char} (count : Nat) (position : Position)
    (opened : Text.splitFirst? Delimiters.standard.opening.toList
      (text ++ Delimiters.standard.opening.toList) = some (text, [])) :
    ∃ closing, splitFrom .standard position (text ++ ends count) = .ok (ofText text ++ closing) ∧
      closing.length = count ∧ ∀ chunk ∈ closing, ∃ content place finish,
        chunk = .tag content place ∧ Tag.parse .standard content place = .ok (.closing finish) := by
  induction count generalizing text position with
  | zero =>
    have absent := Text.not_occursIn_of_splitFirst? Delimiters.standard.opening_ne opened
    refine ⟨[], ?_, rfl, by simp⟩
    simpa [ends] using splitFrom_text absent position
  | succ count ih =>
    obtain ⟨closing, cut, size, areEnds⟩ := @ih [] (position.advance (text ++
      (Delimiters.standard.opening.toList ++ (" end ".toList ++
        Delimiters.standard.closing.toList)))) rfl
    obtain ⟨finish, reads⟩ := parse_end
      (position.advance (text ++ Delimiters.standard.opening.toList))
    refine ⟨.tag " end ".toList (position.advance (text ++ Delimiters.standard.opening.toList)) ::
      closing, ?_, by rw [List.length_cons, size], ?_⟩
    · have whole : ends (count + 1) = Delimiters.standard.opening.toList ++ (" end ".toList ++
          (Delimiters.standard.closing.toList ++ ends count)) := by
        rw [ends, List.replicate_succ, List.flatten_cons]
        rfl
      rw [whole, splitFrom_append opened (isFirm_end _)]
      rw [List.nil_append] at cut
      rw [cut]
      rfl
    · intro chunk member
      rcases List.mem_cons.mp member with rfl | later
      · exact ⟨_, _, finish, rfl, reads⟩
      · exact areEnds chunk later

end Chunk

namespace Document

open Chunk (CutOff ends writtenAll)

variable {source : String} {chunks firm before after : List Chunk} {text content : List Char}
  {position : Position} {outline : Outline} {error : SyntaxError}

/-- Chunks that are taken in make a template when the open blocks are closed behind them. -/
theorem exists_parse_ends (cutOff : CutOff .standard .origin firm)
    (opened : Text.splitFirst? Delimiters.standard.opening.toList
      (text ++ Delimiters.standard.opening.toList) = some (text, []))
    (folded : (firm ++ Chunk.ofText text).foldlM (Outline.step .standard) .start = .ok outline) :
    ∃ document, parse .standard (String.ofList
      (writtenAll .standard (firm ++ Chunk.ofText text) ++ ends outline.blocks.length)) =
        .ok document := by
  obtain ⟨closing, cut, size, areEnds⟩ := Chunk.splitFrom_ends outline.blocks.length
    (Position.origin.advance (writtenAll .standard firm)) opened
  obtain ⟨nodes, closed⟩ := Outline.folded_ends areEnds size
  have whole := cutOff (text ++ ends outline.blocks.length)
  rw [cut] at whole
  refine ⟨⟨nodes.reverse⟩, parse_eq_ok_iff_folded.mpr
    ⟨firm ++ (Chunk.ofText text ++ closing), nodes, ?_, ?_, rfl⟩⟩
  · rw [Chunk.split, String.toList_ofList, Chunk.writtenAll_append, Chunk.writtenAll_ofText,
      List.append_assoc]
    exact whole
  · rw [← List.append_assoc]
    exact Outline.folded_append_iff.mpr ⟨outline, folded, closed⟩

/-- The chunks in front of a tag make a template with an end for every open block. -/
theorem exists_parse_before
    (cut : Chunk.split .standard source = .ok (before ++ .tag content position :: after))
    (folded : before.foldlM (Outline.step .standard) .start = .ok outline) :
    ∃ document, parse .standard (String.ofList
      (writtenAll .standard before ++ ends outline.blocks.length)) = .ok document := by
  obtain ⟨firm, text, rfl, cutOff, left⟩ := Chunk.exists_cutOff cut
    fun _ _ member => Outline.exists_tag_of_mem_folded folded member
  rw [Chunk.writtenAll_tag] at left
  exact exists_parse_ends cutOff (Chunk.splitFrom_inversion left).1 folded

/-- All chunks make a template with an end for every open block, unless the last brace would open
another tag. -/
theorem exists_parse_closed (cut : Chunk.split .standard source = .ok chunks)
    (folded : chunks.foldlM (Outline.step .standard) .start = .ok outline)
    (apart : source.toList.getLast? ≠ some '{') :
    ∃ document, parse .standard (source ++ String.ofList (ends outline.blocks.length)) =
      .ok document := by
  obtain ⟨firm, text, rfl, cutOff, whole, absent, last⟩ := Chunk.exists_cutOff_all cut
    fun _ _ member => Outline.exists_tag_of_mem_folded folded member
  have noBrace : text.getLast? ≠ some '{' := fun brace => apart (last '{' brace)
  have closed := exists_parse_ends cutOff (Text.splitFirst?_append [] absent noBrace) folded
  rwa [Chunk.writtenAll_append, Chunk.writtenAll_ofText, ← whole, String.ofList_append,
    String.ofList_toList] at closed

/-- No template starts with chunks of which the last one is refused because of the blocks that are
open in front of it. -/
theorem exists_error_of_starts
    (cut : Chunk.split .standard source = .ok (before ++ .tag content position :: after))
    (folded : before.foldlM (Outline.step .standard) .start = .ok outline)
    (refused : outline.step .standard (.tag content position) = .error error)
    (structural : error.fault.code ∈ SyntaxFault.structuralCodes) (longer : String)
    (starts : writtenAll .standard (before ++ [.tag content position]) <+: longer.toList) :
    ∃ failure, parse .standard longer = .error failure := by
  -- The tag can be read, so it is cut off like the chunks in front of it.
  obtain ⟨tag, reads⟩ : ∃ tag, Tag.parse .standard content position = .ok tag := by
    rcases bind_eq_error_iff.mp refused with unread | ⟨tag, reads, -⟩
    · have ofTag := (Tag.place_of_parse_eq_error unread (positive_of_split cut)).1
      exact absurd structural (SyntaxFault.code_of_isOfTag ofTag).1
    · exact ⟨tag, reads⟩
  obtain ⟨firm, text, rfl, firmly, left⟩ := Chunk.exists_cutOff cut
    fun _ _ member => Outline.exists_tag_of_mem_folded folded member
  rw [Chunk.writtenAll_tag] at left
  obtain ⟨opened, same, closed, -⟩ := Chunk.splitFrom_inversion left
  have cutOff := firmly.append (Chunk.cutOff_tag opened (Chunk.isFirm_of_parse reads closed))
  rw [← same, ← List.append_assoc] at cutOff
  obtain ⟨tail, whole⟩ := starts
  cases parsed : parse .standard longer with
  | error failure => exact ⟨failure, rfl⟩
  | ok document =>
    obtain ⟨chunks, nodes, found, taken, -⟩ := parse_eq_ok_iff_folded.mp parsed
    rw [Chunk.split, ← whole, cutOff] at found
    obtain ⟨others, -, same⟩ := bind_eq_ok_iff.mp found
    obtain rfl := Except.ok.inj same
    rw [List.append_assoc, List.singleton_append, Outline.folded_eq_error folded refused] at taken
    cases taken

/-- When a template that can be cut is refused, the first tag that cannot be right is to blame. What
stands in front of that tag can be taken in, and it is accepted with an end for every block that is
open there; and when the tag is refused because of these blocks, no template starts with the text up
to and including it. A template is refused for a block that is not closed only when all its tags can
be taken in: with an end for every open block it is accepted, unless its last brace would open
another tag; and the error is at the innermost open block, which has been open since its tag. -/
theorem blames_first_tag (cut : Chunk.split .standard source = .ok chunks)
    (refused : parse .standard source = .error error) :
    (error.fault.code ≠ 226 → ∃ before content position after outline,
      chunks = before ++ .tag content position :: after ∧
      before.foldlM (Outline.step .standard) .start = .ok outline ∧
      outline.step .standard (.tag content position) = .error error ∧
      writtenAll .standard before <+: source.toList ∧
      (∃ document, parse .standard (String.ofList
        (writtenAll .standard before ++ ends outline.blocks.length)) = .ok document) ∧
      (error.fault.code ∈ SyntaxFault.structuralCodes → ∀ longer : String,
        writtenAll .standard (before ++ [.tag content position]) <+: longer.toList →
          ∃ failure, parse .standard longer = .error failure)) ∧
    (error.fault.code = 226 → ∃ outline block around,
      chunks.foldlM (Outline.step .standard) .start = .ok outline ∧
      outline.blocks = block :: around ∧
      (source.toList.getLast? ≠ some '{' → ∃ document,
        parse .standard (source ++ String.ofList (ends outline.blocks.length)) = .ok document) ∧
      error.position = block.position ∧
      ∃ earlier content position later, chunks = earlier ++ .tag content position :: later ∧
        Outline.Opens .standard earlier content position later block around) := by
  cases refusal refused with
  | uncut missing =>
    rw [cut] at missing
    cases missing
  | @tag before after content position outline found folded refused =>
    obtain rfl := Except.ok.inj (cut.symm.trans found)
    have starts : writtenAll .standard before <+: source.toList := by
      rw [(source_eq_of_split cut).1]
      exact List.prefix_append _ _
    have notBlock := (Outline.place_of_step_eq_error refused (positive_of_split cut)).1.2
    exact ⟨fun _ => ⟨before, content, position, after, outline, rfl, folded, refused, starts,
      exists_parse_before cut folded, exists_error_of_starts cut folded refused⟩,
      fun isBlock => absurd isBlock notBlock⟩
  | @block chunks nodes block around found folded left =>
    obtain rfl := Except.ok.inj (cut.symm.trans found)
    subst left
    exact ⟨fun other => absurd rfl other, fun _ => ⟨_, block, around, folded, rfl,
      exists_parse_closed cut folded, rfl,
      @Outline.exists_opens_of_folded _ _ _ [] around block folded rfl⟩⟩

/-- A branch that its block does not have, behind a header and a text, and the same template without
it, whose block is left open. -/
theorem blames_first_tag_sample :
    let unclosed := "\x7b\x7b if a \x7d\x7dx"
    let source := unclosed ++ "\x7b\x7b empty \x7d\x7dy"
    let chunks : List Chunk := [.tag " if a ".toList ⟨1, 3⟩, .text ['x']]
    let later : List Chunk := [.tag " empty ".toList ⟨1, 14⟩, .text ['y']]
    let fault := SyntaxFault.unterminatedBlock .conditional "\x7b\x7b" "\x7d\x7d"
    (Chunk.split .standard source = .ok (chunks ++ later) ∧
      parse .standard source = .error ⟨.emptyInConditional, ⟨1, 15⟩⟩ ∧
      ∃ before, writtenAll .standard before <+: source.toList ∧ ∃ count document,
        parse .standard (String.ofList (writtenAll .standard before ++ ends count)) = .ok document) ∧
      Chunk.split .standard unclosed = .ok chunks ∧
      parse .standard unclosed = .error ⟨fault, ⟨1, 4⟩⟩ ∧
      ∃ count document, parse .standard (unclosed ++ String.ofList (ends count)) = .ok document := by
  intro unclosed source chunks later fault
  have cut : Chunk.split .standard source = .ok (chunks ++ later) := by decide +kernel
  have refused : parse .standard source = .error ⟨.emptyInConditional, ⟨1, 15⟩⟩ :=
    eq_error_iff.mpr (by decide +kernel)
  have cutOpen : Chunk.split .standard unclosed = .ok chunks := by decide +kernel
  have left : parse .standard unclosed = .error ⟨fault, ⟨1, 4⟩⟩ :=
    eq_error_iff.mpr (by decide +kernel)
  obtain ⟨before, -, -, -, outline, -, -, -, starts, completed, -⟩ :=
    (blames_first_tag cut refused).1 (by decide)
  obtain ⟨unfinished, -, -, -, -, closed, -⟩ := (blames_first_tag cutOpen left).2 rfl
  exact ⟨⟨cut, refused, before, starts, _, completed⟩, cutOpen, left, _, closed (by decide)⟩

end Document

end Stencil
