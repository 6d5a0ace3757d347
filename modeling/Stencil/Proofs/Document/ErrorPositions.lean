import Stencil.Proofs.Document.Chunks
import Stencil.Proofs.Document.Sections
import Stencil.Proofs.Outline.Progress

/-!
# Where syntax errors are

Every error of a template points into the tag it is about. A tag that is never closed is reported
at its opening marker, a tag that is refused within its content, in front of what the fault names,
and a block that is never closed at the first character of the tag that opened it.
-/

namespace Stencil

namespace SyntaxFault

/-- The codes of the faults a tag has because of the blocks that are open in front of it. -/
def structuralCodes : List Nat := [220, 221, 222, 223, 224, 225, 230]

/-- A fault within a tag has no code of a fault between tags. -/
theorem code_of_isOfTag {fault : SyntaxFault} (ofTag : fault.isOfTag = true) :
    fault.code ∉ structuralCodes ∧ fault.code ≠ 101 ∧ fault.code ≠ 226 := by
  revert ofTag
  cases fault <;> simp [isOfTag, code, structuralCodes]

/-- A fault between tags names nothing that stands in the tag. -/
theorem standsAt_of_structural {fault : SyntaxFault} (structural : fault.code ∈ structuralCodes)
    (text : List Char) : fault.StandsAt text := by
  revert structural
  cases fault <;> simp [StandsAt, code, structuralCodes]

end SyntaxFault

namespace Outline

variable {delimiters : Delimiters} {outline : Outline} {content : List Char} {position : Position}
  {error : SyntaxError}

/-- A part that cannot be continued is refused for the blocks around it. -/
theorem code_of_continued_eq_error {part : OpenPart} {body : List Node} {branch : Branch}
    {fault : SyntaxFault} (refused : part.continued body branch = .error fault) :
    fault.code ∈ SyntaxFault.structuralCodes := by
  cases part <;> cases branch <;> cases refused <;> simp only [SyntaxFault.code] <;> decide

/-- What a tag says is refused at the position of the tag, for the blocks around it. -/
theorem place_of_applyTag_eq_error {tag : Tag} {place : Position} (stands : tag = tag.moveTo place)
    (refused : outline.applyTag delimiters tag = .error error) :
    error.position = place ∧ error.fault.code ∈ SyntaxFault.structuralCodes := by
  rw [stands] at refused
  cases tag with
  | comment | output => cases refused
  | opening header position =>
    rw [Tag.moveTo, applyTag] at refused
    split at refused
    · cases refused
      exact ⟨rfl, by simp only [SyntaxFault.code]; decide⟩
    · cases refused
  | continuation branch position =>
    rw [Tag.moveTo, applyTag] at refused
    split at refused
    · cases refused
      exact ⟨rfl, by simp only [SyntaxFault.code]; decide⟩
    · split at refused
      · cases refused
      · rename_i fault fails
        cases refused
        exact ⟨rfl, code_of_continued_eq_error fails⟩
  | closing position =>
    rw [Tag.moveTo, applyTag] at refused
    split at refused
    · cases refused
      exact ⟨rfl, by simp only [SyntaxFault.code]; decide⟩
    · cases refused

/-- A tag that is refused is refused within its content, behind which there is only a margin, in
front of what the fault names. -/
theorem place_of_step_eq_error
    (refused : outline.step delimiters (.tag content position) = .error error)
    (positive : 0 < position.column) :
    (error.fault.code ≠ 101 ∧ error.fault.code ≠ 226) ∧ ∃ earlier later back,
      content = earlier ++ (later ++ back) ∧
        Text.IsMargin delimiters.continuing.toList back ∧
          error.position = position.advance earlier ∧ error.fault.StandsAt later := by
  rcases bind_eq_error_iff.mp refused with unread | ⟨tag, reads, unfit⟩
  · obtain ⟨ofTag, place⟩ := Tag.place_of_parse_eq_error unread positive
    exact ⟨(SyntaxFault.code_of_isOfTag ofTag).2, place⟩
  · obtain ⟨placed, structural⟩ := place_of_applyTag_eq_error (Tag.parse_moveTo reads).1 unfit
    refine ⟨⟨?_, ?_⟩, content.takeWhile Text.isBlank, content.dropWhile Text.isBlank, [], ?_,
      .blanks (by simp), placed, SyntaxFault.standsAt_of_structural structural _⟩
    · intro same
      rw [same] at structural
      revert structural
      decide
    · intro same
      rw [same] at structural
      revert structural
      decide
    · rw [List.append_nil, List.takeWhile_append_dropWhile]

end Outline

namespace Document

variable {delimiters : Delimiters} {source : String} {error : SyntaxError}

/-- A tag that is read holds more than blanks. -/
theorem exists_cons_of_parse {content : List Char} {position : Position} {tag : Tag}
    (reads : Tag.parse delimiters content position = .ok tag) :
    ∃ first rest, content.dropWhile Text.isBlank = first :: rest ∧ Text.isBlank first = false := by
  cases left : content.dropWhile Text.isBlank with
  | nil =>
    rw [Tag.parse, List.span_eq_takeWhile_dropWhile, left] at reads
    cases reads
  | cons first rest =>
    have solid := Token.head?_dropWhile Text.isBlank content
    rw [left] at solid
    exact ⟨first, rest, rfl, by simpa using solid⟩

/-- The tags of a template that is cut stand in it where they are located. -/
theorem source_eq_of_split {before after : List Chunk} {content : List Char} {position : Position}
    (cut : Chunk.split delimiters source = .ok (before ++ .tag content position :: after)) :
    source.toList = Chunk.writtenAll delimiters before ++ (delimiters.opening.toList ++
        (content ++ (delimiters.closing.toList ++ Chunk.writtenAll delimiters after))) ∧
      position = Position.origin.advance
        (Chunk.writtenAll delimiters before ++ delimiters.opening.toList) := by
  have covers := Chunk.splitFrom_cases delimiters .origin source.toList
  rw [Chunk.split] at cut
  rw [cut] at covers
  refine ⟨?_, covers.position_eq rfl⟩
  rw [← covers.writtenAll_eq]
  simp [Chunk.writtenAll, Chunk.written]

/-- The content of a tag of a template that is cut stands in a column. -/
theorem positive_of_split {before after : List Chunk} {content : List Char} {position : Position}
    (cut : Chunk.split delimiters source = .ok (before ++ .tag content position :: after)) :
    0 < position.column := by
  rw [(source_eq_of_split cut).2]
  exact Position.origin.advance_column_pos Nat.one_pos _

/-- Where an error of a template is. It is reported as a syntax error with its position. When a tag
is never closed that is the position of its opening marker, behind which there is no closing one.
All other errors are within a tag: behind its opening marker and an earlier part of its content, in
front of a later part and a margin. What the fault names stands at the front of that later part: the
character that is unexpected, the quote of a string literal that is not closed, the first digit of a
number, the name of a function. A block that is never closed is reported at the first character of
its opening tag that is no blank, and any other fault at the first tag that is refused. -/
theorem error_points_into_tag (delimiters : Delimiters) (source : String) (error : SyntaxError)
    (refused : parse delimiters source = .error error) :
    (∃ report, error.failure = .templateSyntax report error.position ∧
      report.code = some error.fault.code) ∧
    (error.fault.code = 101 → ∃ before after,
      source.toList = before ++ (delimiters.opening.toList ++ after) ∧
        Text.occursIn delimiters.closing.toList after = false ∧
          error.position = Position.origin.advance before) ∧
    (error.fault.code ≠ 101 → ∃ before content position after earlier later back,
      Chunk.split delimiters source = .ok (before ++ .tag content position :: after) ∧
      content = earlier ++ (later ++ back) ∧ Text.IsMargin delimiters.continuing.toList back ∧
      let passed := Chunk.writtenAll delimiters before ++ (delimiters.opening.toList ++ earlier)
      source.toList = passed ++ (later ++ (back ++
        (delimiters.closing.toList ++ Chunk.writtenAll delimiters after))) ∧
      error.position = Position.origin.advance passed ∧ error.fault.StandsAt later ∧
      if error.fault.code = 226 then
        (∀ character ∈ earlier, Text.isBlank character = true) ∧
          (∃ first rest, later = first :: rest ∧ Text.isBlank first = false) ∧
            ∃ header, Tag.parse delimiters content position = .ok (.opening header error.position)
      else ∃ outline, before.foldlM (Outline.step delimiters) .start = .ok outline ∧
        outline.step delimiters (.tag content position) = .error error) := by
  refine ⟨⟨_, rfl, rfl⟩, ?_⟩
  cases refusal refused with
  | uncut missing =>
    have reported := Chunk.splitFrom_cases delimiters .origin source.toList
    rw [Chunk.split] at missing
    rw [missing] at reported
    obtain ⟨before, after, whole, absent, rfl⟩ := reported
    rw [List.append_assoc] at whole
    exact ⟨fun _ => ⟨before, after, whole, absent, rfl⟩, fun other => absurd rfl other⟩
  | @tag before after content position outline cut folded refused =>
    obtain ⟨whole, located⟩ := source_eq_of_split cut
    obtain ⟨⟨notUncut, notBlock⟩, earlier, later, back, parts, margin, placed, stands⟩ :=
      Outline.place_of_step_eq_error refused (positive_of_split cut)
    refine ⟨fun same => absurd same notUncut, fun _ => ⟨before, content, position, after, earlier,
      later, back, cut, parts, margin, ?_, ?_, stands, ?_⟩⟩
    · rw [whole, parts]
      simp only [List.append_assoc]
    · rw [placed, located, ← Position.advance_append, List.append_assoc]
    · rw [if_neg notBlock]
      exact ⟨outline, folded, refused⟩
  | @block chunks nodes block around cut folded left =>
    obtain ⟨before, content, position, after, rfl, opens⟩ :=
      @Outline.exists_opens_of_folded delimiters _ _ [] around block folded rfl
    obtain ⟨whole, located⟩ := source_eq_of_split cut
    obtain ⟨header, reads⟩ := opens.reads
    have placed : block.position = position.advance (content.takeWhile Text.isBlank) :=
      (Tag.opening.inj (Tag.parse_moveTo reads).1).2
    have parts : content =
        content.takeWhile Text.isBlank ++ (content.dropWhile Text.isBlank ++ []) := by
      rw [List.append_nil, List.takeWhile_append_dropWhile]
    subst left
    have notUncut : 226 ≠ 101 := by decide
    refine ⟨fun same => absurd same notUncut, fun _ => ⟨before, content, position, after, _, _, [],
      cut, parts, .blanks (by simp), ?_, ?_, trivial, ?_⟩⟩
    · rw [whole]
      conv_lhs => rw [parts]
      simp only [List.append_assoc]
    · rw [← List.append_assoc, Position.advance_append, ← located]
      exact placed
    · exact ⟨fun _ member => List.mem_takeWhile_imp member, exists_cons_of_parse reads, header,
        reads⟩

/-- A function that does not exist, behind a line feed: its name stands where the error is. -/
theorem error_points_into_tag_sample :
    let source := "a\n\x7b\x7b 1 + ff(2) \x7d\x7d"
    let error : SyntaxError := ⟨.unknownFunction "ff", ⟨2, 8⟩⟩
    parse .standard source = .error error ∧ ∃ passed later rest,
      source.toList = passed ++ (later ++ rest) ∧
        error.position = Position.origin.advance passed ∧ error.fault.StandsAt later := by
  intro source error
  have refused : parse .standard source = .error error := eq_error_iff.mpr (by decide +kernel)
  obtain ⟨-, -, inside⟩ := error_points_into_tag .standard source error refused
  obtain ⟨_, _, _, _, _, later, _, -, -, -, whole, placed, stands, -⟩ := inside (by decide)
  exact ⟨refused, _, later, _, whole, placed, stands⟩

end Document

end Stencil
