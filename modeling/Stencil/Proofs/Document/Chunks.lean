import Mathlib.Data.List.Basic
import Stencil.Template.Chunk

/-!
# The chunks of a template

Cutting loses nothing: the chunks of a template, written one after the other, are the template, and
every tag is located where its content starts. Texts are as long as they can be: a text ends where
the first opening marker behind it starts, or at the end of a template that holds no more of them. A
template that cannot be cut has an opening marker behind which there is no closing one, and the
error is reported there.
-/

namespace Stencil

namespace Text

/-- The first occurrence of a piece is the first one also where the text ends behind it. -/
theorem splitFirst?_append_self {piece text before after : List Char}
    (found : splitFirst? piece text = some (before, after)) :
    splitFirst? piece (before ++ piece) = some (before, []) := by
  have whole := eq_of_splitFirst? found
  have here (rest : List Char) : dropPrefix? piece (piece ++ rest) = some rest :=
    dropPrefix?_eq_some_iff.mpr rfl
  induction text generalizing before with
  | nil =>
    obtain ⟨rfl, rfl, -⟩ : before = [] ∧ piece = [] ∧ after = [] := by simpa using whole.symm
    rfl
  | cons character rest ih =>
    rw [splitFirst?] at found
    split at found
    · cases found
      cases piece with
      | nil => rfl
      | cons first piece =>
        have matched := here []
        rw [List.append_nil] at matched
        rw [List.nil_append, splitFirst?, matched]
    · rename_i notHere
      obtain ⟨⟨earlier, tail⟩, later, same⟩ := Option.map_eq_some_iff.mp found
      cases same
      have shorter : dropPrefix? piece (character :: (earlier ++ piece)) = none := by
        -- A match in the shorter text would be one in the whole text.
        cases matched : dropPrefix? piece (character :: (earlier ++ piece)) with
        | none => rfl
        | some others =>
          have starts := dropPrefix?_eq_some_iff.mp matched
          have longer : character :: rest = piece ++ (others ++ after) := by
            rw [whole, List.cons_append, starts, List.append_assoc]
          rw [longer, here] at notHere
          cases notHere
      rw [List.cons_append, splitFirst?, shorter]
      dsimp only
      rw [ih later (eq_of_splitFirst? later)]
      rfl

end Text

namespace Chunk

variable {delimiters : Delimiters}

/-- How a chunk is written: a text as itself, and a tag between its markers. -/
def written (delimiters : Delimiters) : Chunk → List Char
  | .text content => content
  | .tag content _ => delimiters.opening.toList ++ content ++ delimiters.closing.toList

/-- How chunks are written, one after the other. -/
def writtenAll (delimiters : Delimiters) (chunks : List Chunk) : List Char :=
  chunks.flatMap (written delimiters)

/-- A text may stand in front of chunks when it is not empty and the opening marker occurs first
behind it: with a tag, or not at all when nothing follows. -/
def MayPrecede (opening content : List Char) : List Chunk → Prop
  | [] => content ≠ [] ∧ Text.occursIn opening content = false
  | .text _ :: _ => False
  | .tag _ _ :: _ => content ≠ [] ∧
    Text.splitFirst? opening (content ++ opening) = some (content, [])

/-- The chunks of a text that starts at a position, each tag with the text in front of it. -/
inductive Covers (delimiters : Delimiters) : Position → List Chunk → List Char → Prop where
  /-- A text without an opening marker. -/
  | last {position : Position} {rest : List Char}
    (absent : Text.occursIn delimiters.opening.toList rest = false) :
    Covers delimiters position (ofText rest) rest
  /-- A text up to its first opening marker, the tag there, and what follows. -/
  | tag {position : Position} {before content rest : List Char} {chunks : List Chunk}
    (first : Text.splitFirst? delimiters.opening.toList (before ++ delimiters.opening.toList) =
      some (before, []))
    (others : Covers delimiters (position.advance (before ++ delimiters.opening.toList ++ content ++
      delimiters.closing.toList)) chunks rest) :
    Covers delimiters position
      (ofText before ++
        .tag content (position.advance (before ++ delimiters.opening.toList)) :: chunks)
      (before ++ delimiters.opening.toList ++ content ++ delimiters.closing.toList ++ rest)

/-- A text is written as itself, whether or not it is empty. -/
theorem writtenAll_ofText (content : List Char) :
    writtenAll delimiters (ofText content) = content := by
  cases content with
  | nil => rfl
  | cons first rest => exact List.append_nil _

/-- Chunks that cover a text are written as it. -/
theorem Covers.writtenAll_eq {position : Position} {chunks : List Chunk} {source : List Char}
    (covers : Covers delimiters position chunks source) :
    writtenAll delimiters chunks = source := by
  induction covers with
  | last absent => exact writtenAll_ofText _
  | @tag position before content rest chunks first others ih =>
    have split : writtenAll delimiters (ofText before ++
        .tag content (position.advance (before ++ delimiters.opening.toList)) :: chunks) =
        writtenAll delimiters (ofText before) ++
          (delimiters.opening.toList ++ content ++ delimiters.closing.toList ++
            writtenAll delimiters chunks) :=
      List.flatMap_append
    rw [split, writtenAll_ofText, ih]
    simp only [List.append_assoc]

/-- What stands in a row of a text and a tag in front of others: the text, the tag or one of the
others. -/
theorem eq_append_cases {content : List Char} {tag chunk : Chunk} {others before after : List Chunk}
    (same : ofText content ++ tag :: others = before ++ chunk :: after) :
    (content ≠ [] ∧ before = [] ∧ chunk = .text content ∧ after = tag :: others) ∨
      (before = ofText content ∧ chunk = tag ∧ after = others) ∨
        ∃ later, before = ofText content ++ tag :: later ∧ others = later ++ chunk :: after := by
  rcases List.append_eq_append_iff.mp same with ⟨later, rfl, rest⟩ | ⟨earlier, filled, rest⟩
  · cases later with
    | nil =>
      cases rest
      exact Or.inr (Or.inl ⟨List.append_nil _, rfl, rfl⟩)
    | cons first later =>
      cases rest
      exact Or.inr (Or.inr ⟨later, rfl, rfl⟩)
  · cases content with
    | nil =>
      obtain ⟨rfl, rfl⟩ : before = [] ∧ earlier = [] := by simpa [ofText] using filled.symm
      cases rest
      exact Or.inr (Or.inl ⟨rfl, rfl, rfl⟩)
    | cons first content =>
      cases before with
      | nil =>
        obtain rfl : earlier = [.text (first :: content)] := filled.symm
        cases rest
        exact Or.inl ⟨List.cons_ne_nil _ _, rfl, rfl, rfl⟩
      | cons text before =>
        obtain ⟨rfl, rfl, rfl⟩ : .text (first :: content) = text ∧ before = [] ∧ earlier = [] := by
          simpa [ofText] using filled
        cases rest
        exact Or.inr (Or.inl ⟨rfl, rfl, rfl⟩)

/-- A text among chunks that cover a text may stand in front of those behind it. -/
theorem Covers.mayPrecede {position : Position} {chunks before after : List Chunk}
    {source content : List Char} (covers : Covers delimiters position chunks source)
    (inside : chunks = before ++ .text content :: after) :
    MayPrecede delimiters.opening.toList content after := by
  induction covers generalizing before with
  | @last position rest absent =>
    cases rest with
    | nil => simp [ofText] at inside
    | cons first rest =>
      obtain ⟨rfl, rfl, rfl⟩ : before = [] ∧ content = first :: rest ∧ after = [] := by
        cases before with
        | nil => simpa [ofText, eq_comm] using inside
        | cons text before => simp [ofText] at inside
      exact ⟨List.cons_ne_nil _ _, absent⟩
  | tag first others ih =>
    rcases eq_append_cases inside with ⟨filled, -, same, rfl⟩ | ⟨-, same, -⟩ | ⟨later, -, rest⟩
    · cases same
      exact ⟨filled, first⟩
    · cases same
    · exact ih rest

/-- A tag among chunks that cover a text is located behind what is written before its content. -/
theorem Covers.position_eq {start position : Position} {chunks before after : List Chunk}
    {source content : List Char} (covers : Covers delimiters start chunks source)
    (inside : chunks = before ++ .tag content position :: after) :
    position = start.advance (writtenAll delimiters before ++ delimiters.opening.toList) := by
  induction covers generalizing before with
  | @last start rest absent =>
    cases rest with
    | nil => simp [ofText] at inside
    | cons first rest => cases before <;> simp [ofText] at inside
  | @tag start text found rest chunks first others ih =>
    rcases eq_append_cases inside with ⟨-, -, same, -⟩ | ⟨rfl, same, -⟩ | ⟨later, rfl, rest⟩
    · cases same
    · cases same
      rw [writtenAll_ofText]
    · have split : writtenAll delimiters (ofText text ++
          .tag found (start.advance (text ++ delimiters.opening.toList)) :: later) =
          writtenAll delimiters (ofText text) ++
            (delimiters.opening.toList ++ found ++ delimiters.closing.toList ++
              writtenAll delimiters later) :=
        List.flatMap_append
      rw [ih rest, split, writtenAll_ofText, ← Position.advance_append]
      simp only [List.append_assoc]

/-- What stands before a marker outside quotes, the marker and what stands after it are the text. -/
theorem eq_of_splitOutside? {marker text before after : List Char} {quoting : Quoting}
    (found : splitOutside? marker quoting text = some (before, after)) :
    text = before ++ marker ++ after := by
  induction text generalizing quoting before with
  | nil => cases found
  | cons character rest ih =>
    rw [splitOutside?] at found
    split at found
    · rename_i tail matched
      cases found
      split at matched
      · simpa using Text.dropPrefix?_eq_some_iff.mp matched
      · cases matched
    · obtain ⟨⟨earlier, tail⟩, later, same⟩ := Option.map_eq_some_iff.mp found
      cases same
      rw [ih later]
      rfl

/-- The content of a tag, its closing marker and what follows are the text. -/
theorem eq_of_splitTag? {closing text content rest : List Char}
    (found : splitTag? closing text = some (content, rest)) :
    text = content ++ closing ++ rest := by
  rw [splitTag?] at found
  split at found
  · exact Text.eq_of_splitFirst? found
  · split at found
    · rename_i outside
      cases found
      exact eq_of_splitOutside? outside
    · exact Text.eq_of_splitFirst? found

/-- A tag that is not closed has no closing marker behind it, not even within quotes. -/
theorem not_occursIn_of_splitTag? {closing text : List Char}
    (missing : splitTag? closing text = none) : Text.occursIn closing text = false := by
  rw [Text.occursIn, Option.isSome_eq_false_iff, Option.isNone_iff_eq_none]
  rw [splitTag?] at missing
  split at missing
  · exact missing
  · split at missing
    · cases missing
    · exact missing

/-- A text that is cut is covered by its chunks, and one that is not has an opening marker with no
closing one behind it, where the error is. -/
theorem splitFrom_cases (delimiters : Delimiters) (position : Position) (source : List Char) :
    match splitFrom delimiters position source with
    | .ok chunks => Covers delimiters position chunks source
    | .error error => ∃ before after,
      source = before ++ delimiters.opening.toList ++ after ∧
        Text.occursIn delimiters.closing.toList after = false ∧
          error = ⟨.unterminatedTag delimiters.closing, position.advance before⟩ := by
  fun_induction splitFrom delimiters position source with
  | case1 position source absent =>
    refine .last ?_
    rw [Text.occursIn, absent]
    rfl
  | case2 position source before after opened tagPosition missing =>
    exact ⟨before, after, Text.eq_of_splitFirst? opened, not_occursIn_of_splitTag? missing, rfl⟩
  | case3 position source before after opened tagPosition contentPosition content rest closed
      shorter next ih =>
    have whole : source = before ++ delimiters.opening.toList ++ content ++
        delimiters.closing.toList ++ rest := by
      rw [Text.eq_of_splitFirst? opened, eq_of_splitTag? closed]
      simp only [List.append_assoc]
    have placed : next = position.advance (before ++ delimiters.opening.toList ++ content ++
        delimiters.closing.toList) := by
      simp only [Position.advance_append, next, contentPosition, tagPosition]
    rw [placed] at ih ⊢
    cases cut : splitFrom delimiters (position.advance (before ++ delimiters.opening.toList ++
        content ++ delimiters.closing.toList)) rest with
    | ok chunks =>
      rw [cut] at ih
      rw [whole]
      have covers := Covers.tag (Text.splitFirst?_append_self opened) ih
      rwa [Position.advance_append position before] at covers
    | error error =>
      rw [cut] at ih
      obtain ⟨earlier, later, same, missing, rfl⟩ := ih
      refine ⟨before ++ delimiters.opening.toList ++ content ++ delimiters.closing.toList ++
        earlier, later, ?_, missing, ?_⟩
      · rw [whole, same]
        simp only [List.append_assoc]
      · rw [← Position.advance_append]
  | case4 position source before after opened tagPosition contentPosition content rest closed
      longer =>
    have less := Text.length_of_splitFirst? delimiters.opening_ne opened
    have enough := congrArg List.length (eq_of_splitTag? closed)
    simp only [List.length_append] at enough
    omega

/-- What cutting a template comes to. The chunks give the template back. No text among them is
empty, no two texts stand side by side, the opening marker occurs first where a text ends and a tag
follows, and nowhere in a last text. Every tag is located where its content starts. A template that
is not cut has an opening marker behind which there is no closing one, and it is reported there,
with the code of a tag that does not end. -/
theorem split_lossless (delimiters : Delimiters) (source : String) :
    match split delimiters source with
    | .ok chunks =>
      writtenAll delimiters chunks = source.toList ∧
      (∀ before content after, chunks = before ++ .text content :: after →
        MayPrecede delimiters.opening.toList content after) ∧
      ∀ before content position after, chunks = before ++ .tag content position :: after →
        position =
          Position.origin.advance (writtenAll delimiters before ++ delimiters.opening.toList)
    | .error error => error.fault.code = 101 ∧ ∃ before after,
      source.toList = before ++ delimiters.opening.toList ++ after ∧
        Text.occursIn delimiters.closing.toList after = false ∧
          error.position = Position.origin.advance before := by
  have cases := splitFrom_cases delimiters .origin source.toList
  rw [split]
  cases cut : splitFrom delimiters .origin source.toList with
  | ok chunks =>
    rw [cut] at cases
    exact ⟨cases.writtenAll_eq, fun _ _ _ inside => cases.mayPrecede inside,
      fun _ _ _ _ inside => cases.position_eq inside⟩
  | error error =>
    rw [cut] at cases
    obtain ⟨before, after, whole, missing, rfl⟩ := cases
    exact ⟨rfl, before, after, whole, missing, rfl⟩

/-- Markers that hold a line feed or start alike: a tag with its closing marker within quotes is cut
out of two texts, and a tag that is not closed is reported at its opening marker. -/
theorem split_lossless_sample :
    let delimiters : Delimiters := ⟨"<\n", "<|", "<>", by decide, by decide, by decide, by decide,
      by decide, by decide⟩
    let content := ['\'', '<', '>', '\'']
    let chunks : List Chunk := [.text ['<'], .tag content ⟨2, 1⟩, .text ['y']]
    split delimiters "<<\n'<>'<>y" = .ok chunks ∧
      writtenAll delimiters chunks = "<<\n'<>'<>y".toList ∧
      MayPrecede delimiters.opening.toList ['<'] [.tag content ⟨2, 1⟩, .text ['y']] ∧
      ⟨2, 1⟩ = Position.origin.advance (writtenAll delimiters [.text ['<']] ++
        delimiters.opening.toList) ∧
      ∃ error, split delimiters "<<\n<" = .error error ∧ error.fault.code = 101 := by
  intro delimiters content chunks
  have cut : split delimiters "<<\n'<>'<>y" = .ok chunks := by decide +kernel
  have refused : split delimiters "<<\n<" =
      .error ⟨.unterminatedTag "<>", ⟨1, 2⟩⟩ := by decide +kernel
  have whole := split_lossless delimiters "<<\n'<>'<>y"
  have reported := split_lossless delimiters "<<\n<"
  rw [cut] at whole
  rw [refused] at reported
  exact ⟨cut, whole.1, whole.2.1 [] ['<'] _ rfl, whole.2.2 [.text ['<']] content _ _ rfl, _,
    refused, reported.1⟩

end Chunk

end Stencil
