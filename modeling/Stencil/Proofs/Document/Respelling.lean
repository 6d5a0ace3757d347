import Stencil.Proofs.Document.Joining
import Stencil.Proofs.Document.Spellings

/-!
# Templates with other spellings

Some tags of a template are written in other ways, each of them in the block that is open around
it. What is written is cut into the same texts and the tags that were put in, and these do to the
outline what the tags in their places did. The main statement is that the document is the same.
-/

namespace Stencil

/-! ## Respelled chunks -/

namespace Chunk

/-- The kinds of the blocks that are open behind a chunk, the innermost first. -/
def nesting (kinds : List BlockKind) : Chunk → List BlockKind
  | text _ => kinds
  | tag content position =>
    match Tag.parse .standard content position with
    | .ok (.opening header _) => (OpenPart.ofOpening header).kind :: kinds
    | .ok (.closing _) => kinds.tail
    | _ => kinds

/-- Chunks of which some tags are written in other ways, inside open blocks of some kinds. -/
inductive Respelled : List BlockKind → List Chunk → List Chunk → Prop
  /-- Nothing is left. -/
  | done (kinds : List BlockKind) : Respelled kinds [] []
  /-- A text is left as it is. -/
  | text {kinds : List BlockKind} {chunks others : List Chunk} (content : List Char)
    (rest : Respelled kinds chunks others) :
    Respelled kinds (.text content :: chunks) (.text content :: others)
  /-- A tag is replaced by one that says the same in the innermost block. -/
  | tag {kinds : List BlockKind} {chunks others : List Chunk} {content other : List Char}
    {position : Position} (place : Position)
    (alternative : Tag.Alternative kinds.head? content other)
    (rest : Respelled (nesting kinds (.tag content position)) chunks others) :
    Respelled kinds (.tag content position :: chunks) (.tag other place :: others)

variable {kinds : List BlockKind} {around : Option BlockKind} {chunks others : List Chunk}
  {source text content other : List Char} {position start : Position}

/-- A text in front of chunks stays in front of them. -/
theorem Respelled.of_ofText_append (respelled : Respelled kinds (ofText text ++ chunks) others) :
    ∃ more, others = ofText text ++ more ∧ Respelled kinds chunks more := by
  cases text with
  | nil => exact ⟨others, rfl, respelled⟩
  | cons first rest =>
    cases respelled with
    | text _ rest => exact ⟨_, rfl, rest⟩

/-- A text may be put in front of chunks. -/
theorem Respelled.ofText_append (text : List Char) (respelled : Respelled kinds chunks others) :
    Respelled kinds (ofText text ++ chunks) (ofText text ++ others) := by
  cases text with
  | nil => exact respelled
  | cons first rest => exact .text _ respelled

/-! ## Cutting what is written -/

/-- An alternative to a content is that content, or no comment. -/
theorem eq_or_not_isComment (alternative : Tag.Alternative around content other) :
    content = other ∨ isComment other = false := by
  rcases alternative with same | ⟨meaning, body, twin, -, also, -, ⟨leading, trailing⟩⟩
  · exact Or.inl same
  · obtain ⟨trimmed, noComment⟩ := also.edges
    refine Or.inr ?_
    rw [isComment_blanks_append _ leading, isComment, Text.trimStart]
    cases twin with
    | nil => cases trimmed
    | cons first others =>
      simp only [Tag.isTrimmed, Bool.and_eq_true, List.head?_cons, Option.any_some,
        Bool.not_eq_true'] at trimmed
      simpa [trimmed.1] using noComment

/-- An alternative to the content of a tag that is read is cut off whole, as that content is. -/
theorem isFirm_of_alternative {tag : Tag} {rest : List Char}
    (alternative : Tag.Alternative around content other)
    (reads : Tag.parse .standard content start = .ok tag)
    (cut : splitTag? Delimiters.standard.closing.toList
      (content ++ (Delimiters.standard.closing.toList ++ rest)) = some (content, rest)) :
    IsFirm .standard other := by
  rcases eq_or_not_isComment alternative with rfl | noComment
  · exact isFirm_of_parse reads cut
  · obtain ⟨image, alsoReads, -⟩ := alternative.parse_eq reads start
    obtain ⟨front, inner, back, frames⟩ :=
      (Tag.isComment_or_frames alsoReads).resolve_left (by simp [noComment])
    exact frames.splitTag?_eq

/-- What respelled chunks write is cut into the same texts and the tags that were put in. -/
theorem Respelled.exists_splitFrom (respelled : Respelled kinds chunks others)
    (cut : splitFrom .standard position source = .ok chunks)
    (read : ∀ content place, .tag content place ∈ chunks →
      ∃ tag, Tag.parse .standard content place = .ok tag) (place : Position) :
    ∃ twins, splitFrom .standard place (writtenAll .standard others) = .ok twins ∧
      Respelled kinds chunks twins := by
  induction size : chunks.length using Nat.strongRecOn
    generalizing kinds chunks others position source place with
  | ind size ih =>
    -- Either only a text is left, or a tag behind one: the text is cut off as before, because the
    -- opening marker still follows it, and the tag because it is firm.
    rw [← List.append_nil chunks] at cut
    obtain ⟨text, rfl | ⟨content, spot, later, rfl⟩⟩ := ofText_or_tag cut
    · rw [← List.append_nil (ofText text)] at respelled
      obtain ⟨more, rfl, ⟨⟩⟩ := respelled.of_ofText_append
      have whole := writtenAll_of_splitFrom cut
      rw [List.append_nil, writtenAll_ofText] at whole
      subst whole
      rw [List.append_nil] at cut
      rw [List.append_nil, writtenAll_ofText]
      refine ⟨ofText text, splitFrom_text (absent_of_splitFrom cut) place, ?_⟩
      have alone := Respelled.ofText_append text (.done kinds)
      rwa [List.append_nil] at alone
    · rw [List.append_nil] at cut
      obtain ⟨more, rfl, others⟩ := respelled.of_ofText_append
      cases others with
      | @tag _ _ remaining _ other _ _ alternative rest =>
        obtain ⟨opened, rfl, closed, further⟩ := splitFrom_inversion cut
        obtain ⟨tag, reads⟩ := read content _ (List.mem_append_right _ List.mem_cons_self)
        have firm := isFirm_of_alternative alternative reads closed
        obtain ⟨twins, again, onward⟩ := ih later.length
          (by simp only [← size, List.length_append, List.length_cons]; omega) rest further
          (fun inside at_ member => read inside at_ (by simp [member]))
          (place.advance (text ++ (Delimiters.standard.opening.toList ++
            (other ++ Delimiters.standard.closing.toList)))) rfl
        refine ⟨ofText text ++
            .tag other (place.advance (text ++ Delimiters.standard.opening.toList)) :: twins,
          ?_, Respelled.ofText_append text (.tag _ alternative onward)⟩
        rw [writtenAll_append, writtenAll_ofText, writtenAll_tag, splitFrom_append opened (firm _),
          again]
        rfl

end Chunk

/-! ## Taking in what is written -/

/-- A continued block is of the same kind. -/
theorem OpenPart.kind_of_continued {part next : OpenPart} {body : List Node} {branch : Branch}
    (continues : part.continued body branch = .ok next) : next.kind = part.kind := by
  cases part <;> cases branch <;> cases continues <;> rfl

/-- Every name of the last branch does to a block what the name for all blocks does. -/
theorem OpenPart.continued_of_isLast {part : OpenPart} {branch : Branch} (body : List Node)
    (isLast : branch.isLast (some part.kind) = true) :
    part.continued body branch = part.continued body .otherwise := by
  cases branch with
  | otherwise => rfl
  | bare => cases part <;> rfl
  | elif condition => cases isLast
  | empty =>
    have inLoop : part.kind = .loop := by simpa [Branch.isLast] using isLast
    cases part with
    | loop | empty => rfl
    | branch | otherwise | binding => cases inLoop

namespace Outline

variable {outline twin next : Outline} {base floor : List Node} {delimiters : Delimiters}

/-- The kinds of the blocks that are open, the innermost first. -/
def kinds (outline : Outline) : List BlockKind := outline.blocks.map fun block => block.part.kind

/-- A chunk that is taken in opens and closes the blocks that it says. -/
theorem kinds_of_step {chunk : Chunk} (stepped : outline.step .standard chunk = .ok next) :
    next.kinds = chunk.nesting outline.kinds := by
  cases chunk with
  | text content =>
    cases stepped
    rfl
  | tag content position =>
    obtain ⟨tag, reads, applied⟩ := bind_eq_ok_iff.mp stepped
    rw [Chunk.nesting, reads]
    cases tag with
    | comment | output =>
      cases applied
      rfl
    | opening header place =>
      rw [applyTag] at applied
      split at applied
      · cases applied
      · cases applied
        rfl
    | continuation branch place =>
      obtain ⟨nodes, blocks⟩ := outline
      cases blocks with
      | nil => cases applied
      | cons block around =>
        simp only [applyTag] at applied
        split at applied
        · rename_i part continues
          cases applied
          exact congrArg (· :: _) (OpenPart.kind_of_continued continues)
        · cases applied
    | closing place =>
      obtain ⟨nodes, blocks⟩ := outline
      cases blocks with
      | nil => cases applied
      | cons block around =>
        cases applied
        rfl

/-- The last branch under another name does the same. -/
theorem applyTag_last {branch other : Branch} (isLast : branch.isLast outline.kinds.head? = true)
    (alsoLast : other.isLast outline.kinds.head? = true) (position : Position) :
    outline.applyTag delimiters (.continuation other position) =
      outline.applyTag delimiters (.continuation branch position) := by
  obtain ⟨nodes, blocks⟩ := outline
  cases blocks with
  | nil => rfl
  | cons block around =>
    simp only [applyTag]
    rw [OpenPart.continued_of_isLast nodes.reverse isLast,
      OpenPart.continued_of_isLast nodes.reverse alsoLast]

/-- Tags that say the same in the innermost block do the same to parallel outlines. -/
theorem Parallel.applyTag_of_resembles (parallel : Parallel base floor outline twin)
    {tag image : Tag} (resembles : tag.Resembles outline.kinds.head? image)
    (applied : outline.applyTag delimiters tag = .ok next) :
    ∃ grown, twin.applyTag delimiters image = .ok grown ∧ Parallel base floor next grown := by
  cases resembles with
  | moved _ position => exact parallel.applyTag position applied
  | last isLast alsoLast position place =>
    rw [← applyTag_last isLast alsoLast] at applied
    exact parallel.applyTag place applied

/-- Respelled chunks are taken in as the chunks in their places. -/
theorem Parallel.folded_of_respelled {chunks others : List Chunk}
    (parallel : Parallel base floor outline twin)
    (respelled : Chunk.Respelled outline.kinds chunks others)
    (taken : chunks.foldlM (Outline.step .standard) outline = .ok next) :
    ∃ grown, others.foldlM (Outline.step .standard) twin = .ok grown ∧
      Parallel base floor next grown := by
  generalize nested : outline.kinds = kinds at respelled
  induction respelled generalizing outline twin with
  | done =>
    cases taken
    exact ⟨twin, rfl, parallel⟩
  | text content rest ih => exact ih (parallel.push _) taken nested
  | @tag kinds chunks others content other position place alternative rest ih =>
    subst nested
    rw [List.foldlM_cons] at taken
    obtain ⟨middle, stepped, later⟩ := bind_eq_ok_iff.mp taken
    obtain ⟨tag, reads, applied⟩ := bind_eq_ok_iff.mp stepped
    obtain ⟨image, alsoReads, resembles⟩ := alternative.parse_eq reads place
    obtain ⟨grown, moved, onward⟩ := parallel.applyTag_of_resembles resembles applied
    obtain ⟨last, more, final⟩ := ih onward later (kinds_of_step stepped)
    have alsoStepped : twin.step .standard (.tag other place) = .ok grown :=
      bind_eq_ok_iff.mpr ⟨image, alsoReads, moved⟩
    refine ⟨last, ?_, final⟩
    rw [List.foldlM_cons]
    exact bind_eq_ok_iff.mpr ⟨grown, alsoStepped, more⟩

end Outline

namespace Document

/-- A template that is accepted has the same document when any of its tags are written in other
ways, each in the block that is open around it. -/
theorem parse_respelled {source : String} {document : Document} {chunks others : List Chunk}
    (accepted : parse .standard source = .ok document)
    (cut : Chunk.split .standard source = .ok chunks)
    (respelled : Chunk.Respelled [] chunks others) :
    parse .standard (String.ofList (Chunk.writtenAll .standard others)) = .ok document := by
  obtain ⟨found, nodes, split, folded, rfl⟩ := parse_eq_ok_iff_folded.mp accepted
  obtain rfl := Except.ok.inj (split.symm.trans cut)
  obtain ⟨twins, again, respelledAgain⟩ := respelled.exists_splitFrom cut
    (fun _ _ member => Outline.exists_tag_of_mem_folded folded member) .origin
  have alone : Outline.Parallel [] [] Outline.start Outline.start := .outside []
  obtain ⟨grown, taken, parallel⟩ := alone.folded_of_respelled respelledAgain folded
  cases parallel with
  | outside nodes =>
    refine parse_eq_ok_iff_folded.mpr ⟨twins, nodes ++ [], ?_, taken, rfl⟩
    rwa [Chunk.split, String.toList_ofList]

/-- A loop over a text that holds both markers, with a binding in it and a branch for no entries:
without the marker behind its header, with the sign for the word and a marker behind it, and with
the marked keyword of loops for the one of all blocks. -/
theorem parse_respelled_sample :
    let source := "\x7b\x7b for x in \"||\x7d\x7d\" || \x7d\x7d\x7b\x7bset n to x\x7d\x7d" ++
      "\x7b\x7bend\x7d\x7d\x7b\x7b else \x7d\x7d\x7b\x7bend\x7d\x7d"
    let chunks : List Chunk := [.tag " for x in \"||\x7d\x7d\" || ".toList ⟨1, 3⟩,
      .tag "set n to x".toList ⟨1, 27⟩, .tag "end".toList ⟨1, 41⟩, .tag " else ".toList ⟨1, 48⟩,
      .tag "end".toList ⟨1, 58⟩]
    let others : List Chunk := [.tag "for x in \"||\x7d\x7d\"".toList .origin,
      .tag "set n=x||".toList .origin, .tag "\nend".toList .origin,
      .tag "|| empty".toList .origin, .tag "end".toList .origin]
    ∃ document, parse .standard source = .ok document ∧ Chunk.split .standard source = .ok chunks ∧
      Chunk.Respelled [] chunks others ∧
        parse .standard (String.ofList (Chunk.writtenAll .standard others)) = .ok document := by
  intro source chunks others
  obtain ⟨document, accepted⟩ : ∃ document, parse .standard source = .ok document :=
    exists_eq_ok_iff.mpr (by decide +kernel)
  have cut : Chunk.split .standard source = .ok chunks := by decide +kernel
  have space : ∀ character ∈ [' '], Text.isBlank character = true := List.all_eq_true.mp rfl
  have nothing : ∀ character ∈ ([] : List Char), Text.isBlank character = true := by simp
  have alone (body : List Char) : Tag.Encloses body ([] ++ (body ++ [])) := .between nothing nothing
  let header := "for x in \"||\x7d\x7d\"".toList
  have headed : (Tag.Header.text header).WrittenAs header := .text (by decide)
  have loop : Tag.Alternative none " for x in \"||\x7d\x7d\" || ".toList header :=
    Or.inr ⟨.opening (.text header), header ++ ([' '] ++ "||".toList), header,
      .opening headed (by decide) (by decide) (.marked space),
      .opening headed (by decide) (by decide) .bare, .between space space, alone header⟩
  have named (assignment : List Char) (assigns : Tag.Assigns ['x'] assignment) :
      (Tag.Header.binding ['n'] ['x']).WrittenAs
        ("set".toList ++ ([' '] ++ (['n'] ++ (assignment ++ ['x'])))) :=
    .binding (by decide) space (by simp) assigns
  have binding : Tag.Alternative (some .loop) "set n to x".toList "set n=x||".toList :=
    Or.inr ⟨.opening (.binding ['n'] ['x']), "set n to x".toList, "set n=x||".toList,
      .opening (named _ (.word space (by simp) space rfl)) (by decide) (by decide) .bare,
      .opening (named _ (.sign nothing nothing (by simp))) (by decide) (by decide)
        (.marked nothing), alone _, alone _⟩
  have ending : Tag.Alternative (some .binding) "end".toList "\nend".toList :=
    Or.inr ⟨.other "end".toList, _, _, .other (by decide) (by decide),
      .other (by decide) (by decide), alone _, @Tag.Encloses.between _ ['\n'] []
        (List.all_eq_true.mp rfl) nothing⟩
  have last : Tag.Alternative (some .loop) " else ".toList "|| empty".toList :=
    Or.inr ⟨.last, "else".toList, "|| empty".toList, .otherwise .bare,
      .empty rfl (.marked space), .between space space, alone _⟩
  have respelled : Chunk.Respelled [] chunks others := by
    refine .tag _ loop ?_
    rw [show Chunk.nesting [] _ = [.loop] by decide +kernel]
    refine .tag _ binding ?_
    rw [show Chunk.nesting [.loop] _ = [.binding, .loop] by decide +kernel]
    refine .tag _ ending ?_
    rw [show Chunk.nesting [.binding, .loop] _ = [.loop] by decide +kernel]
    exact .tag _ last (.tag _ (Or.inl rfl) (.done _))
  exact ⟨document, accepted, cut, respelled, parse_respelled accepted cut respelled⟩

end Document

end Stencil
