import Stencil.Proofs.Document.Quotes

/-!
# Templates that go on

The tags of a template that can be read are cut off in the same way whatever follows them. So the
chunks of a template are the first chunks of every longer one, up to the text at their end.
-/

namespace Stencil

namespace Text

/-- The first occurrence of a piece is the first one also where the text goes on. -/
theorem splitFirst?_append_right {piece text before after : List Char} (tail : List Char)
    (found : splitFirst? piece text = some (before, after)) (nonempty : piece ≠ []) :
    splitFirst? piece (text ++ tail) = some (before, after ++ tail) := by
  induction text generalizing before with
  | nil => simp [splitFirst?, nonempty] at found
  | cons character rest ih =>
    rw [splitFirst?] at found
    split at found
    · rename_i others matched
      cases found
      have longer : dropPrefix? piece (character :: (rest ++ tail)) = some (after ++ tail) :=
        dropPrefix?_eq_some_iff.mpr (by
          rw [← List.cons_append, dropPrefix?_eq_some_iff.mp matched, List.append_assoc])
      rw [List.cons_append, splitFirst?, longer]
    · rename_i notHere
      obtain ⟨⟨earlier, others⟩, later, same⟩ := Option.map_eq_some_iff.mp found
      cases same
      have enough : piece.length ≤ (character :: rest).length := by
        rw [eq_of_splitFirst? later]
        simp only [List.length_cons, List.length_append]
        omega
      have longer := dropPrefix?_append_eq_none notHere enough tail
      rw [List.cons_append] at longer
      rw [List.cons_append, splitFirst?, longer]
      dsimp only
      rw [ih later]
      rfl

/-- A text in front of its first piece holds none. -/
theorem not_occursIn_of_splitFirst? {piece text : List Char} (nonempty : piece ≠ [])
    (first : splitFirst? piece (text ++ piece) = some (text, [])) : occursIn piece text = false := by
  cases found : splitFirst? piece text with
  | none => rw [occursIn, found]; rfl
  | some parts =>
    have longer := splitFirst?_append_right piece found nonempty
    rw [first] at longer
    have left : [] = parts.2 ++ piece := (Prod.mk.inj (Option.some.inj longer)).2
    exact absurd (List.append_eq_nil_iff.mp left.symm).2 nonempty

end Text

namespace Chunk

variable {delimiters : Delimiters} {position place : Position} {source text content : List Char}
  {chunks before after first second : List Chunk}

/-- Chunks in a row are written one after the other. -/
theorem writtenAll_append : writtenAll delimiters (first ++ second) =
    writtenAll delimiters first ++ writtenAll delimiters second :=
  List.flatMap_append

/-- A tag in front of others is written between its markers. -/
theorem writtenAll_tag : writtenAll delimiters (.tag content place :: after) =
    delimiters.opening.toList ++ (content ++ (delimiters.closing.toList ++
      writtenAll delimiters after)) := by
  simp [writtenAll, written]

/-- A text and a tag are written as the text and the tag between its markers. -/
theorem writtenAll_ofText_tag : writtenAll delimiters (ofText text ++ [.tag content place]) =
    text ++ (delimiters.opening.toList ++ (content ++ delimiters.closing.toList)) := by
  rw [writtenAll_append, writtenAll_ofText, writtenAll_tag]
  simp [writtenAll]

/-- Chunks that are cut are written as the text they are cut from. -/
theorem writtenAll_of_splitFrom (cut : splitFrom delimiters position source = .ok chunks) :
    writtenAll delimiters chunks = source := by
  have covers := splitFrom_cases delimiters position source
  rw [cut] at covers
  exact covers.writtenAll_eq

/-! ## One tag -/

/-- A content that is cut off whole, whatever follows its closing marker. -/
def IsFirm (delimiters : Delimiters) (content : List Char) : Prop :=
  ∀ tail, splitTag? delimiters.closing.toList
    (content ++ (delimiters.closing.toList ++ tail)) = some (content, tail)

/-- A comment goes on as a comment. -/
theorem isComment_append (tail : List Char) (comment : isComment content = true) :
    isComment (content ++ tail) = true := by
  rw [isComment, decide_eq_true_iff, Text.trimStart] at comment ⊢
  have filled : content.dropWhile Text.isBlank ≠ [] := by
    intro nothing
    rw [nothing] at comment
    cases comment
  rw [List.dropWhile_append, if_neg (by simpa using filled), List.head?_append, comment]
  rfl

/-- The content of a tag that is read is cut off whole, whatever follows, when it is cut off once. -/
theorem isFirm_of_parse {tag : Tag} {rest : List Char}
    (reads : Tag.parse .standard content place = .ok tag)
    (cut : splitTag? Delimiters.standard.closing.toList
      (content ++ (Delimiters.standard.closing.toList ++ rest)) = some (content, rest)) :
    IsFirm .standard content := by
  intro tail
  rcases Tag.isComment_or_frames reads with comment | ⟨front, inner, back, frames⟩
  · -- A comment ends at the first closing marker of all.
    rw [splitTag?, if_pos (isComment_append _ comment)] at cut ⊢
    have once := Text.splitFirst?_append_self cut
    rw [← List.append_assoc]
    exact Text.splitFirst?_append_right tail once Delimiters.standard.closing_ne
  · exact frames.splitTag?_eq tail

/-- The chunks of a text that starts with an opening marker behind other text. -/
theorem splitFrom_append {others : List Char}
    (opened : Text.splitFirst? delimiters.opening.toList (text ++ delimiters.opening.toList) =
      some (text, []))
    (ends : splitTag? delimiters.closing.toList
      (content ++ (delimiters.closing.toList ++ others)) = some (content, others)) :
    splitFrom delimiters position (text ++ (delimiters.opening.toList ++
        (content ++ (delimiters.closing.toList ++ others)))) =
      (splitFrom delimiters (position.advance (text ++ (delimiters.opening.toList ++
          (content ++ delimiters.closing.toList)))) others >>= fun chunks =>
        .ok (ofText text ++
          .tag content (position.advance (text ++ delimiters.opening.toList)) :: chunks)) := by
  have found := Text.splitFirst?_append_right (content ++ (delimiters.closing.toList ++ others))
    opened delimiters.opening_ne
  rw [List.append_assoc, List.nil_append] at found
  have shorter : others.length < (text ++ (delimiters.opening.toList ++
      (content ++ (delimiters.closing.toList ++ others)))).length := by
    have positive := List.length_pos_iff.mpr delimiters.closing_ne
    simp only [List.length_append]
    omega
  rw [splitFrom, found]
  simp only [ends, shorter, ↓reduceIte, Position.advance_append]

/-- A text whose first chunks are a text and a tag starts with them. -/
theorem splitFrom_inversion
    (cut : splitFrom delimiters position source = .ok (ofText text ++ .tag content place :: after)) :
    Text.splitFirst? delimiters.opening.toList (text ++ delimiters.opening.toList) =
        some (text, []) ∧
      place = position.advance (text ++ delimiters.opening.toList) ∧
        splitTag? delimiters.closing.toList (content ++ (delimiters.closing.toList ++
          writtenAll delimiters after)) = some (content, writtenAll delimiters after) ∧
          splitFrom delimiters (position.advance (text ++ (delimiters.opening.toList ++
            (content ++ delimiters.closing.toList)))) (writtenAll delimiters after) = .ok after := by
  rw [splitFrom] at cut
  split at cut
  · cases source <;> cases text <;> simp [ofText] at cut
  · rename_i before others opened
    split at cut
    · cases cut
    · rename_i inside rest closed
      have whole := eq_of_splitTag? closed
      have shorter : rest.length < source.length := by
        have less := Text.length_of_splitFirst? delimiters.opening_ne opened
        have enough := congrArg List.length whole
        simp only [List.length_append] at enough
        omega
      rw [if_pos shorter] at cut
      obtain ⟨chunks, further, same⟩ := bind_eq_ok_iff.mp cut
      obtain ⟨rfl, rfl, rfl, rfl⟩ : before = text ∧ inside = content ∧
          (position.advance before).advance delimiters.opening.toList = place ∧ chunks = after := by
        revert same
        cases before <;> cases text <;> simp +contextual [ofText]
      rw [writtenAll_of_splitFrom further]
      rw [whole, List.append_assoc] at closed
      refine ⟨Text.splitFirst?_append_self opened, ?_, closed, ?_⟩
      · rw [Position.advance_append]
      · simpa only [Position.advance_append] using further

/-- A text that is a single chunk holds no opening marker. -/
theorem absent_of_splitFrom (cut : splitFrom delimiters position source = .ok (ofText source)) :
    Text.occursIn delimiters.opening.toList source = false := by
  cases found : Text.splitFirst? delimiters.opening.toList source with
  | none => rw [Text.occursIn, found]; rfl
  | some parts =>
    rw [splitFrom, found] at cut
    dsimp only at cut
    split at cut
    · cases cut
    · split at cut
      · obtain ⟨chunks, -, same⟩ := bind_eq_ok_iff.mp cut
        cases source <;> cases before : parts.1 <;> simp [ofText, before] at same
      · cases source <;> cases before : parts.1 <;> simp [ofText, before] at cut

/-! ## Chunks in a row -/

/-- Chunks that are cut off the front of every text that starts with them. -/
def CutOff (delimiters : Delimiters) (position : Position) (chunks : List Chunk) : Prop :=
  ∀ tail, splitFrom delimiters position (writtenAll delimiters chunks ++ tail) =
    (splitFrom delimiters (position.advance (writtenAll delimiters chunks)) tail >>= fun others =>
      .ok (chunks ++ others))

/-- No chunks are cut off every text. -/
theorem cutOff_nil : CutOff delimiters position [] := by
  intro tail
  change splitFrom delimiters position tail =
    (splitFrom delimiters position tail >>= fun others => .ok others)
  cases splitFrom delimiters position tail <;> rfl

/-- Chunks are cut off behind others that are. -/
theorem CutOff.append (earlier : CutOff delimiters position first)
    (later : CutOff delimiters (position.advance (writtenAll delimiters first)) second) :
    CutOff delimiters position (first ++ second) := by
  intro tail
  rw [writtenAll_append, List.append_assoc, earlier, later, Position.advance_append]
  cases splitFrom delimiters ((position.advance (writtenAll delimiters first)).advance
    (writtenAll delimiters second)) tail with
  | error failure => rfl
  | ok others => exact congrArg Except.ok (List.append_assoc first second others).symm

/-- A tag that is cut off whole is cut off behind a text. -/
theorem cutOff_tag
    (opened : Text.splitFirst? delimiters.opening.toList (text ++ delimiters.opening.toList) =
      some (text, [])) (firm : IsFirm delimiters content) :
    CutOff delimiters position
      (ofText text ++ [.tag content (position.advance (text ++ delimiters.opening.toList))]) := by
  intro tail
  have found := @splitFrom_append delimiters position text content tail opened (firm tail)
  rw [writtenAll_ofText_tag]
  simpa only [List.append_assoc, List.singleton_append] using found

/-- The first chunks of a text are a text alone, or a text and a tag in front of others. -/
theorem ofText_or_tag (cut : splitFrom delimiters position source = .ok (before ++ after)) :
    ∃ text, before = ofText text ∨
      ∃ content place later, before = ofText text ++ .tag content place :: later := by
  have covers := splitFrom_cases delimiters position source
  rw [cut] at covers
  cases before with
  | nil => exact ⟨[], Or.inl rfl⟩
  | cons first later =>
    cases first with
    | tag content place => exact ⟨[], Or.inr ⟨content, place, later, rfl⟩⟩
    | text content =>
      have precedes := @Covers.mayPrecede _ _ _ [] (later ++ after) _ content covers rfl
      obtain ⟨character, rest, rfl⟩ : ∃ character rest, content = character :: rest := by
        refine List.exists_cons_of_ne_nil ?_
        cases others : later ++ after with
        | nil =>
          rw [others] at precedes
          exact precedes.1
        | cons next others' =>
          rw [others] at precedes
          cases next with
          | text => cases precedes
          | tag => exact precedes.1
      cases later with
      | nil => exact ⟨character :: rest, Or.inl rfl⟩
      | cons next later =>
        cases next with
        | text => cases precedes
        | tag inside place => exact ⟨character :: rest, Or.inr ⟨inside, place, later, rfl⟩⟩

/-- The first chunks of a text, whose tags can be read, are chunks that are cut off every text that
starts with them, and a text. -/
theorem exists_cutOff (cut : splitFrom .standard position source = .ok (before ++ after))
    (read : ∀ content place, .tag content place ∈ before →
      ∃ tag, Tag.parse .standard content place = .ok tag) :
    ∃ firm text, before = firm ++ ofText text ∧ CutOff .standard position firm ∧
      splitFrom .standard (position.advance (writtenAll .standard firm))
        (text ++ writtenAll .standard after) = .ok (ofText text ++ after) := by
  induction size : before.length using Nat.strongRecOn generalizing position source before with
  | ind size ih =>
    obtain ⟨text, rfl | ⟨content, place, later, rfl⟩⟩ := ofText_or_tag cut
    · have whole := writtenAll_of_splitFrom cut
      rw [writtenAll_append, writtenAll_ofText] at whole
      exact ⟨[], text, rfl, cutOff_nil, by rw [whole]; exact cut⟩
    · rw [List.append_assoc, List.cons_append] at cut
      obtain ⟨opened, rfl, closed, further⟩ := splitFrom_inversion cut
      obtain ⟨tag, reads⟩ := read content _ (List.mem_append_right _ List.mem_cons_self)
      have firm := isFirm_of_parse reads closed
      obtain ⟨others, last, rfl, cutOff, left⟩ := ih later.length
        (by simp only [← size, List.length_append, List.length_cons]; omega) further
        (fun inside at_ member => read inside at_ (by simp [member])) rfl
      refine ⟨ofText text ++ [.tag content _] ++ others, last, by simp,
        (cutOff_tag opened firm).append (by rwa [writtenAll_ofText_tag]), ?_⟩
      rw [writtenAll_append, writtenAll_ofText_tag, Position.advance_append]
      exact left

/-- A text whose tags can be read is cut into chunks that are cut off every text that starts with
them, and a text without an opening marker at its end. -/
theorem exists_cutOff_all (cut : splitFrom .standard position source = .ok chunks)
    (read : ∀ content place, .tag content place ∈ chunks →
      ∃ tag, Tag.parse .standard content place = .ok tag) :
    ∃ firm text, chunks = firm ++ ofText text ∧ CutOff .standard position firm ∧
      source = writtenAll .standard firm ++ text ∧ Text.occursIn ['{', '{'] text = false ∧
        ∀ last, text.getLast? = some last → source.getLast? = some last := by
  rw [← List.append_nil chunks] at cut
  obtain ⟨firm, text, rfl, cutOff, left⟩ := exists_cutOff cut read
  have whole := writtenAll_of_splitFrom cut
  rw [List.append_nil, writtenAll_append, writtenAll_ofText] at whole
  have absent : Text.occursIn Delimiters.standard.opening.toList text = false :=
    absent_of_splitFrom (by simpa [writtenAll] using left)
  refine ⟨firm, text, rfl, cutOff, whole.symm, absent, fun last ends => ?_⟩
  rw [← whole, List.getLast?_append, ends]
  rfl

end Chunk

end Stencil
