import Stencil.Proofs.Document.Extension

/-!
# Cutting at any markers

The markers of a template may be any texts, parts of each other included. A text without a character
of the opening marker is cut off in front of it, and a tag without quotes ends where the closing
marker first stands behind it. From this follow the chunks of a conditional with two bodies, and how
its document is made of its three tags.
-/

namespace Stencil

namespace Text

/-- A piece occurs first behind a text without any of its characters. -/
theorem splitFirst?_of_absent {piece before : List Char} (nonempty : piece ≠ [])
    (absent : ∀ character ∈ before, character ∉ piece) :
    splitFirst? piece (before ++ piece) = some (before, []) := by
  induction before with
  | nil =>
    have here : dropPrefix? piece piece = some [] :=
      dropPrefix?_eq_some_iff.mpr (List.append_nil piece).symm
    cases piece with
    | nil => exact absurd rfl nonempty
    | cons first piece => rw [List.nil_append, splitFirst?, here]
  | cons first before ih =>
    have other : piece.head? ≠ some first := fun starts =>
      absent first List.mem_cons_self (List.mem_of_head? starts)
    rw [List.cons_append, splitFirst?, dropPrefix?_eq_none other nonempty]
    simp only [ih fun character member => absent character (List.mem_cons_of_mem first member),
      Option.map_some]

end Text

namespace Chunk

/-- Outside quotes the scan stops at the first closing marker. -/
theorem splitOutside?_of_first {closing content : List Char} (nonempty : closing ≠ [])
    (plain : ∀ character ∈ content, character ≠ '"' ∧ character ≠ '\'')
    (first : Text.splitFirst? closing (content ++ closing) = some (content, []))
    (rest : List Char) :
    splitOutside? closing .outside (content ++ (closing ++ rest)) = some (content, rest) := by
  induction content with
  | nil =>
    have here : Text.dropPrefix? closing (closing ++ rest) = some rest :=
      Text.dropPrefix?_eq_some_iff.mpr rfl
    cases closing with
    | nil => exact absurd rfl nonempty
    | cons mark closing =>
      rw [List.cons_append] at here
      rw [List.nil_append, List.cons_append, splitOutside?, if_pos rfl, here]
  | cons character content ih =>
    obtain ⟨double, single⟩ := plain character List.mem_cons_self
    have stays : Quoting.outside.next character = .outside := by simp [Quoting.next, double, single]
    rw [List.cons_append, Text.splitFirst?] at first
    cases here : Text.dropPrefix? closing (character :: (content ++ closing)) with
    | some after =>
      rw [here] at first
      cases first
    | none =>
      rw [here] at first
      obtain ⟨⟨_, _⟩, later, same⟩ := Option.map_eq_some_iff.mp first
      cases same
      have notHere := Text.dropPrefix?_append_eq_none here
        (by simp only [List.length_cons, List.length_append]; omega) rest
      rw [List.cons_append, List.append_assoc] at notHere
      rw [List.cons_append, splitOutside?, if_pos rfl, notHere, stays]
      simp only [ih (fun other member => plain other (List.mem_cons_of_mem character member)) later,
        Option.map_some]

/-- A tag without quotes that is no comment ends at the first closing marker. -/
theorem splitTag?_of_first {closing content : List Char} (nonempty : closing ≠ [])
    (noComment : ∀ rest, isComment (content ++ rest) = false)
    (plain : ∀ character ∈ content, character ≠ '"' ∧ character ≠ '\'')
    (first : Text.splitFirst? closing (content ++ closing) = some (content, []))
    (rest : List Char) :
    splitTag? closing (content ++ (closing ++ rest)) = some (content, rest) := by
  rw [splitTag?, noComment, if_neg Bool.false_ne_true,
    splitOutside?_of_first nonempty plain first rest]

end Chunk

/-! ## A conditional with two bodies -/

/-- A conditional over a name whose bodies a tag with some words stands between. -/
def Delimiters.conditional (delimiters : Delimiters) (between body last : String) : String :=
  delimiters.opening ++ " if x " ++ delimiters.closing ++ body ++
    delimiters.opening ++ " " ++ between ++ " " ++ delimiters.closing ++ last ++
    delimiters.opening ++ " end " ++ delimiters.closing

/-- Behind a content the closing marker occurs for the first time. -/
def Delimiters.ClosesBehind (delimiters : Delimiters) (content : String) : Prop :=
  Text.splitFirst? delimiters.closing.toList (content.toList ++ delimiters.closing.toList) =
    some (content.toList, [])

instance (delimiters : Delimiters) (content : String) :
    Decidable (delimiters.ClosesBehind content) :=
  inferInstanceAs (Decidable (_ = _))

/-- In front of some text, a tag ends behind its content. -/
def Delimiters.EndsTag (delimiters : Delimiters) (content rest : String) : Prop :=
  Chunk.splitTag? delimiters.closing.toList
    (content.toList ++ (delimiters.closing.toList ++ rest.toList)) =
      some (content.toList, rest.toList)

instance (delimiters : Delimiters) (content rest : String) :
    Decidable (delimiters.EndsTag content rest) :=
  inferInstanceAs (Decidable (_ = _))

variable {delimiters : Delimiters} {between body last : String}

/-- A tag without quotes that is no comment ends behind its content, whatever follows. -/
theorem Delimiters.ClosesBehind.isFirm {content : String}
    (closes : delimiters.ClosesBehind content)
    (noComment : ∀ rest, Chunk.isComment (content.toList ++ rest) = false)
    (noQuote : content.toList.all (fun character => character ≠ '"' ∧ character ≠ '\'') = true) :
    Chunk.IsFirm delimiters content.toList :=
  Chunk.splitTag?_of_first delimiters.closing_ne noComment (by simpa using noQuote) closes

/-- The chunks of a conditional are its tags and the bodies between them, when every tag ends where
it is written. -/
theorem Chunk.split_conditional
    (absent : ∀ character ∈ body.toList ++ last.toList, character ∉ delimiters.opening.toList)
    (header : delimiters.ClosesBehind " if x ") (footer : delimiters.ClosesBehind " end ")
    (ends : delimiters.EndsTag (" " ++ between ++ " ")
      (last ++ delimiters.opening ++ " end " ++ delimiters.closing)) :
    ∃ first second third, split delimiters (delimiters.conditional between body last) =
      .ok (.tag " if x ".toList first :: (ofText body.toList ++
        .tag (" " ++ between ++ " ").toList second :: (ofText last.toList ++
          [.tag " end ".toList third]))) := by
  have opens (text : String) (member : ∀ character ∈ text.toList,
      character ∈ body.toList ++ last.toList) :=
    Text.splitFirst?_of_absent delimiters.opening_ne fun character inside =>
      absent character (member character inside)
  have whole : (delimiters.conditional between body last).toList = "".toList ++
      (delimiters.opening.toList ++ (" if x ".toList ++ (delimiters.closing.toList ++
        (body ++ delimiters.opening ++ (" " ++ between ++ " ") ++ delimiters.closing ++
          (last ++ delimiters.opening ++ " end " ++ delimiters.closing)).toList))) := by
    simp only [Delimiters.conditional, String.toList_append, List.append_assoc, String.toList_empty,
      List.nil_append]
  have middle : (body ++ delimiters.opening ++ (" " ++ between ++ " ") ++ delimiters.closing ++
      (last ++ delimiters.opening ++ " end " ++ delimiters.closing)).toList =
      body.toList ++ (delimiters.opening.toList ++ ((" " ++ between ++ " ").toList ++
        (delimiters.closing.toList ++
          (last ++ delimiters.opening ++ " end " ++ delimiters.closing).toList))) := by
    simp only [String.toList_append, List.append_assoc]
  have tail : (last ++ delimiters.opening ++ " end " ++ delimiters.closing).toList =
      last.toList ++ (delimiters.opening.toList ++ (" end ".toList ++
        (delimiters.closing.toList ++ "".toList))) := by
    simp only [String.toList_append, List.append_assoc, String.toList_empty, List.append_nil]
  have nothing (position : Position) : splitFrom delimiters position "".toList = .ok [] := by
    have notFound : Text.splitFirst? delimiters.opening.toList "".toList = none := by
      rw [String.toList_empty, Text.splitFirst?, if_neg]
      exact fun empty => delimiters.opening_ne (List.isEmpty_iff.mp empty)
    rw [splitFrom, notFound]
    rfl
  rw [split, whole,
    splitFrom_append (opens "" (by simp)) (header.isFirm (fun _ => rfl) (by decide) _), middle,
    splitFrom_append (opens body fun _ => List.mem_append_left _) ends, tail,
    splitFrom_append (opens last fun _ => List.mem_append_right _)
      (footer.isFirm (fun _ => rfl) (by decide) _), nothing]
  exact ⟨_, _, _, rfl⟩

/-- A text as nodes. -/
def Node.ofText (text : String) : List Node := if text = "" then [] else [.literal text]

namespace Outline

variable {delimiters : Delimiters}

/-- The outline behind a text. -/
def behind (outline : Outline) (text : String) : Outline :=
  ⟨Node.ofText text ++ outline.nodes, outline.blocks⟩

/-- Taking in a text adds its nodes to the innermost body. -/
theorem foldlM_ofText (outline : Outline) (text : String) :
    (Chunk.ofText text.toList).foldlM (step delimiters) outline = .ok (outline.behind text) := by
  unfold behind Node.ofText
  split_ifs with empty
  · rw [empty]
    rfl
  · have filled : Chunk.ofText text.toList = [.text text.toList] := by
      cases characters : text.toList with
      | nil => exact absurd (String.toList_eq_nil_iff.mp characters) empty
      | cons first others => rfl
    rw [filled, List.foldlM_cons, step, String.ofList_toList]
    rfl

/-- What follows a text is taken in behind it. -/
theorem foldlM_ofText_append (outline : Outline) (text : String) (chunks : List Chunk) :
    (Chunk.ofText text.toList ++ chunks).foldlM (step delimiters) outline =
      chunks.foldlM (step delimiters) (outline.behind text) := by
  rw [List.foldlM_append, foldlM_ofText]
  rfl

end Outline

/-- A conditional is read tag by tag, each in the outline of what stands before it. -/
theorem Document.parse_conditional {delimiters : Delimiters} {between body last : String}
    (absent : ∀ character ∈ body.toList ++ last.toList, character ∉ delimiters.opening.toList)
    (header : delimiters.ClosesBehind " if x ") (footer : delimiters.ClosesBehind " end ")
    (ends : delimiters.EndsTag (" " ++ between ++ " ")
      (last ++ delimiters.opening ++ " end " ++ delimiters.closing)) :
    ∃ first second third, parse delimiters (delimiters.conditional between body last) =
      (Outline.step delimiters .start (.tag " if x ".toList first) >>= fun opened =>
        Outline.step delimiters (opened.behind body)
          (.tag (" " ++ between ++ " ").toList second) >>= fun continued =>
        Outline.step delimiters (continued.behind last) (.tag " end ".toList third) >>=
          Outline.finish delimiters) := by
  obtain ⟨first, second, third, cut⟩ := Chunk.split_conditional absent header footer ends
  refine ⟨first, second, third, ?_⟩
  rw [parse, cut]
  change (_ :: _ : List Chunk).foldlM (Outline.step delimiters) .start >>=
    Outline.finish delimiters = _
  simp only [List.foldlM_cons, Outline.foldlM_ofText_append, List.foldlM_nil, bind_assoc, pure_bind]

end Stencil
