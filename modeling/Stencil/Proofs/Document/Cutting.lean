import Stencil.Proofs.Document.Written
import Stencil.Proofs.Outcome

/-!
# Cutting a written template

A template that is written piece by piece is cut into the same pieces. A marker within a string does
not end a tag, because the scan for the closing marker knows the quotes; everywhere else in a tag no
character is part of a closing marker.
-/

namespace Stencil

namespace Text

/-- The first marker behind a text that holds none is the first one of what follows, unless the text
ends and what follows starts in its character. -/
theorem splitFirst?_append_left {mark : Char} {text : List Char} (tail : List Char)
    (absent : occursIn [mark, mark] text = false)
    (apart : text.getLast? ≠ some mark ∨ tail.head? ≠ some mark) :
    splitFirst? [mark, mark] (text ++ tail) =
      (splitFirst? [mark, mark] tail).map fun (before, after) => (text ++ before, after) := by
  induction text with
  | nil => simp
  | cons first text ih =>
    have notHere : dropPrefix? [mark, mark] (first :: text) = none := by
      cases here : dropPrefix? [mark, mark] (first :: text) with
      | none => rfl
      | some after => simp [occursIn, splitFirst?, here] at absent
    have absentLater : occursIn [mark, mark] text = false := by
      simpa [occursIn, splitFirst?, notHere] using absent
    have notThere : dropPrefix? [mark, mark] (first :: (text ++ tail)) = none := by
      cases text with
      | nil =>
        cases tail with
        | nil => exact notHere
        | cons next tail =>
          have other : ¬(mark = first ∧ mark = next) := by
            rintro ⟨rfl, rfl⟩
            simp at apart
          simp only [List.nil_append, dropPrefix?]
          split
          · rename_i same
            exact if_neg fun also => other ⟨same, also⟩
          · rfl
      | cons second text => simpa [dropPrefix?] using notHere
    have apartLater : text.getLast? ≠ some mark ∨ tail.head? ≠ some mark := by
      refine apart.imp_left fun ends last => ?_
      cases text with
      | nil => cases last
      | cons second text => exact ends (by rw [List.getLast?_cons_cons]; exact last)
    rw [List.cons_append, splitFirst?, notThere]
    simp only [ih absentLater apartLater, Option.map_map, Function.comp_def, List.cons_append]

/-- A text before a marker of two equal characters is cut off when it holds no such marker and does
not end in its character. -/
theorem splitFirst?_append {mark : Char} {before : List Char} (tail : List Char)
    (absent : occursIn [mark, mark] before = false) (ends : before.getLast? ≠ some mark) :
    splitFirst? [mark, mark] (before ++ mark :: mark :: tail) = some (before, tail) := by
  rw [splitFirst?_append_left _ absent (Or.inl ends)]
  simp [splitFirst?, dropPrefix?]

end Text

namespace Chunk

/-! ## Scanning for the closing marker -/

/-- Where a scan stands behind a text, unless the text holds the character of the closing marker
outside of quotes. -/
def Quoting.cross? (mark : Char) : Quoting → List Char → Option Quoting
  | quoting, [] => some quoting
  | quoting, first :: rest =>
    if quoting = outside ∧ first = mark then none else cross? mark (quoting.next first) rest

/-- A scan crosses one text and then another. -/
theorem Quoting.cross?_append {mark : Char} {before between behind : Quoting}
    {first second : List Char} (crosses : before.cross? mark first = some between)
    (goesOn : between.cross? mark second = some behind) :
    before.cross? mark (first ++ second) = some behind := by
  induction first generalizing before with
  | nil =>
    cases crosses
    exact goesOn
  | cons character first ih =>
    rw [cross?] at crosses
    split at crosses
    · cases crosses
    · rename_i passes
      rw [List.cons_append, cross?, if_neg passes]
      exact ih crosses

/-- A text that a scan crosses stays in front of whatever the scan finds behind it. -/
theorem splitOutside?_cross {mark : Char} {before behind : Quoting} {text rest : List Char}
    (crosses : before.cross? mark text = some behind) :
    splitOutside? [mark, mark] before (text ++ rest) =
      (splitOutside? [mark, mark] behind rest).map fun (inside, after) =>
        (text ++ inside, after) := by
  induction text generalizing before with
  | nil =>
    cases crosses
    simp
  | cons character text ih =>
    rw [Quoting.cross?] at crosses
    split at crosses
    · cases crosses
    · rename_i passes
      have notHere : (if before = .outside then
          Text.dropPrefix? [mark, mark] (character :: (text ++ rest)) else none) = none := by
        split
        · rename_i isOutside
          have other : mark ≠ character := fun same => passes ⟨isOutside, same.symm⟩
          simp [Text.dropPrefix?, other]
        · rfl
      rw [List.cons_append, splitOutside?, notHere]
      simp only [ih crosses, Option.map_map, Function.comp_def, List.cons_append]

/-- A tag ends at the first closing marker behind a text that a scan crosses. -/
theorem splitOutside?_append {mark : Char} {text : List Char} (tail : List Char)
    (crosses : Quoting.outside.cross? mark text = some .outside) :
    splitOutside? [mark, mark] .outside (text ++ mark :: mark :: tail) = some (text, tail) := by
  rw [splitOutside?_cross crosses]
  simp [splitOutside?, Text.dropPrefix?]

/-- Characters that are neither quotes nor part of the marker change nothing. -/
theorem Quoting.cross?_of_plain {mark : Char} {text : List Char}
    (plain : ∀ character ∈ text, character ≠ '"' ∧ character ≠ '\'' ∧ character ≠ mark) :
    outside.cross? mark text = some outside := by
  induction text with
  | nil => rfl
  | cons first rest ih =>
    obtain ⟨double, single, other⟩ := plain first (by simp)
    have stays : outside.next first = outside := by simp [next, double, single]
    rw [cross?, if_neg (by simp [other]), stays]
    exact ih fun character member => plain character (by simp [member])

/-- The characters of a string are crossed between its quotes. -/
theorem Quoting.cross?_escaped (mark : Char) (text : List Char) :
    (inside '"').cross? mark (text.flatMap Token.escaped) = some (inside '"') := by
  induction text with
  | nil => rfl
  | cons first rest ih =>
    have pair (character : Char) :
        (inside '"').cross? mark ['\\', character] = some (inside '"') := by
      simp [cross?, next]
    have one : (inside '"').cross? mark (Token.escaped first) = some (inside '"') := by
      unfold Token.escaped
      split_ifs with newline tab carriage special
      · exact pair 'n'
      · exact pair 't'
      · exact pair 'r'
      · exact pair first
      · simp only [Bool.or_eq_true, decide_eq_true_eq, not_or] at special
        simp [cross?, next, special.1, special.2]
    rw [List.flatMap_cons]
    exact cross?_append one ih

/-- A closing brace is no part of a word, and neither is a quote. -/
theorem ne_of_continuesWord {character : Char}
    (continues : Text.continuesWord character = true) :
    character ≠ '"' ∧ character ≠ '\'' ∧ character ≠ '}' := by
  refine ⟨?_, ?_, ?_⟩ <;> rintro rfl <;> exact absurd continues (by decide)

/-- A closing brace is no blank, and neither is a quote. -/
theorem ne_of_isBlank {character : Char} (blank : Text.isBlank character = true) :
    character ≠ '"' ∧ character ≠ '\'' ∧ character ≠ '}' := by
  refine ⟨?_, ?_, ?_⟩ <;> rintro rfl <;> exact absurd blank (by decide)

/-- The spelling of a token is crossed. -/
theorem cross?_spelling {token : Token} (written : token.hasSpelling = true) :
    Quoting.outside.cross? '}' token.spelling = some .outside := by
  have ofWord {word : List Char} (isWord : Text.isWord word = true) :
      Quoting.outside.cross? '}' word = some .outside :=
    Quoting.cross?_of_plain fun character member =>
      ne_of_continuesWord (Text.continuesWord_of_isWord isWord character member)
  cases token with
  | name text =>
    simp only [Token.hasSpelling, Token.isName, Bool.and_eq_true] at written
    exact ofWord written.1
  | string text =>
    have opens : Quoting.outside.cross? '}' ['"'] = some (.inside '"') := by decide
    have closes : (Quoting.inside '"').cross? '}' ['"'] = some .outside := by decide
    have inside := Quoting.cross?_append (Quoting.cross?_escaped '}' text.toList) closes
    have whole : Quoting.outside.cross? '}'
        (['"'] ++ (text.toList.flatMap Token.escaped ++ ['"'])) = some .outside :=
      Quoting.cross?_append opens inside
    exact whole
  | integer number =>
    exact Quoting.cross?_of_plain fun character member => ne_of_continuesWord
      (Text.continuesWord_of_isDigit (Nat.isDigit_of_mem_toDigits (by decide) (by decide) member))
  | boolean truth => cases truth <;> exact ofWord (by decide)
  | null => exact ofWord (by decide)
  | symbol found => cases found <;> decide
  | keyword found => exact ofWord (Token.isWord_keyword found)
  | float number => cases written
  | finish => cases written

/-- A text that writes tokens is crossed. -/
theorem cross?_writes {tokens : List Token} {text : List Char} (writes : Token.Writes tokens text) :
    Quoting.outside.cross? '}' text = some .outside := by
  induction writes with
  | done blank => exact Quoting.cross?_of_plain fun character member =>
      ne_of_isBlank (blank character member)
  | token blanks blank written ends others ih =>
    have before := Quoting.cross?_of_plain fun character member =>
      ne_of_isBlank (blank character member)
    exact Quoting.cross?_append before (Quoting.cross?_append (cross?_spelling written) ih)

/-! ## Cutting -/

/-- The content of a tag is cut off at its closing marker. -/
theorem splitTag?_writes {tokens : List Token} {content : List Char}
    (writes : Token.Writes tokens content) (nonempty : tokens ≠ []) (tail : List Char) :
    splitTag? ['}', '}'] (content ++ '}' :: '}' :: tail) = some (content, tail) := by
  have noComment : isComment (content ++ '}' :: '}' :: tail) = false := by
    obtain ⟨front, body, back, rfl, blank, -, -, edges⟩ := writes.edges nonempty
    obtain ⟨first, others, starts, solid⟩ :=
      Token.head_append_solid edges (back ++ '}' :: '}' :: tail)
    simp only [Token.isSolid, Bool.and_eq_true, Bool.not_eq_true', bne_iff_ne] at solid
    rw [List.append_assoc, List.append_assoc, starts, isComment, Text.trimStart,
      List.dropWhile_append_of_pos blank]
    simp [solid.1.1, solid.2]
  have ends := splitOutside?_append tail (cross?_writes writes)
  rw [splitTag?, noComment]
  simp only [Bool.false_eq_true, ↓reduceIte, ends]

/-- A text without an opening marker is a single chunk. -/
theorem splitFrom_text {text : List Char} (absent : Text.occursIn ['{', '{'] text = false)
    (position : Position) : splitFrom .standard position text = .ok (ofText text) := by
  have opening : Delimiters.standard.opening.toList = ['{', '{'] := by decide
  have notFound : Text.splitFirst? ['{', '{'] text = none := by
    simpa [Text.occursIn] using absent
  rw [splitFrom, opening, notFound]

/-- A tag behind a text is cut off, and cutting goes on behind it. -/
theorem splitFrom_tag {before : List Char} {tokens : List Token} {content : List Char}
    (absent : Text.occursIn ['{', '{'] before = false) (ends : before.getLast? ≠ some '{')
    (writes : Token.Writes tokens content) (nonempty : tokens ≠ []) (tail : List Char)
    (position : Position) : ∃ start next,
      splitFrom .standard position (before ++ '{' :: '{' :: (content ++ '}' :: '}' :: tail)) =
        (splitFrom .standard next tail >>= fun chunks =>
          .ok (ofText before ++ .tag content start :: chunks)) := by
  have found := Text.splitFirst?_append (content ++ '}' :: '}' :: tail) absent ends
  have tag := splitTag?_writes writes nonempty tail
  have shorter : tail.length <
      (before ++ '{' :: '{' :: (content ++ '}' :: '}' :: tail)).length := by
    simp only [List.length_append, List.length_cons]
    omega
  have opening : Delimiters.standard.opening.toList = ['{', '{'] := by decide
  have closing : Delimiters.standard.closing.toList = ['}', '}'] := by decide
  rw [splitFrom, opening, closing]
  simp only [found, tag, shorter, ↓reduceIte]
  exact ⟨_, _, rfl⟩

end Chunk

end Stencil
