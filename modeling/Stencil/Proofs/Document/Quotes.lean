import Stencil.Proofs.Document.Chunks
import Stencil.Proofs.Document.Cutting
import Stencil.Proofs.Document.Sections
import Stencil.Proofs.Outline.Progress

/-!
# The scan for the end of a tag and the lexer

Two scans read the same quotes: one looks for the closing marker behind the whole rest of a
template, the other reads the tokens of what has been cut out. The main statement is that they
agree. A content that can be read to its end is cut off whole, whatever follows; and every tag of an
accepted template ends at the first closing marker outside of its string literals, so the scan never
has to ignore a quote.
-/

namespace Stencil

namespace Text

/-- A text without the character of a marker does not hold the marker. -/
theorem occursIn_of_forall_ne {mark : Char} {text : List Char}
    (other : ∀ character ∈ text, character ≠ mark) : occursIn [mark, mark] text = false := by
  cases found : splitFirst? [mark, mark] text with
  | none => rw [occursIn, found]; rfl
  | some split =>
    obtain ⟨before, after⟩ := split
    refine absurd rfl (other mark ?_)
    rw [eq_of_splitFirst? found]
    simp

/-- A margin of blanks and bars holds neither quotes nor a closing brace. -/
theorem IsMargin.plain {text : List Char} (margin : IsMargin ['|', '|'] text) :
    ∀ character ∈ text, character ≠ '"' ∧ character ≠ '\'' ∧ character ≠ '}' := by
  intro character member
  cases margin with
  | blanks blank => exact Chunk.ne_of_isBlank (blank character member)
  | @marked before after leading trailing =>
    rcases List.mem_append.mp member with early | late
    · exact Chunk.ne_of_isBlank (leading character early)
    · rcases List.mem_append.mp late with bar | late
      · have same : character = '|' := by simpa using bar
        rw [same]
        decide
      · exact Chunk.ne_of_isBlank (trailing character late)

end Text

/-! ## Texts without string literals -/

namespace Token

/-- What a reading takes, with a blank for every character of a string literal. -/
def Reading.withoutString (reading : Reading) : List Char :=
  match reading.outcome with
  | .ok (.string _) => reading.taken.map fun _ => ' '
  | _ => reading.taken

/-- A text with a blank for every character of a string literal, as far as tokens can be read. -/
def withoutStrings (afterDot : Bool) (text : List Char) : List Char :=
  let reading := read afterDot (text.dropWhile Text.isBlank)
  match reading.outcome with
  | .error _ => text
  | .ok token =>
    if reading.rest.length < text.length then
      text.takeWhile Text.isBlank ++
        (reading.withoutString ++ withoutStrings (token = .symbol .dot) reading.rest)
    else text
termination_by text.length

variable {blanks taken rest text : List Char} {afterDot : Bool} {token : Token} {reading : Reading}

/-- Behind blanks stands a token, and behind that the rest. -/
theorem withoutStrings_token (blank : ∀ character ∈ blanks, Text.isBlank character = true)
    (solid : (taken ++ rest).head?.all (fun next => !Text.isBlank next) = true)
    (reads : read afterDot (taken ++ rest) = ⟨.ok token, taken, rest⟩) (nonempty : taken ≠ []) :
    withoutStrings afterDot (blanks ++ (taken ++ rest)) =
      blanks ++ (Reading.withoutString ⟨.ok token, taken, rest⟩ ++
        withoutStrings (token = .symbol .dot) rest) := by
  have run := span_append blank solid
  rw [List.span_eq_takeWhile_dropWhile] at run
  obtain ⟨early, late⟩ := Prod.mk.inj run
  have shorter : rest.length < (blanks ++ (taken ++ rest)).length := by
    have positive := List.length_pos_iff.mpr nonempty
    simp only [List.length_append]
    omega
  rw [withoutStrings, early, late, reads]
  simp only [shorter, ↓reduceIte]

/-- Blanks hold no string literal. -/
theorem withoutStrings_blanks (blank : ∀ character ∈ blanks, Text.isBlank character = true) :
    withoutStrings afterDot blanks = blanks := by
  have nothing : blanks.dropWhile Text.isBlank = [] := List.dropWhile_eq_nil_iff.mpr blank
  have all : blanks.takeWhile Text.isBlank = blanks := List.takeWhile_eq_self_iff.mpr blank
  rw [withoutStrings, nothing, all]
  simp [read, Reading.withoutString, withoutStrings]

/-- A string literal takes as many blanks as characters. -/
theorem length_withoutString (reading : Reading) :
    reading.withoutString.length = reading.taken.length := by
  unfold Reading.withoutString
  split
  · exact List.length_map _
  · rfl

/-! ## The scan crosses what the lexer reads -/

/-- A string literal is crossed up to its closing quote. -/
theorem cross?_of_readQuoted {quote : Char} {content : List Char} (mark : Char)
    (isQuote : quote = '"' ∨ quote = '\'')
    (closed : readQuoted quote text = (some content, taken, rest)) :
    (Chunk.Quoting.inside quote).cross? mark taken = some .outside := by
  fun_induction readQuoted quote text generalizing content taken rest with
  | case1 | case4 => cases closed
  | case2 escape others inside before behind read ih =>
    cases inside with
    | none => cases closed
    | some inside =>
      cases closed
      simpa [Chunk.Quoting.cross?, Chunk.Quoting.next] using ih read
  | case3 =>
    cases closed
    rcases isQuote with rfl | rfl <;> rfl
  | case5 character others notEscape notQuote notBackslash inside before behind read ih =>
    cases inside with
    | none => cases closed
    | some inside =>
      cases closed
      simpa [Chunk.Quoting.cross?, Chunk.Quoting.next, notQuote, notBackslash] using ih read

/-- What a token takes holds no quote and no closing brace, unless it is a string literal. -/
theorem Reads.plain_or_string (reads : Reads afterDot text reading)
    (made : reading.outcome = .ok token) :
    (∀ character ∈ reading.taken, character ≠ '"' ∧ character ≠ '\'' ∧ character ≠ '}') ∨
      ∃ quote content inside, (quote = '"' ∨ quote = '\'') ∧ token = .string content ∧
        reading.taken = quote :: inside ∧
          (Chunk.Quoting.inside quote).cross? '}' inside = some .outside := by
  have ofDigits {digits : List Char} (areDigits : ∀ digit ∈ digits, digit.isDigit = true) :
      ∀ digit ∈ digits, digit ≠ '"' ∧ digit ≠ '\'' ∧ digit ≠ '}' := fun digit member =>
    Chunk.ne_of_continuesWord (Text.continuesWord_of_isDigit (areDigits digit member))
  cases reads with
  | finish => exact Or.inl (by simp)
  | symbol found =>
    have plain : found.spelling.toList.all (fun character =>
        character ≠ '"' ∧ character ≠ '\'' ∧ character ≠ '}') = true := by
      cases found <;> rfl
    exact Or.inl (by simpa using plain)
  | @string quote content taken rest isQuote closed =>
    cases made
    exact Or.inr ⟨quote, _, taken, isQuote, rfl, rfl, cross?_of_readQuoted '}' isQuote closed⟩
  | integer nonempty areDigits => exact Or.inl (ofDigits areDigits)
  | @float digits fraction rest number nonempty areDigits alsoDigits =>
    refine Or.inl fun character member => ?_
    rcases List.mem_append.mp member with early | late
    · exact ofDigits areDigits character early
    · rcases List.mem_cons.mp late with rfl | late
      · decide
      · exact ofDigits alsoDigits character late
  | word rest nonempty continues =>
    exact Or.inl fun character member => Chunk.ne_of_continuesWord (continues character member)
  | unclosed | unexpected => cases made

/-- What a token takes is crossed. -/
theorem Reads.cross?_taken (reads : Reads afterDot text reading)
    (made : reading.outcome = .ok token) :
    Chunk.Quoting.outside.cross? '}' reading.taken = some .outside := by
  rcases reads.plain_or_string made with plain | ⟨quote, content, inside, isQuote, -, taken, closes⟩
  · exact Chunk.Quoting.cross?_of_plain plain
  · have opens : Chunk.Quoting.outside.cross? '}' [quote] = some (.inside quote) := by
      rcases isQuote with rfl | rfl <;> rfl
    rw [taken]
    exact Chunk.Quoting.cross?_append opens closes

/-- What a token takes holds no closing brace outside of a string literal. -/
theorem Reads.ne_brace_of_mem (reads : Reads afterDot text reading)
    (made : reading.outcome = .ok token) :
    ∀ character ∈ reading.withoutString, character ≠ '}' := by
  intro character member
  rw [Reading.withoutString, made] at member
  rcases reads.plain_or_string made with plain | ⟨quote, content, inside, -, rfl, -, -⟩
  · split at member
    · obtain ⟨_, -, rfl⟩ := List.mem_map.mp member
      decide
    · exact (plain character member).2.2
  · obtain ⟨_, -, rfl⟩ := List.mem_map.mp member
    decide

end Token

namespace Lexer.Lexes

variable {lexer : Lexer} {stream : TokenStream}

/-- A text that is read to its end is crossed. -/
theorem cross? (lexes : Lexes lexer stream) (whole : stream.isWhole = true) :
    Chunk.Quoting.outside.cross? '}' lexer.rest = some .outside := by
  induction lexes with
  | finish blank =>
    exact Chunk.Quoting.cross?_of_plain fun character member =>
      Chunk.ne_of_isBlank (blank character member)
  | fault => cases whole
  | @token blanks taken rest blank solid position afterDot first stream read nonempty others ih =>
    have reads := Token.reads_read afterDot (taken ++ rest)
    rw [read] at reads
    have before : Chunk.Quoting.outside.cross? '}' blanks = some .outside :=
      Chunk.Quoting.cross?_of_plain fun character member =>
        Chunk.ne_of_isBlank (blank character member)
    exact Chunk.Quoting.cross?_append before
      (Chunk.Quoting.cross?_append (reads.cross?_taken rfl) (ih whole))

/-- A text that is read to its end holds no closing brace outside of its string literals. -/
theorem ne_brace_of_mem (lexes : Lexes lexer stream) (whole : stream.isWhole = true) :
    ∀ character ∈ Token.withoutStrings lexer.afterDot lexer.rest, character ≠ '}' := by
  induction lexes with
  | finish blank =>
    rw [Token.withoutStrings_blanks blank]
    exact fun character member => (Chunk.ne_of_isBlank (blank character member)).2.2
  | fault => cases whole
  | @token blanks taken rest blank solid position afterDot first stream read nonempty others ih =>
    have reads := Token.reads_read afterDot (taken ++ rest)
    rw [read] at reads
    rw [Token.withoutStrings_token blank solid read nonempty]
    intro character member
    rcases List.mem_append.mp member with early | late
    · exact (Chunk.ne_of_isBlank (blank character early)).2.2
    · rcases List.mem_append.mp late with inside | later
      · exact reads.ne_brace_of_mem rfl character inside
      · exact ih whole character later

/-- The text without its string literals is as long as the text. -/
theorem length_withoutStrings (lexes : Lexes lexer stream) :
    (Token.withoutStrings lexer.afterDot lexer.rest).length = lexer.rest.length := by
  induction lexes with
  | finish blank => rw [Token.withoutStrings_blanks blank]
  | @fault blanks text blank solid position afterDot refusal failed =>
    have run := Token.span_append blank solid
    rw [List.span_eq_takeWhile_dropWhile] at run
    rw [Token.withoutStrings, (Prod.mk.inj run).2, failed]
  | @token blanks taken rest blank solid position afterDot first stream read nonempty others ih =>
    rw [Token.withoutStrings_token blank solid read nonempty]
    simp only [List.length_append, Token.length_withoutString]
    exact congrArg (fun size => blanks.length + (taken.length + size)) ih

end Lexer.Lexes

/-! ## Where a tag ends -/

namespace Chunk

/-- Blanks decide nothing about a comment. -/
theorem isComment_blanks_append {blanks : List Char} (text : List Char)
    (blank : ∀ character ∈ blanks, Text.isBlank character = true) :
    isComment (blanks ++ text) = isComment text := by
  rw [isComment, isComment, Text.trimStart, Text.trimStart, List.dropWhile_append_of_pos blank]

/-- A margin in front of what is no comment makes no comment of it. -/
theorem isComment_margin_append {margin text : List Char}
    (isMargin : Text.IsMargin ['|', '|'] margin) (noComment : isComment text = false) :
    isComment (margin ++ text) = false := by
  cases isMargin with
  | blanks blank => rwa [isComment_blanks_append text blank]
  | marked leading trailing =>
    rw [List.append_assoc, isComment_blanks_append _ leading]
    rfl

/-- A text that is read to its end in front of what is no comment makes no comment of it. -/
theorem isComment_lexes_append {lexer : Lexer} {stream : TokenStream} {text : List Char}
    (lexes : lexer.Lexes stream) (whole : stream.isWhole = true)
    (noComment : isComment text = false) : isComment (lexer.rest ++ text) = false := by
  cases lexes with
  | finish blank => rwa [isComment_blanks_append text blank]
  | fault => cases whole
  | @token blanks taken rest blank solid position afterDot first stream read nonempty others =>
    obtain ⟨character, behind, rfl⟩ := List.exists_cons_of_ne_nil nonempty
    have notBlank : Text.isBlank character = false := by simpa using solid
    have notSign : character ≠ '#' := by
      rintro rfl
      have refused : (Token.read afterDot ('#' :: behind ++ rest)).outcome =
          .error (.unexpectedCharacter '#') := rfl
      rw [read] at refused
      cases refused
    rw [List.append_assoc, isComment_blanks_append _ blank]
    simp [isComment, Text.trimStart, notBlank, notSign]

end Chunk

namespace Tag.Frames

variable {content front inner back : List Char}

/-- A content that is read to its end is no comment, whatever follows its closing marker. -/
theorem isComment_eq (frames : Frames ['|', '|'] content front inner back) (tail : List Char) :
    Chunk.isComment (content ++ '}' :: '}' :: tail) = false := by
  have lexes := Lexer.lexes_stream (Lexer.starting inner .origin)
  rw [frames.whole, List.append_assoc, List.append_assoc]
  exact Chunk.isComment_margin_append frames.leading
    (Chunk.isComment_lexes_append lexes (frames.readable .origin)
      (Chunk.isComment_margin_append frames.trailing rfl))

/-- A content that is read to its end is crossed. -/
theorem cross? (frames : Frames ['|', '|'] content front inner back) :
    Chunk.Quoting.outside.cross? '}' content = some .outside := by
  have lexes := Lexer.lexes_stream (Lexer.starting inner .origin)
  rw [frames.whole]
  exact Chunk.Quoting.cross?_append (Chunk.Quoting.cross?_of_plain frames.leading.plain)
    (Chunk.Quoting.cross?_append (lexes.cross? (frames.readable .origin))
      (Chunk.Quoting.cross?_of_plain frames.trailing.plain))

/-- A content that is read to its end is cut off whole by the scan that knows the quotes. -/
theorem splitOutside?_eq (frames : Frames ['|', '|'] content front inner back) (tail : List Char) :
    Chunk.splitOutside? ['}', '}'] .outside (content ++ '}' :: '}' :: tail) =
      some (content, tail) :=
  Chunk.splitOutside?_append tail frames.cross?

/-- A content that is read to its end is cut off whole. -/
theorem splitTag?_eq (frames : Frames ['|', '|'] content front inner back) (tail : List Char) :
    Chunk.splitTag? ['}', '}'] (content ++ '}' :: '}' :: tail) = some (content, tail) := by
  rw [Chunk.splitTag?, frames.isComment_eq, frames.splitOutside?_eq]
  rfl

/-- Behind a content that is read to its end is the first closing marker outside of its string
literals. -/
theorem splitFirst?_eq (frames : Frames ['|', '|'] content front inner back) (tail : List Char) :
    Text.splitFirst? ['}', '}']
        (front ++ (Token.withoutStrings false inner ++ back) ++ '}' :: '}' :: tail) =
      some (front ++ (Token.withoutStrings false inner ++ back), tail) := by
  have lexes := Lexer.lexes_stream (Lexer.starting inner .origin)
  have inside := lexes.ne_brace_of_mem (frames.readable .origin)
  have other : ∀ character ∈ front ++ (Token.withoutStrings false inner ++ back),
      character ≠ '}' := by
    intro character member
    rcases List.mem_append.mp member with early | late
    · exact (frames.leading.plain character early).2.2
    · rcases List.mem_append.mp late with middle | late
      · exact inside character middle
      · exact (frames.trailing.plain character late).2.2
  refine Text.splitFirst?_append tail (Text.occursIn_of_forall_ne other) fun last => ?_
  exact other '}' (List.mem_of_getLast? last) rfl

end Tag.Frames

namespace Chunk

/-- The content of a tag of an accepted template is read to its end, unless it is a comment. -/
theorem exists_frames_of_parse {source : String} {document : Document}
    {chunks before after : List Chunk} {content : List Char} {position : Position}
    (accepted : Document.parse .standard source = .ok document)
    (cut : split .standard source = .ok chunks)
    (inside : chunks = before ++ .tag content position :: after)
    (noComment : isComment content = false) :
    ∃ front inner back, Tag.Frames ['|', '|'] content front inner back := by
  obtain ⟨_, nodes, found, folded, -⟩ := Document.parse_eq_ok_iff_folded.mp accepted
  obtain rfl := Except.ok.inj (found.symm.trans cut)
  rw [inside] at folded
  obtain ⟨_, tag, _, -, reads, -⟩ := Outline.exists_tag_of_folded folded
  have bars : Delimiters.standard.continuing.toList = ['|', '|'] := by decide
  rw [← bars]
  exact (Tag.isComment_or_frames reads).resolve_left (by simp [noComment])

/-- The scan for the end of a tag and the lexer see the same string literals. A content is cut off
whole, whatever follows its closing marker, when the lexer reads to its end what stands between
blanks and continuing markers in it. Every tag of an accepted template that is no comment has such a
content: the scan outside of quotes has found its end, which is the first closing marker behind it
once its string literals are left blank. So a template is refused when that scan finds no end for
one of its tags. -/
theorem scan_agrees_with_lexer :
    (∀ front inner back tail position, Text.IsMargin ['|', '|'] front →
      Text.IsMargin ['|', '|'] back → (Lexer.starting inner position).stream.isWhole = true →
        splitTag? ['}', '}'] (front ++ (inner ++ back) ++ '}' :: '}' :: tail) =
          some (front ++ (inner ++ back), tail)) ∧
    (∀ source document chunks before content position after,
      Document.parse .standard source = .ok document → split .standard source = .ok chunks →
        chunks = before ++ .tag content position :: after → isComment content = false →
          let rest := writtenAll .standard after
          splitOutside? ['}', '}'] .outside (content ++ '}' :: '}' :: rest) =
              some (content, rest) ∧
            ∃ front inner back, Tag.Frames ['|', '|'] content front inner back ∧
              let blanked := Token.withoutStrings false inner
              blanked.length = inner.length ∧
                Text.splitFirst? ['}', '}'] (front ++ (blanked ++ back) ++ '}' :: '}' :: rest) =
                  some (front ++ (blanked ++ back), rest)) ∧
    ∀ source chunks before content position after, split .standard source = .ok chunks →
      chunks = before ++ .tag content position :: after → isComment content = false →
        splitOutside? ['}', '}'] .outside
            (content ++ '}' :: '}' :: writtenAll .standard after) = none →
          ∃ error, Document.parse .standard source = .error error := by
  refine ⟨fun front inner back tail position leading trailing whole => ?_, ?_, ?_⟩
  · have frames : Tag.Frames ['|', '|'] (front ++ (inner ++ back)) front inner back :=
      ⟨rfl, leading, trailing, fun place => by
        rw [← whole]
        exact (Lexer.alike_stream inner false _ _).isWhole_eq⟩
    exact frames.splitTag?_eq tail
  · intro source document chunks before content position after accepted cut inside noComment
    obtain ⟨front, inner, back, frames⟩ :=
      exists_frames_of_parse accepted cut inside noComment
    exact ⟨frames.splitOutside?_eq _, front, inner, back, frames,
      (Lexer.lexes_stream (Lexer.starting inner .origin)).length_withoutStrings,
      frames.splitFirst?_eq _⟩
  · intro source chunks before content position after cut inside noComment endless
    cases parsed : Document.parse .standard source with
    | error error => exact ⟨error, rfl⟩
    | ok document =>
      obtain ⟨front, inner, back, frames⟩ :=
        exists_frames_of_parse parsed cut inside noComment
      rw [frames.splitOutside?_eq] at endless
      cases endless

/-- A header with a closing marker and a quote in its string literal, before a text with a stray
quote; and a tag with a quote that never ends. -/
theorem scan_agrees_with_lexer_sample :
    let inner := " if \"\x7d\x7d'\" ".toList
    let content := [] ++ (inner ++ ['|', '|'])
    let source := "\x7b\x7b if \"\x7d\x7d'\" ||\x7d\x7d\"\x7b\x7b end \x7d\x7d"
    let stray := "\x7b\x7b a' \x7d\x7d"
    let after : List Chunk := [.text ['"'], .tag " end ".toList ⟨1, 20⟩]
    let rest := writtenAll .standard after
    splitTag? ['}', '}'] (content ++ '}' :: '}' :: ['"']) = some (content, ['"']) ∧
      split .standard source = .ok (.tag content ⟨1, 3⟩ :: after) ∧
        splitOutside? ['}', '}'] .outside (content ++ '}' :: '}' :: rest) = some (content, rest) ∧
          split .standard stray = .ok [.tag " a' ".toList ⟨1, 3⟩] ∧
            ∃ error, Document.parse .standard stray = .error error := by
  intro inner content source stray after rest
  have cut : split .standard source = .ok (.tag content ⟨1, 3⟩ :: after) := by decide +kernel
  have fallback : split .standard stray = .ok [.tag " a' ".toList ⟨1, 3⟩] := by decide +kernel
  have whole : (Lexer.starting inner .origin).stream.isWhole = true := by decide +kernel
  have trailing : Text.IsMargin ['|', '|'] ['|', '|'] :=
    @Text.IsMargin.marked _ [] [] (by simp) (by simp)
  obtain ⟨document, accepted⟩ : ∃ document, Document.parse .standard source = .ok document :=
    exists_eq_ok_iff.mpr (by decide +kernel)
  exact ⟨scan_agrees_with_lexer.1 [] inner ['|', '|'] ['"'] .origin (.blanks (by simp)) trailing
    whole, cut, (scan_agrees_with_lexer.2.1 source document _ [] content ⟨1, 3⟩ after accepted cut
      rfl (by decide)).1, fallback, scan_agrees_with_lexer.2.2 stray _ [] _ _ [] fallback rfl
        (by decide) (by decide +kernel)⟩

end Chunk

end Stencil
