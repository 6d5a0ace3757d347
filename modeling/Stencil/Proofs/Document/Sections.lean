import Stencil.Proofs.Document.Written
import Stencil.Proofs.Expr.Locality

/-!
# What is read of a tag

Of the content of a tag the lexer reads the inner part. In front of it and behind it there are only
blanks and continuing markers. The main statements are that what a tag says does not depend on where
it stands, that an accepted tag has been read to its end, and that an error is reported inside the
inner part, in front of what it is about.
-/

namespace Stencil

namespace Text

/-- Blanks, with or without one marker between them. -/
inductive IsMargin (marker : List Char) : List Char → Prop
  /-- Blanks alone. -/
  | blanks {text : List Char} (blank : ∀ character ∈ text, isBlank character = true) :
    IsMargin marker text
  /-- A marker between blanks. -/
  | marked {before after : List Char} (leading : ∀ character ∈ before, isBlank character = true)
    (trailing : ∀ character ∈ after, isBlank character = true) :
    IsMargin marker (before ++ (marker ++ after))

/-- Blanks may follow a margin. -/
theorem IsMargin.append {marker text blanks : List Char} (margin : IsMargin marker text)
    (blank : ∀ character ∈ blanks, isBlank character = true) :
    IsMargin marker (text ++ blanks) := by
  have both {text : List Char} (also : ∀ character ∈ text, isBlank character = true) :
      ∀ character ∈ text ++ blanks, isBlank character = true := by
    intro character member
    rcases List.mem_append.mp member with here | there
    · exact also character here
    · exact blank character there
  cases margin with
  | blanks also => exact .blanks (both also)
  | marked leading trailing =>
    rw [List.append_assoc, List.append_assoc]
    exact .marked leading (both trailing)

/-- A text is what is left of it when the blanks at its end are taken off, and these blanks. -/
theorem exists_trimEnd_append (text : List Char) : ∃ blanks, text = trimEnd text ++ blanks ∧
    ∀ character ∈ blanks, isBlank character = true := by
  refine ⟨(text.reverse.takeWhile isBlank).reverse, ?_, fun character member => ?_⟩
  · rw [trimEnd, ← List.reverse_append, List.takeWhile_append_dropWhile, List.reverse_reverse]
  · exact List.mem_takeWhile_imp (List.mem_reverse.mp member)

/-- A text that ends in a piece is what stands before it and the piece. -/
theorem eq_of_dropSuffix? {piece text before : List Char}
    (found : dropSuffix? piece text = some before) : text = before ++ piece := by
  obtain ⟨reversed, matched, rfl⟩ := Option.map_eq_some_iff.mp found
  have whole := congrArg List.reverse (dropPrefix?_eq_some_iff.mp matched)
  simpa using whole

/-- A piece is taken off the end of a text that it stands behind. -/
theorem dropSuffix?_append (piece text : List Char) :
    dropSuffix? piece (text ++ piece) = some text := by
  rw [dropSuffix?, List.reverse_append, dropPrefix?_eq_some_iff.mpr rfl, Option.map_some,
    List.reverse_reverse]

end Text

namespace Tag

open TokenStream (SamePlace Agree Exhausts Leaves)

variable {stream other here there : TokenStream}

/-! ## Headers and branches -/

/-- An expression that must be all that is left is read alike. -/
theorem agree_parseLast (place : SamePlace stream other here there) :
    Agree stream other (Exhausts stream) (parseLast here) (parseLast there) := by
  refine (Expr.isLocal_parse place).bind ?_
  rintro ⟨expression, rest⟩ ⟨_, _⟩ ⟨rfl, behind⟩
  exact behind.expectFinish.bind fun _ _ ends => .ok ⟨rfl, ends.2⟩

/-- The header of a branch is read alike. -/
theorem agree_parseBranch (place : SamePlace stream other here there) :
    Agree stream other (Exhausts stream) (parseBranch here) (parseBranch there) := by
  rw [parseBranch, parseBranch, place.peek_eq]
  split
  · exact place.advance.bind fun _ _ next => next.expectFinish.bind fun _ _ ends =>
      .ok ⟨rfl, ends.2⟩
  · exact place.advance.bind fun _ _ next => next.expectFinish.bind fun _ _ ends =>
      .ok ⟨rfl, ends.2⟩
  · refine place.advance.bind fun _ _ next => (agree_parseLast next).bind ?_
    rintro condition _ ⟨rfl, whole⟩
    exact .ok ⟨rfl, whole⟩
  · exact place.refuse trivial

/-- The source of a loop is read alike, and what is made of it. -/
theorem agree_source (place : SamePlace stream other here there) (make : Expr → Opening) :
    Agree stream other (Exhausts stream)
      (here.expect (.keyword .inWord) >>= fun rest => parseLast rest >>= fun source =>
        .ok (make source))
      (there.expect (.keyword .inWord) >>= fun rest => parseLast rest >>= fun source =>
        .ok (make source)) := by
  refine (place.expect _).bind fun _ _ next => (agree_parseLast next).bind ?_
  rintro source _ ⟨rfl, whole⟩
  exact .ok ⟨rfl, whole⟩

/-- The header of a loop is read alike. -/
theorem agree_parseLoop (place : SamePlace stream other here there) :
    Agree stream other (Exhausts stream) (parseLoop here) (parseLoop there) := by
  refine place.advance.bind fun _ _ next => (next.expectName _).bind ?_
  rintro ⟨first, rest⟩ ⟨_, _⟩ ⟨rfl, behind⟩
  dsimp only at behind ⊢
  rw [behind.peek_eq]
  split
  · refine behind.advance.bind fun _ _ next => (next.expectName _).bind ?_
    rintro ⟨second, rest⟩ ⟨_, _⟩ ⟨rfl, last⟩
    exact agree_source last _
  · exact agree_source behind _

/-- The header of a binding is read alike. -/
theorem agree_parseBinding (place : SamePlace stream other here there) :
    Agree stream other (Exhausts stream) (parseBinding here) (parseBinding there) := by
  refine place.advance.bind fun _ _ next => (next.expectName _).bind ?_
  rintro ⟨name, rest⟩ ⟨_, _⟩ ⟨rfl, behind⟩
  dsimp only at behind ⊢
  rw [behind.peek_eq]
  split
  · refine behind.advance.bind fun _ _ next => (agree_parseLast next).bind ?_
    rintro value _ ⟨rfl, whole⟩
    exact .ok ⟨rfl, whole⟩
  · exact behind.refuse trivial

/-! ## Contents -/

/-- The same tag at two positions, behind which nothing is left. -/
def MovesTo (stream : TokenStream) (position place : Position) (tag twin : Tag) : Prop :=
  tag = tag.moveTo position ∧ twin = tag.moveTo place ∧ stream.isWhole = true

/-- A text is read as tokens alike wherever it starts. -/
theorem agree_ofText (text : List Char) (position place : Position) :
    Agree (Lexer.starting text position).stream (Lexer.starting text place).stream
      (SamePlace (Lexer.starting text position).stream (Lexer.starting text place).stream)
      (TokenStream.ofText text position) (TokenStream.ofText text place) := by
  have alike : (Lexer.starting text position).stream.Alike (Lexer.starting text place).stream :=
    Lexer.alike_stream text false _ _
  have agree := alike.check 0
  rwa [TokenStream.drop_zero, TokenStream.drop_zero] at agree

/-- A tag that is no comment and has no continuing marker in front is read alike. -/
theorem agree_parseBody (body : List Char) (position place : Position) :
    Agree (Lexer.starting body position).stream (Lexer.starting body place).stream
      (MovesTo (Lexer.starting body position).stream position place) (parseBody body position)
      (parseBody body place) := by
  refine (agree_ofText body position place).bind fun here there same => ?_
  rw [same.peek_eq]
  split
  · refine same.advance.bind fun _ _ next => (agree_parseLast next).bind ?_
    rintro condition _ ⟨rfl, whole⟩
    exact .ok ⟨rfl, rfl, whole⟩
  · refine (agree_parseLoop same).bind ?_
    rintro header _ ⟨rfl, whole⟩
    exact .ok ⟨rfl, rfl, whole⟩
  · refine (agree_parseBinding same).bind ?_
    rintro header _ ⟨rfl, whole⟩
    exact .ok ⟨rfl, rfl, whole⟩
  · refine (agree_parseBranch same).bind ?_
    rintro branch _ ⟨rfl, whole⟩
    exact .ok ⟨rfl, rfl, whole⟩
  · refine (agree_parseBranch same).bind ?_
    rintro branch _ ⟨rfl, whole⟩
    exact .ok ⟨rfl, rfl, whole⟩
  · refine (agree_parseBranch same).bind ?_
    rintro branch _ ⟨rfl, whole⟩
    exact .ok ⟨rfl, rfl, whole⟩
  · exact same.advance.bind fun _ _ next => next.expectFinish.bind fun _ _ ends =>
      .ok ⟨rfl, rfl, ends.2⟩
  · refine (agree_parseLast same).bind ?_
    rintro expression _ ⟨rfl, whole⟩
    exact .ok ⟨rfl, rfl, whole⟩

/-- The header of a block is followed by a margin. -/
theorem exists_withoutMarker_append (marker body : List Char) :
    ∃ back, body = withoutMarker marker body ++ back ∧ Text.IsMargin marker back := by
  have whole : body = body ++ [] := (List.append_nil body).symm
  have nothing : Text.IsMargin marker [] := .blanks (by simp)
  rw [withoutMarker]
  split
  · cases found : Text.dropSuffix? marker body with
    | none => exact ⟨[], whole, nothing⟩
    | some header =>
      obtain ⟨blanks, parts, blank⟩ := Text.exists_trimEnd_append header
      refine ⟨blanks ++ (marker ++ []), ?_, .marked blank (by simp)⟩
      rw [Text.eq_of_dropSuffix? found, List.append_nil, ← List.append_assoc, ← parts]
  · exact ⟨[], whole, nothing⟩

/-- What is read of the content of a tag, and with which result at every position. -/
inductive Sections (delimiters : Delimiters) (content : List Char) : Prop
  /-- There are only blanks. -/
  | empty (blank : ∀ character ∈ content, Text.isBlank character = true)
    (refused : ∀ start, parse delimiters content start = .error ⟨.emptyTag, start.advance content⟩)
  /-- A number sign stands behind the blanks in front. -/
  | comment {blanks rest : List Char} (blank : ∀ character ∈ blanks, Text.isBlank character = true)
    (whole : content = blanks ++ '#' :: rest)
    (accepted : ∀ start, parse delimiters content start = .ok .comment)
  /-- The continuing marker stands alone. -/
  | bare (margin : Text.IsMargin delimiters.continuing.toList content)
    (accepted : ∀ start, parse delimiters content start =
      .ok (.continuation .bare (start.advance (content.takeWhile Text.isBlank))))
  /-- A text is read between margins. -/
  | inner {front text back : List Char} (whole : content = front ++ (text ++ back))
    (leading : Text.IsMargin delimiters.continuing.toList front)
    (trailing : Text.IsMargin delimiters.continuing.toList back)
    (agree : ∀ start place : Position,
      Agree (Lexer.starting text (start.advance front)).stream
        (Lexer.starting text (place.advance front)).stream
        (MovesTo (Lexer.starting text (start.advance front)).stream
          (start.advance (content.takeWhile Text.isBlank))
          (place.advance (content.takeWhile Text.isBlank)))
        (parse delimiters content start) (parse delimiters content place))

/-- A content that is no comment is a continuation when its marker stands in front. -/
theorem parse_eq_of_ne (delimiters : Delimiters) {content others : List Char} {first : Char}
    (body : Text.trimEnd (content.dropWhile Text.isBlank) = first :: others) (sign : first ≠ '#')
    (start : Position) :
    parse delimiters content start =
      match Text.dropPrefix? delimiters.continuing.toList (first :: others) with
      | some after =>
        if (after.dropWhile Text.isBlank).isEmpty then
          .ok (.continuation .bare (start.advance (content.takeWhile Text.isBlank)))
        else
          TokenStream.ofText (after.dropWhile Text.isBlank)
            (((start.advance (content.takeWhile Text.isBlank)).advance
              delimiters.continuing.toList).advance (after.takeWhile Text.isBlank)) >>=
            fun stream => parseBranch stream >>= fun branch =>
            .ok (.continuation branch (start.advance (content.takeWhile Text.isBlank)))
      | none =>
        parseBody (withoutMarker delimiters.continuing.toList (first :: others))
          (start.advance (content.takeWhile Text.isBlank)) := by
  simp only [parse, List.span_eq_takeWhile_dropWhile, body]
  split
  · rename_i empty
    cases empty
  · rename_i same
    exact absurd (List.cons.inj same).1 sign
  · rfl

/-- A branch behind a continuing marker is read alike. -/
theorem agree_branch (text : List Char) (position place start other : Position) :
    Agree (Lexer.starting text position).stream (Lexer.starting text place).stream
      (MovesTo (Lexer.starting text position).stream start other)
      (TokenStream.ofText text position >>= fun stream =>
        parseBranch stream >>= fun branch => .ok (.continuation branch start))
      (TokenStream.ofText text place >>= fun stream =>
        parseBranch stream >>= fun branch => .ok (.continuation branch other)) := by
  refine (agree_ofText text position place).bind fun _ _ same => (agree_parseBranch same).bind ?_
  rintro branch _ ⟨rfl, whole⟩
  exact .ok ⟨rfl, rfl, whole⟩

section Marked

variable {delimiters : Delimiters} {content others trailing : List Char} {first : Char}

/-- A content that is trimmed to nothing has only blanks. -/
theorem sections_of_empty (empty : Text.trimEnd (content.dropWhile Text.isBlank) = []) :
    Sections delimiters content := by
  have blank : ∀ character ∈ content.takeWhile Text.isBlank, Text.isBlank character = true :=
    fun _ member => List.mem_takeWhile_imp member
  have nothing : content.dropWhile Text.isBlank = [] := by
    have solid := Token.head?_dropWhile Text.isBlank content
    obtain ⟨trailing, trimmed, blankBehind⟩ :=
      Text.exists_trimEnd_append (content.dropWhile Text.isBlank)
    rw [empty, List.nil_append] at trimmed
    cases left : content.dropWhile Text.isBlank with
    | nil => rfl
    | cons first others =>
      rw [left] at solid trimmed
      have isBlank := blankBehind first (by rw [← trimmed]; exact List.mem_cons_self)
      simp [isBlank] at solid
  have parts : content = content.takeWhile Text.isBlank ++ content.dropWhile Text.isBlank :=
    List.takeWhile_append_dropWhile.symm
  rw [nothing, List.append_nil] at parts
  rw [← parts] at blank
  refine .empty blank fun start => ?_
  simp only [parse, List.span_eq_takeWhile_dropWhile, empty, ← parts]

/-- Behind the continuing marker stands a branch, or nothing. -/
theorem sections_of_marked {after : List Char}
    (body : Text.trimEnd (content.dropWhile Text.isBlank) = first :: others) (sign : first ≠ '#')
    (trimmed : content.dropWhile Text.isBlank = first :: others ++ trailing)
    (blank : ∀ character ∈ trailing, Text.isBlank character = true)
    (marked : Text.dropPrefix? delimiters.continuing.toList (first :: others) = some after) :
    Sections delimiters content := by
  have found := parse_eq_of_ne delimiters body sign
  simp only [marked] at found
  have indent : ∀ character ∈ content.takeWhile Text.isBlank, Text.isBlank character = true :=
    fun _ member => List.mem_takeWhile_imp member
  have gap : ∀ character ∈ after.takeWhile Text.isBlank, Text.isBlank character = true :=
    fun _ member => List.mem_takeWhile_imp member
  have parts : content = content.takeWhile Text.isBlank ++ content.dropWhile Text.isBlank :=
    List.takeWhile_append_dropWhile.symm
  rw [trimmed, Text.dropPrefix?_eq_some_iff.mp marked,
    ← @List.takeWhile_append_dropWhile _ Text.isBlank after] at parts
  by_cases alone : after.dropWhile Text.isBlank = []
  · have marks : Text.IsMargin delimiters.continuing.toList _ := .marked indent gap
    have margin := marks.append blank
    rw [alone, List.append_nil] at parts
    simp only [List.append_assoc] at parts margin
    rw [← parts] at margin
    exact .bare margin fun start => by rw [found, alone]; rfl
  · have whole : content = (content.takeWhile Text.isBlank ++
        (delimiters.continuing.toList ++ after.takeWhile Text.isBlank)) ++
          (after.dropWhile Text.isBlank ++ trailing) := by
      simpa only [List.append_assoc] using parts
    refine .inner whole (.marked indent gap) (.blanks blank) fun start place => ?_
    have filled : (after.dropWhile Text.isBlank).isEmpty = false := by simpa using alone
    rw [found, found, filled, Position.advance_append, Position.advance_append,
      Position.advance_append, Position.advance_append]
    exact agree_branch _ _ _ _ _

/-- Without the continuing marker in front everything is read, but a marker behind. -/
theorem sections_of_unmarked
    (body : Text.trimEnd (content.dropWhile Text.isBlank) = first :: others) (sign : first ≠ '#')
    (trimmed : content.dropWhile Text.isBlank = first :: others ++ trailing)
    (blank : ∀ character ∈ trailing, Text.isBlank character = true)
    (unmarked : Text.dropPrefix? delimiters.continuing.toList (first :: others) = none) :
    Sections delimiters content := by
  have found := parse_eq_of_ne delimiters body sign
  simp only [unmarked] at found
  have indent : ∀ character ∈ content.takeWhile Text.isBlank, Text.isBlank character = true :=
    fun _ member => List.mem_takeWhile_imp member
  obtain ⟨back, header, margin⟩ :=
    exists_withoutMarker_append delimiters.continuing.toList (first :: others)
  have whole : content = content.takeWhile Text.isBlank ++
      (withoutMarker delimiters.continuing.toList (first :: others) ++ (back ++ trailing)) := by
    rw [← List.append_assoc _ back, ← header, ← trimmed]
    exact List.takeWhile_append_dropWhile.symm
  refine .inner whole (.blanks indent) (margin.append blank) fun start place => ?_
  rw [found, found]
  exact agree_parseBody _ _ _

end Marked

/-- The content of every tag is one of these. -/
theorem sections (delimiters : Delimiters) (content : List Char) : Sections delimiters content := by
  obtain ⟨trailing, trimmed, blank⟩ :=
    Text.exists_trimEnd_append (content.dropWhile Text.isBlank)
  cases body : Text.trimEnd (content.dropWhile Text.isBlank) with
  | nil => exact sections_of_empty body
  | cons first others =>
    rw [body] at trimmed
    by_cases sign : first = '#'
    · subst sign
      have parts : content = content.takeWhile Text.isBlank ++ content.dropWhile Text.isBlank :=
        List.takeWhile_append_dropWhile.symm
      rw [trimmed] at parts
      refine .comment (fun _ member => List.mem_takeWhile_imp member) parts fun start => ?_
      simp only [parse, List.span_eq_takeWhile_dropWhile, body]
    · cases marked : Text.dropPrefix? delimiters.continuing.toList (first :: others) with
      | some after => exact sections_of_marked body sign trimmed blank marked
      | none => exact sections_of_unmarked body sign trimmed blank marked

/-! ## What is read and where -/

/-- Blanks and markers around a text that can be read to its end. -/
structure Frames (marker content front inner back : List Char) : Prop where
  /-- The content is the text with a margin in front and one behind. -/
  whole : content = front ++ (inner ++ back)
  /-- In front there are only blanks and a marker. -/
  leading : Text.IsMargin marker front
  /-- Behind there are only blanks and a marker. -/
  trailing : Text.IsMargin marker back
  /-- Wherever the text stands, the lexer reads tokens up to its end. -/
  readable : ∀ position, (Lexer.starting inner position).stream.isWhole = true

variable {delimiters : Delimiters} {content : List Char} {start : Position} {tag : Tag}
  {error : SyntaxError}

/-- What a tag says does not depend on where it stands, and its position is behind the blanks in
front of it. -/
theorem parse_moveTo (reads : parse delimiters content start = .ok tag) :
    tag = tag.moveTo (start.advance (content.takeWhile Text.isBlank)) ∧ ∀ other,
      parse delimiters content other =
        .ok (tag.moveTo (other.advance (content.takeWhile Text.isBlank))) := by
  cases sections delimiters content with
  | empty blank refused =>
    rw [refused] at reads
    cases reads
  | comment blank whole accepted =>
    rw [accepted] at reads
    cases reads
    exact ⟨rfl, accepted⟩
  | bare margin accepted =>
    rw [accepted] at reads
    cases reads
    exact ⟨rfl, accepted⟩
  | inner whole leading trailing agree =>
    refine ⟨?_, fun other => ?_⟩
    · obtain ⟨-, -, same, -⟩ := (agree start start).exists_ok reads
      exact same
    · obtain ⟨_, found, -, rfl, -⟩ := (agree start other).exists_ok reads
      exact found

/-- An accepted tag is a comment, or a text between margins that is read to its end. -/
theorem isComment_or_frames (reads : parse delimiters content start = .ok tag) :
    Chunk.isComment content = true ∨
      ∃ front inner back, Frames delimiters.continuing.toList content front inner back := by
  cases sections delimiters content with
  | empty blank refused =>
    rw [refused] at reads
    cases reads
  | comment blank whole accepted =>
    refine Or.inl ?_
    rw [Chunk.isComment, Text.trimStart, whole, List.dropWhile_append_of_pos blank]
    rfl
  | bare margin accepted =>
    refine Or.inr ⟨content, [], [], ⟨?_, margin, .blanks (by simp), fun position => ?_⟩⟩
    · rw [List.append_nil, List.append_nil]
    · rw [Lexer.starting, Lexer.stream_finish (by simp)]
      rfl
  | @inner front text back whole leading trailing agree =>
    refine Or.inr ⟨front, text, back, ⟨whole, leading, trailing, fun position => ?_⟩⟩
    obtain ⟨_, -, -, -, whole⟩ := (agree start start).exists_ok reads
    rw [← whole]
    exact (Lexer.alike_stream text false _ _).isWhole_eq

/-- A tag that is refused is refused within its content, behind which there is only a margin, in
front of what the fault names. -/
theorem place_of_parse_eq_error (refused : parse delimiters content start = .error error)
    (positive : 0 < start.column) :
    error.fault.isOfTag = true ∧ ∃ earlier later back, content = earlier ++ (later ++ back) ∧
      Text.IsMargin delimiters.continuing.toList back ∧
        error.position = start.advance earlier ∧ error.fault.StandsAt later := by
  cases sections delimiters content with
  | empty blank fails =>
    rw [fails] at refused
    cases refused
    exact ⟨rfl, content, [], [], by simp, .blanks (by simp), rfl, trivial⟩
  | comment blank whole accepted =>
    rw [accepted] at refused
    cases refused
  | bare margin accepted =>
    rw [accepted] at refused
    cases refused
  | @inner front text back whole leading trailing agree =>
    have here := agree start start
    rw [refused] at here
    cases here with
    | @error fault passed suits =>
      have first : (⟨(start.advance front).line, max 1 (start.advance front).column⟩ : Position) =
          start.advance front := by
        have column := start.advance_column_pos positive front
        rw [Nat.max_eq_right column]
      obtain ⟨before, rest, behindDot, parts, placed, starts⟩ :=
        (Lexer.lexes_stream (Lexer.starting text (start.advance front))).place passed
      obtain ⟨ofTag, stands⟩ := suits.standsAt starts
      refine ⟨ofTag, front ++ before, rest, back, ?_, trailing, ?_, stands⟩
      · rw [whole, parts]
        simp only [List.append_assoc]
      · rw [Position.advance_append]
        exact placed.trans (congrArg (Position.advance · before) first)

end Tag

end Stencil
