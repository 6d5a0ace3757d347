import Stencil.Proofs.Document.Tags

/-!
# Spellings of a tag

Many contents write the same tag. Blanks may stand around it; a marker may stand behind the header
of a block and in front of its branches; the value of a binding stands behind a word or a sign; and
the last branch of a block is written as `else`, as the marker alone and in a loop as `empty`. The
main statement is that a content that is accepted can be replaced by every other one that writes the
same tag.
-/

namespace Stencil

namespace Tag

/-! ## The spellings -/

/-- A content that holds a text between blanks. -/
inductive Encloses (body : List Char) : List Char → Prop
  /-- Blanks, the text, and blanks. -/
  | between {front back : List Char}
    (leading : ∀ character ∈ front, Text.isBlank character = true)
    (trailing : ∀ character ∈ back, Text.isBlank character = true) :
    Encloses body (front ++ (body ++ back))

/-- What stands between the name of a binding and the text of its value. -/
inductive Assigns (value : List Char) : List Char → Prop
  /-- The word, apart from the name and from the value. -/
  | word {before after : List Char} (leading : ∀ character ∈ before, Text.isBlank character = true)
    (gap : before ≠ []) (trailing : ∀ character ∈ after, Text.isBlank character = true)
    (apart : (after ++ value).head?.all (fun next => !Text.continuesWord next) = true) :
    Assigns value (before ++ ("to".toList ++ after))
  /-- The sign, with or without blanks around it. -/
  | sign {before after : List Char} (leading : ∀ character ∈ before, Text.isBlank character = true)
    (trailing : ∀ character ∈ after, Text.isBlank character = true)
    (apart : (after ++ value).head? ≠ some '=') :
    Assigns value (before ++ ("=".toList ++ after))

/-- The header of a block, as far as its spellings have it in common. -/
inductive Header where
  /-- A header that is written in one way only. -/
  | text (header : List Char)
  /-- The name of a binding and the text of its value. -/
  | binding (name value : List Char)

/-- How a header is written without a marker behind it. -/
inductive Header.WrittenAs : Header → List Char → Prop
  /-- The text of the header. -/
  | text {header : List Char} (opens : opensBlock header = true) : WrittenAs (.text header) header
  /-- The keyword, the name, the word or the sign, and the value. -/
  | binding {name value gap assignment : List Char} (isWord : Text.isWord name = true)
    (blank : ∀ character ∈ gap, Text.isBlank character = true) (apart : gap ≠ [])
    (assigns : Assigns value assignment) :
    WrittenAs (.binding name value) ("set".toList ++ (gap ++ (name ++ (assignment ++ value))))

/-- A header with or without a marker behind it. -/
inductive MayEnd (header : List Char) : List Char → Prop
  /-- The header alone. -/
  | bare : MayEnd header header
  /-- The header and the marker, with or without blanks between them. -/
  | marked {gap : List Char} (blank : ∀ character ∈ gap, Text.isBlank character = true) :
    MayEnd header (header ++ (gap ++ "||".toList))

/-- A branch with or without a marker in front. -/
inductive MayLead (branch : List Char) : List Char → Prop
  /-- The branch alone. -/
  | bare : MayLead branch branch
  /-- The marker and the branch, with or without blanks between them. -/
  | marked {gap : List Char} (blank : ∀ character ∈ gap, Text.isBlank character = true) :
    MayLead branch ("||".toList ++ (gap ++ branch))

/-- What a tag says, as far as its spellings have it in common. -/
inductive Meaning where
  /-- The header of a block. -/
  | opening (header : Header)
  /-- A branch with the text of its condition. -/
  | elif (condition : List Char)
  /-- The last branch of a block. -/
  | last
  /-- Whatever a text says. -/
  | other (text : List Char)

/-- How the tag is written in a block of a kind, without blanks around it. -/
inductive Meaning.WrittenAs (around : Option BlockKind) : Meaning → List Char → Prop
  /-- A header that ends in no marker itself, with or without one behind it. -/
  | opening {header : Header} {text written : List Char} (headed : header.WrittenAs text)
    (trimmed : isTrimmed text = true) (unmarked : Text.dropSuffix? "||".toList text = none)
    (ends : MayEnd text written) : WrittenAs around (.opening header) written
  /-- The keyword and the condition, with or without a marker in front. -/
  | elif {condition written : List Char}
    (apart : condition.head?.all (fun next => !Text.continuesWord next) = true)
    (trimmed : isTrimmed ("elif".toList ++ condition) = true)
    (leads : MayLead ("elif".toList ++ condition) written) :
    WrittenAs around (.elif condition) written
  /-- The marker alone. -/
  | bare : WrittenAs around .last "||".toList
  /-- The keyword of all blocks, with or without a marker in front. -/
  | otherwise {written : List Char} (leads : MayLead "else".toList written) :
    WrittenAs around .last written
  /-- The keyword of loops, with or without a marker in front. -/
  | empty {written : List Char} (inLoop : around = some .loop)
    (leads : MayLead "empty".toList written) : WrittenAs around .last written
  /-- Any text that is no comment. -/
  | other {text : List Char} (trimmed : isTrimmed text = true)
    (noComment : text.head? ≠ some '#') : WrittenAs around (.other text) text

/-- Contents that are the same, or that write the same tag in a block of a kind. -/
def Alternative (around : Option BlockKind) (content other : List Char) : Prop :=
  content = other ∨ ∃ (meaning : Meaning) (body twin : List Char),
    meaning.WrittenAs around body ∧ meaning.WrittenAs around twin ∧
      Encloses body content ∧ Encloses twin other

end Tag

/-- Whether a branch is the last one of a block of a kind. -/
def Branch.isLast (around : Option BlockKind) : Branch → Bool
  | .bare | .otherwise => true
  | .empty => around = some .loop
  | .elif _ => false

namespace Tag

/-- Tags that say the same in a block of a kind, wherever they stand. -/
inductive Resembles (around : Option BlockKind) : Tag → Tag → Prop
  /-- The same tag at another position. -/
  | moved (tag : Tag) (position : Position) : Resembles around tag (tag.moveTo position)
  /-- The last branch under another name. -/
  | last {branch other : Branch} (isLast : branch.isLast around = true)
    (alsoLast : other.isLast around = true) (position place : Position) :
    Resembles around (.continuation branch position) (.continuation other place)

/-! ## Headers -/

section Headers

variable {gap text tail : List Char} {start : Position}

/-- What follows the first word of a text decides nothing about the word. -/
theorem takeWhile_continuesWord_append
    (ends : tail.head?.all (fun next => !Text.continuesWord next) = true) :
    (text ++ tail).takeWhile Text.continuesWord = text.takeWhile Text.continuesWord := by
  induction text with
  | nil =>
    cases tail with
    | nil => rfl
    | cons next tail =>
      have stops : Text.continuesWord next = false := by simpa using ends
      simp [stops]
  | cons first others ih => simp only [List.cons_append, List.takeWhile_cons, ih]

/-- A header starts with a letter. -/
theorem solid_of_opensBlock (opens : opensBlock text = true) :
    text.head?.any Token.isSolid = true := by
  cases text with
  | nil => cases opens
  | cons first others =>
    cases continues : Text.continuesWord first with
    | true => exact Token.isSolid_of_continuesWord continues
    | false => simp [opensBlock, continues] at opens

/-- A text between two trimmed ones makes a trimmed text with them. -/
theorem isTrimmed_append {first last : List Char} (starts : isTrimmed first = true)
    (middle : List Char) (ends : isTrimmed last = true) :
    isTrimmed (first ++ (middle ++ last)) = true := by
  rw [isTrimmed, Bool.and_eq_true] at starts ends ⊢
  constructor
  · cases first with
    | nil => cases starts.1
    | cons next others => exact starts.1
  · cases found : last.getLast? with
    | none => rw [found] at ends; cases ends.2
    | some final =>
      rw [found] at ends
      simpa [List.getLast?_append, found] using ends.2

/-- A header is read without the marker behind it. -/
theorem parse_of_mayEnd {written : List Char} (opens : opensBlock text = true)
    (trimmed : isTrimmed text = true) (unmarked : Text.dropSuffix? "||".toList text = none)
    (ends : MayEnd text written) : parse .standard written start = parseBody text start := by
  have solid := solid_of_opensBlock opens
  cases ends with
  | bare =>
    rw [parse_eq_parseBody trimmed solid, withoutMarker]
    change Text.dropSuffix? ['|', '|'] text = none at unmarked
    simp only [unmarked, ite_self]
  | @marked gap blank =>
    have alsoOpens : opensBlock (text ++ (gap ++ "||".toList)) = true := by
      rwa [opensBlock, takeWhile_continuesWord_append (Text.ends_of_blanks blank fun _ => rfl)]
    have alsoTrimmed : isTrimmed (text ++ (gap ++ "||".toList)) = true :=
      isTrimmed_append trimmed gap rfl
    have found : Text.dropSuffix? ['|', '|'] (text ++ (gap ++ "||".toList)) =
        some (text ++ gap) := by
      rw [← List.append_assoc]
      exact Text.dropSuffix?_append _ _
    rw [parse_eq_parseBody alsoTrimmed (solid_of_opensBlock alsoOpens), withoutMarker,
      if_pos alsoOpens, found]
    simp only [trimEnd_append trimmed blank]

end Headers

/-! ## Branches -/

section Branches

variable {word : Keyword} {rest text gap : List Char} {position start : Position}

/-- The branch that a text writes, as a tag. -/
def readBranch (text : List Char) (position start : Position) : Except SyntaxError Tag :=
  TokenStream.ofText text position >>= fun stream =>
    parseBranch stream >>= fun branch => .ok (.continuation branch start)

/-- A branch is read alike wherever it stands. -/
theorem readBranch_moveTo {tag : Tag} (reads : readBranch text position start = .ok tag)
    (place other : Position) : readBranch text place other = .ok (tag.moveTo other) := by
  obtain ⟨_, found, -, rfl, -⟩ := (agree_branch text position place start other).exists_ok reads
  exact found

/-- A text starts with a keyword that it does not go on with. -/
theorem ofText_keyword (word : Keyword)
    (apart : rest.head?.all (fun next => !Text.continuesWord next) = true) (position : Position) :
    ∃ start behind, TokenStream.ofText (word.spelling.toList ++ rest) position =
      .ok (.token (.keyword word) start (Lexer.stream ⟨rest, behind, false⟩)) := by
  rw [TokenStream.ofText, Lexer.starting, Lexer.stream_word (Token.isWord_keyword word) apart,
    String.ofList_toList, Token.ofWord_keyword]
  exact ⟨_, _, rfl⟩

/-- A text that starts with the keyword of a branch is read as one. -/
theorem parseBody_keyword (isBranch : word = .elseWord ∨ word = .elifWord ∨ word = .emptyWord)
    (apart : rest.head?.all (fun next => !Text.continuesWord next) = true) (start : Position) :
    parseBody (word.spelling.toList ++ rest) start =
      readBranch (word.spelling.toList ++ rest) start start := by
  obtain ⟨first, behind, found⟩ := ofText_keyword word apart start
  rw [parseBody, readBranch, found]
  rcases isBranch with rfl | rfl | rfl <;> rfl

/-- A keyword of a branch opens no block. -/
theorem opensBlock_keyword (isBranch : word = .elseWord ∨ word = .elifWord ∨ word = .emptyWord)
    (apart : rest.head?.all (fun next => !Text.continuesWord next) = true) :
    opensBlock (word.spelling.toList ++ rest) = false := by
  rw [opensBlock, takeWhile_continuesWord_append apart]
  rcases isBranch with rfl | rfl | rfl <;> decide

/-- Behind a marker a branch is read. -/
theorem parse_marked (trimmed : isTrimmed text = true)
    (blank : ∀ character ∈ gap, Text.isBlank character = true) (start : Position) :
    parse .standard ("||".toList ++ (gap ++ text)) start =
      readBranch text ((start.advance ['|', '|']).advance gap) start := by
  have marker : Delimiters.standard.continuing.toList = ['|', '|'] := by decide
  have filled : text ≠ [] := by
    rintro rfl
    cases trimmed
  have starts := starts_of_isTrimmed trimmed []
  rw [List.append_nil] at starts
  have run := Token.span_append blank starts
  rw [List.span_eq_takeWhile_dropWhile] at run
  obtain ⟨inFront, behind⟩ := Prod.mk.inj run
  have whole : Text.trimEnd (("||".toList ++ (gap ++ text)).dropWhile Text.isBlank) =
      '|' :: ('|' :: (gap ++ text)) :=
    trimEnd_eq (@isTrimmed_append "||".toList text rfl gap trimmed)
  rw [parse_eq_of_ne .standard whole (by decide), marker]
  simp only [Text.dropPrefix?, ↓reduceIte, inFront, behind, List.isEmpty_eq_false_iff.mpr filled]
  rfl

/-- A branch is read without the marker in front of it. -/
theorem parse_of_mayLead {written : List Char}
    (isBranch : word = .elseWord ∨ word = .elifWord ∨ word = .emptyWord)
    (apart : rest.head?.all (fun next => !Text.continuesWord next) = true)
    (trimmed : isTrimmed (word.spelling.toList ++ rest) = true)
    (leads : MayLead (word.spelling.toList ++ rest) written) (start : Position) :
    ∃ position, parse .standard written start =
      readBranch (word.spelling.toList ++ rest) position start := by
  cases leads with
  | bare =>
    have solid : (word.spelling.toList ++ rest).head?.any Token.isSolid = true := by
      cases word <;> rfl
    refine ⟨start, ?_⟩
    rw [parse_eq_parseBody trimmed solid, withoutMarker, opensBlock_keyword isBranch apart,
      if_neg Bool.false_ne_true, parseBody_keyword isBranch apart]
  | marked blank => exact ⟨_, parse_marked trimmed blank start⟩

/-- The last branch is read by its keyword. -/
theorem readBranch_keyword (position start : Position) :
    readBranch "else".toList position start = .ok (.continuation .otherwise start) ∧
      readBranch "empty".toList position start = .ok (.continuation .empty start) := by
  have alone (word : Keyword) : ∃ first last,
      TokenStream.ofText word.spelling.toList position =
        .ok (.token (.keyword word) first (.finish last)) := by
    obtain ⟨first, behind, found⟩ := @ofText_keyword [] word rfl position
    rw [List.append_nil, Lexer.stream_finish (by simp)] at found
    exact ⟨first, _, found⟩
  constructor
  · obtain ⟨first, last, found⟩ := alone .elseWord
    exact (congrArg (· >>= _) found).trans rfl
  · obtain ⟨first, last, found⟩ := alone .emptyWord
    exact (congrArg (· >>= _) found).trans rfl

end Branches

/-! ## Bindings -/

section Bindings

variable {value name gap assignment : List Char} {position start : Position}

/-- The value behind the word or the sign is read as an expression of its own. -/
def readValue (value : List Char) (position : Position) : Except SyntaxError Expr :=
  (Lexer.stream ⟨value, position, false⟩).check >>= parseLast

/-- A value is read alike wherever it stands. -/
theorem readValue_eq {expression : Expr} (reads : readValue value position = .ok expression)
    (place : Position) : readValue value place = .ok expression := by
  have alike := (Lexer.alike_stream value false position place).check 0
  rw [TokenStream.drop_zero, TokenStream.drop_zero] at alike
  obtain ⟨_, found, rfl, -⟩ := (alike.bind fun _ _ same => agree_parseLast same).exists_ok reads
  exact found

/-- Behind the name stands the word or the sign, and behind that the value. -/
theorem stream_assigns (assigns : Assigns value assignment) (position : Position) :
    ∃ assign start behind, (assign = .keyword .toWord ∨ assign = .symbol .assign) ∧
      Lexer.stream ⟨assignment ++ value, position, false⟩ =
        .token assign start (Lexer.stream ⟨value, behind, false⟩) := by
  cases assigns with
  | word leading gap trailing apart =>
    have found : Token.ofWord (String.ofList "to".toList) = .keyword .toWord := by decide
    rw [List.append_assoc, List.append_assoc, Lexer.stream_blanks leading,
      Lexer.stream_word (by decide) apart, found, Lexer.stream_blanks trailing]
    exact ⟨_, _, _, Or.inl rfl, rfl⟩
  | @sign before after leading trailing apart =>
    have ends : (Token.symbol .assign).endsBefore (after ++ value) = true := by
      cases behind : after ++ value with
      | nil => rfl
      | cons next others =>
        rw [behind] at apart
        simpa [Token.endsBefore, Token.isExtendedBy] using apart
    have found := @Lexer.stream_token before "=".toList (after ++ value) position false leading
      rfl _ (Token.read_symbol false .assign ends) (by decide)
    rw [List.append_assoc, List.append_assoc, found, Lexer.stream_blanks trailing]
    exact ⟨_, _, _, Or.inr rfl, rfl⟩

/-- The text between the name of a binding and its value does not go on with the name. -/
theorem assigns_ends (assigns : Assigns value assignment) :
    (assignment ++ value).head?.all (fun next => !Text.continuesWord next) = true := by
  cases assigns with
  | word leading gap trailing apart =>
    rw [List.append_assoc]
    exact Text.ends_of_blanks leading fun empty => absurd empty gap
  | sign leading trailing apart =>
    rw [List.append_assoc]
    exact Text.ends_of_blanks leading fun _ => rfl

/-- The value of a binding is what is left behind the word or the sign. -/
theorem parseBinding_eq {assign : Token}
    (isAssign : assign = .keyword .toWord ∨ assign = .symbol .assign) (text : String)
    (first second third : Position) (rest : TokenStream) :
    parseBinding (.token (.keyword .setWord) first (.token (.name text) second
        (.token assign third rest))) =
      rest.check >>= fun rest => parseLast rest >>= fun value => .ok (.binding text value) := by
  rcases isAssign with rfl | rfl <;> rfl

/-- The header of a binding is read as its name and its value, whether the word or the sign stands
between them and with any blanks. -/
theorem parseBody_binding (isWord : Text.isWord name = true)
    (blank : ∀ character ∈ gap, Text.isBlank character = true) (apart : gap ≠ [])
    (assigns : Assigns value assignment) (start : Position) :
    ∃ place behind, parseBody ("set".toList ++ (gap ++ (name ++ (assignment ++ value)))) start =
      match Token.ofWord (String.ofList name) with
      | .name text => readValue value behind >>= fun expression =>
          .ok (.opening (.binding text expression) start)
      | found => .error ⟨.expectedName "a variable name" found, place⟩ := by
  have ends : (gap ++ (name ++ (assignment ++ value))).head?.all
      (fun next => !Text.continuesWord next) = true :=
    Text.ends_of_blanks blank fun empty => absurd empty apart
  obtain ⟨first, second, opened⟩ := ofText_keyword .setWord ends start
  rw [Lexer.stream_blanks blank, Lexer.stream_word isWord (assigns_ends assigns)] at opened
  obtain ⟨assign, third, behind, isAssign, found⟩ := stream_assigns assigns
    ((second.advance gap).advance name)
  rw [found] at opened
  change TokenStream.ofText ("set".toList ++ _) start = _ at opened
  refine ⟨second.advance gap, behind, ?_⟩
  rw [parseBody, opened]
  cases Token.ofWord (String.ofList name) with
  | name text =>
    change (parseBinding _ >>= fun header => Except.ok (Tag.opening header start)) = _
    rw [parseBinding_eq isAssign]
    -- Both sides read the value first, and only then wrap it up, in one step or in two.
    cases checked : (Lexer.stream ⟨value, behind, false⟩).check with
    | error failure => simp only [readValue, checked]; rfl
    | ok rest =>
      simp only [readValue, checked]
      change ((parseLast rest >>= _) >>= _) = (parseLast rest >>= _)
      cases parseLast rest <;> rfl
  | _ => rfl

end Bindings

/-! ## All spellings -/

section Spellings

variable {around : Option BlockKind} {body twin content other : List Char} {start : Position}
  {tag : Tag}

/-- A header opens a block, however it is written. -/
theorem Header.WrittenAs.opens {header : Header} (headed : header.WrittenAs body) :
    opensBlock body = true := by
  cases headed with
  | text opens => exact opens
  | @binding name value gap assignment isWord blank apart assigns =>
    have ends := @Text.ends_of_blanks gap (name ++ (assignment ++ value)) blank
      fun empty => absurd empty apart
    rw [opensBlock, takeWhile_continuesWord_append ends]
    decide

/-- A header that is accepted can be replaced by every other one that is the same. -/
theorem Header.WrittenAs.parseBody_eq {header : Header} (headed : header.WrittenAs body)
    (also : header.WrittenAs twin) (reads : parseBody body start = .ok tag) (place : Position) :
    parseBody twin place = .ok (tag.moveTo place) := by
  cases headed with
  | text opens =>
    cases also
    obtain ⟨_, found, -, rfl, -⟩ := (agree_parseBody body start place).exists_ok reads
    exact found
  | @binding name value gap assignment isWord blank apart assigns =>
    cases also with
    | binding _ alsoBlank alsoApart alsoAssigns =>
      obtain ⟨_, behind, found⟩ := parseBody_binding isWord blank apart assigns start
      obtain ⟨_, after, image⟩ := parseBody_binding isWord alsoBlank alsoApart alsoAssigns place
      rw [found] at reads
      rw [image]
      revert reads
      cases Token.ofWord (String.ofList name) with
      | name text =>
        intro reads
        obtain ⟨expression, valued, ⟨⟩⟩ := bind_eq_ok_iff.mp reads
        exact bind_eq_ok_iff.mpr ⟨expression, readValue_eq valued after, rfl⟩
      | _ => rintro ⟨⟩

/-- The last branch is read under one of its names, however it is written. -/
theorem Meaning.WrittenAs.parse_eq_last (written : Meaning.last.WrittenAs around body)
    (start : Position) : ∃ branch, branch.isLast around = true ∧
      parse .standard body start = .ok (.continuation branch start) := by
  cases written with
  | bare => exact ⟨.bare, rfl, rfl⟩
  | otherwise leads =>
    obtain ⟨position, found⟩ := @parse_of_mayLead .elseWord [] _ (Or.inl rfl) rfl (by decide)
      leads start
    exact ⟨.otherwise, rfl, found.trans (readBranch_keyword position start).1⟩
  | empty inLoop leads =>
    obtain ⟨position, found⟩ := @parse_of_mayLead .emptyWord [] _ (Or.inr (Or.inr rfl)) rfl
      (by decide) leads start
    exact ⟨.empty, decide_eq_true inLoop, found.trans (readBranch_keyword position start).2⟩

/-- A text that is accepted can be replaced by every other one that writes the same tag in a block
of the same kind. -/
theorem Meaning.WrittenAs.parse_eq {meaning : Meaning} (written : meaning.WrittenAs around body)
    (also : meaning.WrittenAs around twin) (reads : parse .standard body start = .ok tag)
    (place : Position) :
    ∃ image, parse .standard twin place = .ok image ∧ tag.Resembles around image := by
  cases meaning with
  | opening header =>
    cases written with
    | opening headed trimmed unmarked ends =>
      cases also with
      | opening alsoHeaded alsoTrimmed alsoUnmarked alsoEnds =>
        rw [parse_of_mayEnd headed.opens trimmed unmarked ends] at reads
        rw [parse_of_mayEnd alsoHeaded.opens alsoTrimmed alsoUnmarked alsoEnds]
        exact ⟨_, headed.parseBody_eq alsoHeaded reads place, .moved tag place⟩
  | elif condition =>
    cases written with
    | elif apart trimmed leads =>
      cases also with
      | elif _ _ alsoLeads =>
        obtain ⟨position, found⟩ := @parse_of_mayLead .elifWord condition _ (Or.inr (Or.inl rfl))
          apart trimmed leads start
        obtain ⟨after, image⟩ := @parse_of_mayLead .elifWord condition _ (Or.inr (Or.inl rfl))
          apart trimmed alsoLeads place
        rw [found] at reads
        exact ⟨_, image.trans (readBranch_moveTo reads after place), .moved tag place⟩
  | last =>
    obtain ⟨branch, isLast, found⟩ := written.parse_eq_last start
    obtain ⟨name, alsoLast, image⟩ := also.parse_eq_last place
    rw [found] at reads
    cases reads
    exact ⟨_, image, .last isLast alsoLast start place⟩
  | other text =>
    -- There is one way to write it, so only the position may differ.
    cases written
    cases also
    exact ⟨_, (parse_moveTo reads).2 place, .moved tag _⟩

/-- A branch has trimmed edges with or without a marker in front, and is no comment. -/
theorem MayLead.edges {branch : List Char} (leads : MayLead branch body)
    (trimmed : isTrimmed branch = true) (noComment : branch.head? ≠ some '#') :
    isTrimmed body = true ∧ body.head? ≠ some '#' := by
  cases leads with
  | bare => exact ⟨trimmed, noComment⟩
  | marked blank => exact ⟨isTrimmed_append rfl _ trimmed, by simp⟩

/-- A header has trimmed edges with or without a marker behind it, and is no comment. -/
theorem MayEnd.edges {header : List Char} (ends : MayEnd header body)
    (trimmed : isTrimmed header = true) (noComment : header.head? ≠ some '#') :
    isTrimmed body = true ∧ body.head? ≠ some '#' := by
  cases ends with
  | bare => exact ⟨trimmed, noComment⟩
  | @marked gap blank =>
    refine ⟨isTrimmed_append trimmed gap rfl, ?_⟩
    cases header with
    | nil => cases trimmed
    | cons first others => exact noComment

/-- A tag is written with trimmed edges, and as no comment. -/
theorem Meaning.WrittenAs.edges {meaning : Meaning} (written : meaning.WrittenAs around body) :
    isTrimmed body = true ∧ body.head? ≠ some '#' := by
  cases written with
  | opening headed trimmed unmarked ends =>
    refine ends.edges trimmed fun sign => ?_
    have solid := solid_of_opensBlock headed.opens
    rw [sign] at solid
    cases solid
  | elif apart trimmed leads => exact leads.edges trimmed (by simp)
  | bare => exact ⟨rfl, by simp⟩
  | otherwise leads => exact leads.edges (by decide) (by decide)
  | empty inLoop leads => exact leads.edges (by decide) (by decide)
  | other trimmed noComment => exact ⟨trimmed, noComment⟩

/-- A content that is accepted can be replaced by every alternative to it. -/
theorem Alternative.parse_eq (alternative : Alternative around content other)
    (reads : parse .standard content start = .ok tag) (place : Position) :
    ∃ image, parse .standard other place = .ok image ∧ tag.Resembles around image := by
  rcases alternative with rfl | ⟨meaning, body, twin, written, also, ⟨leading, trailing⟩, enclosed⟩
  · exact ⟨_, (parse_moveTo reads).2 place, .moved tag _⟩
  · obtain ⟨alsoLeading, alsoTrailing⟩ := enclosed
    rw [parse_enclosed .standard written.edges.1 leading trailing] at reads
    rw [parse_enclosed .standard also.edges.1 alsoLeading alsoTrailing]
    exact written.parse_eq also reads _

end Spellings

end Tag

end Stencil
