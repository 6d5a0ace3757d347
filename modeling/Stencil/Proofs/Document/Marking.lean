import Mathlib.Data.List.Infix
import Stencil.Proofs.Document.Spellings

/-!
# What a marker makes of a tag

The continuing marker is looked for in front of every tag and behind the header of every block. A
content that it starts is a continuation or cannot be read, and any other is read as it stands, but
for a marker behind a header. The statements below say what becomes of the words of a conditional,
and which texts start a last branch by themselves.
-/

namespace Stencil

namespace Text

/-- A blank on either side of a text is trimmed off like those of the text. -/
theorem trim_spaced (text : List Char) : trim (' ' :: (text ++ [' '])) = trim text := by
  have start : trimStart (' ' :: (text ++ [' '])) = trimStart (text ++ [' ']) := rfl
  rw [trim, trim, start, trimStart, trimStart, List.dropWhile_append]
  split_ifs with nothing
  · rw [List.isEmpty_iff.mp nothing]
    rfl
  · rw [trimEnd, List.reverse_append]
    rfl

/-- Trimming makes no text longer. -/
theorem length_trim_le (text : List Char) : (trim text).length ≤ text.length := by
  have ending (text : List Char) : (trimEnd text).length ≤ text.length := by
    rw [trimEnd, List.length_reverse, ← @List.length_reverse _ text]
    exact (List.dropWhile_suffix _).length_le
  exact (ending _).trans (List.dropWhile_suffix _).length_le

/-- What is left of a text by trimming has no blanks around it. -/
theorem isTrimmed_trim {text : List Char} (filled : trim text ≠ []) :
    Tag.isTrimmed (trim text) = true := by
  obtain ⟨blanks, whole, -⟩ := exists_trimEnd_append (trimStart text)
  have solidStart := Token.head?_dropWhile isBlank text
  have solidEnd := Token.head?_dropWhile isBlank (trimStart text).reverse
  rw [← trimStart, whole, ← trim] at solidStart
  have ending : (trim text).getLast? = ((trimStart text).reverse.dropWhile isBlank).head? := by
    rw [trim, trimEnd, List.getLast?_reverse]
  rw [← ending] at solidEnd
  cases characters : trim text with
  | nil => exact absurd characters filled
  | cons first others =>
    rw [characters] at solidStart solidEnd
    rw [Tag.isTrimmed, Bool.and_eq_true]
    refine ⟨solidStart, ?_⟩
    cases last : (first :: others).getLast? with
    | none => cases List.getLast?_eq_none_iff.mp last
    | some final =>
      rw [last] at solidEnd
      exact solidEnd

end Text

namespace Tag

variable {delimiters : Delimiters} {content : List Char} {start : Position} {tag : Tag}

/-- What a tag without blanks around it says is the same wherever it stands. -/
theorem parseBody_moveTo {body : List Char} {place : Position}
    (reads : parseBody body place = .ok tag) (position : Position) :
    parseBody body position = .ok (tag.moveTo position) := by
  obtain ⟨_, found, -, rfl, -⟩ := (agree_parseBody body place position).exists_ok reads
  exact found

variable {body : List Char} (trimmed : Text.trim content = body)
  (sign : body.head?.any (· != '#') = true)

include trimmed sign

/-- A content that is no comment is a continuation when its marker stands in front, and is read
without the marker behind it when not. -/
theorem parse_eq_of_trim (start : Position) :
    parse delimiters content start =
      match Text.dropPrefix? delimiters.continuing.toList body with
      | some after =>
        if (after.dropWhile Text.isBlank).isEmpty then
          .ok (.continuation .bare (start.advance (content.takeWhile Text.isBlank)))
        else
          readBranch (after.dropWhile Text.isBlank)
            (((start.advance (content.takeWhile Text.isBlank)).advance
              delimiters.continuing.toList).advance (after.takeWhile Text.isBlank))
            (start.advance (content.takeWhile Text.isBlank))
      | none =>
        parseBody (withoutMarker delimiters.continuing.toList body)
          (start.advance (content.takeWhile Text.isBlank)) := by
  cases body with
  | nil => cases sign
  | cons first others =>
    have other : first ≠ '#' := by simpa using sign
    exact parse_eq_of_ne delimiters trimmed other start

/-- A content that the marker starts is a continuation when it can be read. -/
theorem exists_continuation (marked : delimiters.continuing.toList <+: body)
    (reads : parse delimiters content start = .ok tag) :
    ∃ branch position, tag = .continuation branch position := by
  obtain ⟨after, whole⟩ := marked
  rw [parse_eq_of_trim trimmed sign, Text.dropPrefix?_eq_some_iff.mpr whole.symm] at reads
  dsimp only at reads
  split_ifs at reads
  · cases reads
    exact ⟨_, _, rfl⟩
  · obtain ⟨stream, -, rest⟩ := bind_eq_ok_iff.mp reads
    obtain ⟨branch, -, same⟩ := bind_eq_ok_iff.mp rest
    cases same
    exact ⟨_, _, rfl⟩

/-- Behind the marker a branch is read. -/
theorem parse_of_marked {after : List Char} (whole : body = delimiters.continuing.toList ++ after)
    (solid : after.head?.any (fun first => !Text.isBlank first) = true) (start : Position) :
    ∃ position place, parse delimiters content start = readBranch after position place := by
  have notBlank : after.dropWhile Text.isBlank = after ∧ after.isEmpty = false := by
    cases after with
    | nil => cases solid
    | cons first others =>
      have notBlank : Text.isBlank first = false := by simpa using solid
      exact ⟨List.dropWhile_cons_of_neg (by simp [notBlank]), rfl⟩
  rw [parse_eq_of_trim trimmed sign, Text.dropPrefix?_eq_some_iff.mpr whole]
  simp only [notBlank]
  exact ⟨_, _, rfl⟩

/-- A content that is the marker starts the last branch. -/
theorem parse_of_marker (same : delimiters.continuing.toList = body) (start : Position) :
    ∃ position, parse delimiters content start = .ok (.continuation .bare position) := by
  have nothing : Text.dropPrefix? delimiters.continuing.toList body = some [] :=
    Text.dropPrefix?_eq_some_iff.mpr (by rw [same, List.append_nil])
  rw [parse_eq_of_trim trimmed sign, nothing]
  exact ⟨_, rfl⟩

/-- A content that the marker does not start is read without the marker behind it. -/
theorem parse_of_unmarked (starts : ¬delimiters.continuing.toList <+: body) (start : Position) :
    ∃ position, parse delimiters content start =
      parseBody (withoutMarker delimiters.continuing.toList body) position := by
  have noPrefix : Text.dropPrefix? delimiters.continuing.toList body = none := by
    cases found : Text.dropPrefix? delimiters.continuing.toList body with
    | none => rfl
    | some after => exact absurd ⟨after, (Text.dropPrefix?_eq_some_iff.mp found).symm⟩ starts
  rw [parse_eq_of_trim trimmed sign, noPrefix]
  exact ⟨_, rfl⟩

omit trimmed sign

/-- No marker is taken off a text that does not end in it, and none off a text that opens no
block. -/
theorem withoutMarker_eq_self {marker : List Char}
    (ends : opensBlock body = true → ¬marker <:+ body) : withoutMarker marker body = body := by
  unfold withoutMarker
  split_ifs with opens
  · cases found : Text.dropSuffix? marker body with
    | none => rfl
    | some header => exact absurd ⟨header, (Text.eq_of_dropSuffix? found).symm⟩ (ends opens)
  · rfl

/-- The header of the conditional opens it when the marker takes nothing off it. -/
theorem parse_header (starts : ¬delimiters.continuing.toList <+: "if x".toList)
    (ends : ¬delimiters.continuing.toList <:+ "if x".toList) (start : Position) :
    ∃ position, parse delimiters " if x ".toList start =
      .ok (.opening (.conditional (.name "x")) position) := by
  obtain ⟨position, read⟩ := @parse_of_unmarked delimiters " if x ".toList "if x".toList
    (by decide) (by decide) starts start
  have plain : parseBody "if x".toList .origin =
      .ok (.opening (.conditional (.name "x")) .origin) := by with_unfolding_all rfl
  rw [withoutMarker_eq_self fun _ => ends] at read
  exact ⟨position, read.trans (parseBody_moveTo plain position)⟩

/-- The header of the conditional opens a block only when the marker takes nothing off it. -/
theorem unmarked_of_opening {header : Opening} {position : Position}
    (opens : parse delimiters " if x ".toList start = .ok (.opening header position)) :
    ¬delimiters.continuing.toList <+: "if x".toList ∧
      ¬delimiters.continuing.toList <:+ "if x".toList := by
  have trimmed : Text.trim " if x ".toList = "if x".toList := by decide
  have starts : ¬delimiters.continuing.toList <+: "if x".toList := by
    intro marked
    obtain ⟨branch, place, same⟩ := exists_continuation trimmed (by decide) marked opens
    cases same
  refine ⟨starts, ?_⟩
  rintro ⟨before, whole⟩
  have cut : withoutMarker delimiters.continuing.toList "if x".toList = Text.trimEnd before := by
    rw [withoutMarker, if_pos (by decide), ← whole, Text.dropSuffix?_append]
  obtain ⟨place, read⟩ := parse_of_unmarked trimmed (by decide) starts start
  rw [read, cut] at opens
  have moved := parseBody_moveTo opens .origin
  -- What is left of the header is too short to open a block.
  have parts : "if x".toList.inits = [[], ['i'], ['i', 'f'], ['i', 'f', ' '], "if x".toList] := by
    decide
  have left : before ∈ "if x".toList.inits := (List.mem_inits _ _).mpr ⟨_, whole⟩
  simp only [parts, List.mem_cons, List.not_mem_nil, or_false] at left
  rcases left with rfl | rfl | rfl | rfl | rfl
  · have nothing : parseBody (Text.trimEnd []) .origin =
        .error ⟨.missingExpression, .origin⟩ := by with_unfolding_all rfl
    cases nothing.symm.trans moved
  · have name : parseBody (Text.trimEnd ['i']) .origin = .ok (.output (.name "i")) := by
      with_unfolding_all rfl
    cases name.symm.trans moved
  · have word : parseBody (Text.trimEnd ['i', 'f']) .origin =
        .error ⟨.missingExpression, ⟨1, 3⟩⟩ := by with_unfolding_all rfl
    cases word.symm.trans moved
  · have word : parseBody (Text.trimEnd ['i', 'f', ' ']) .origin =
        .error ⟨.missingExpression, ⟨1, 3⟩⟩ := by with_unfolding_all rfl
    cases word.symm.trans moved
  · exact delimiters.continuing_ne (List.append_right_eq_self.mp whole)

/-- The end of the conditional closes it when the marker does not start it. -/
theorem parse_footer (starts : ¬delimiters.continuing.toList <+: "end".toList) (start : Position) :
    ∃ position, parse delimiters " end ".toList start = .ok (.closing position) := by
  obtain ⟨position, read⟩ := @parse_of_unmarked delimiters " end ".toList "end".toList
    (by decide) (by decide) starts start
  have plain : parseBody "end".toList .origin = .ok (.closing .origin) := by with_unfolding_all rfl
  rw [withoutMarker_eq_self fun opens => absurd opens (by decide)] at read
  exact ⟨position, read.trans (parseBody_moveTo plain position)⟩

/-- The keyword starts the last branch when the marker does not take it apart. -/
theorem parse_keyword (whole : delimiters.continuing.toList <+: "else".toList →
      delimiters.continuing.toList = "else".toList) (start : Position) :
    ∃ branch position, parse delimiters " else ".toList start =
      .ok (.continuation branch position) ∧ (branch = .bare ∨ branch = .otherwise) := by
  have trimmed : Text.trim " else ".toList = "else".toList := by decide
  by_cases marked : delimiters.continuing.toList <+: "else".toList
  · obtain ⟨position, read⟩ := parse_of_marker trimmed (by decide) (whole marked) start
    exact ⟨.bare, position, read, Or.inl rfl⟩
  · obtain ⟨position, read⟩ := parse_of_unmarked trimmed (by decide) marked start
    have plain : parseBody "else".toList .origin = .ok (.continuation .otherwise .origin) := by
      with_unfolding_all rfl
    rw [withoutMarker_eq_self fun opens => absurd opens (by decide)] at read
    exact ⟨.otherwise, position, read.trans (parseBody_moveTo plain position), Or.inr rfl⟩

/-- A marker that takes the keyword apart leaves no branch of it. -/
theorem eq_keyword_of_parse (reads : parse delimiters " else ".toList start = .ok tag)
    (marked : delimiters.continuing.toList <+: "else".toList) :
    delimiters.continuing.toList = "else".toList := by
  obtain ⟨after, whole⟩ := marked
  have left : after ∈ "else".toList.tails := (List.mem_tails _ _).mpr ⟨_, whole⟩
  have parts : "else".toList.tails =
      ["else".toList, "lse".toList, "se".toList, "e".toList, []] := by decide
  have refused (solid : after.head?.any (fun first => !Text.isBlank first) = true)
      {error : SyntaxError} (fails : readBranch after .origin .origin = .error error) : False := by
    obtain ⟨position, place, read⟩ := @parse_of_marked delimiters " else ".toList "else".toList
      (by decide) (by decide) after whole.symm solid start
    cases fails.symm.trans (readBranch_moveTo (read.symm.trans reads) .origin .origin)
  simp only [parts, List.mem_cons, List.not_mem_nil, or_false] at left
  rcases left with rfl | rfl | rfl | rfl | rfl
  · exact absurd (List.append_left_eq_self.mp whole) delimiters.continuing_ne
  · exact (refused (by decide) (by with_unfolding_all rfl)).elim
  · exact (refused (by decide) (by with_unfolding_all rfl)).elim
  · exact (refused (by decide) (by with_unfolding_all rfl)).elim
  · rwa [List.append_nil] at whole

/-- A last branch is read from its keyword alone. -/
theorem peek_of_parseBranch {stream : TokenStream} {branch : Branch}
    (reads : parseBranch stream = .ok branch) (last : branch = .bare ∨ branch = .otherwise) :
    stream.peek = .keyword .elseWord ∧
      ∃ rest, stream.advance = .ok rest ∧ rest.expectFinish = .ok () := by
  unfold parseBranch at reads
  split at reads
  case h_1 front =>
    obtain ⟨rest, moved, others⟩ := bind_eq_ok_iff.mp reads
    obtain ⟨⟨⟩, ends, -⟩ := bind_eq_ok_iff.mp others
    exact ⟨front, rest, moved, ends⟩
  case h_2 | h_3 =>
    obtain ⟨rest, -, others⟩ := bind_eq_ok_iff.mp reads
    obtain ⟨_, -, same⟩ := bind_eq_ok_iff.mp others
    cases same
    rcases last with same | same <;> cases same
  case h_4 => cases reads

/-- A text that is no comment is read as none, and as a continuation only by the word of a
branch. -/
theorem parseBody_cases {body : List Char} (reads : parseBody body start = .ok tag) :
    tag ≠ .comment ∧ ∀ branch position, tag = .continuation branch position →
      ∃ stream, TokenStream.ofText body start = .ok stream ∧ parseBranch stream = .ok branch := by
  obtain ⟨stream, lexed, others⟩ := bind_eq_ok_iff.mp reads
  split at others
  case h_4 | h_5 | h_6 =>
    obtain ⟨branch, read, same⟩ := bind_eq_ok_iff.mp others
    cases same
    refine ⟨Tag.noConfusion, fun _ _ same => ⟨stream, lexed, ?_⟩⟩
    cases same
    exact read
  case h_1 | h_7 =>
    obtain ⟨rest, -, others⟩ := bind_eq_ok_iff.mp others
    obtain ⟨_, -, same⟩ := bind_eq_ok_iff.mp others
    cases same
    exact ⟨Tag.noConfusion, fun _ _ => Tag.noConfusion⟩
  all_goals
    obtain ⟨_, -, same⟩ := bind_eq_ok_iff.mp others
    cases same
    exact ⟨Tag.noConfusion, fun _ _ => Tag.noConfusion⟩

/-- A text without blanks around it starts a last branch only when it is the keyword. -/
theorem eq_keyword_of_parseBody {body : List Char} (edges : isTrimmed body = true)
    {branch : Branch} {position : Position}
    (reads : parseBody body start = .ok (.continuation branch position))
    (last : branch = .bare ∨ branch = .otherwise) : body = "else".toList := by
  obtain ⟨-, branches⟩ := parseBody_cases reads
  obtain ⟨stream, lexed, read⟩ := branches branch position rfl
  obtain ⟨front, rest, moved, ends⟩ := peek_of_parseBranch read last
  have solid := starts_of_isTrimmed edges []
  rw [List.append_nil] at solid
  obtain ⟨behind, place, tail, whole, advanced, lexes⟩ :=
    TokenStream.exists_of_peek_eq_keyword solid lexed front
  have blank := TokenStream.blank_of_expectFinish lexes (advanced.symm.trans moved) ends
  calc
    body = Text.trimEnd body := (trimEnd_eq edges).symm
    _ = Text.trimEnd ("else".toList ++ behind) := congrArg Text.trimEnd whole
    _ = "else".toList := trimEnd_append (by decide) blank

end Tag

end Stencil
