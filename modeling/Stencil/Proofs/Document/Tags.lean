import Stencil.Proofs.Document.Sections
import Stencil.Proofs.Expr.RoundTrip

/-!
# Reading back written tags

A text that writes the tokens of a tag is read as that tag. Blanks around the tokens are taken off;
what is left starts with no marker and no number sign and ends with no marker, because every token
has solid edges, so the tag is neither a comment nor a continuation by its marker.
-/

namespace Stencil

open TokenStream (Spells)

/-- An expression that is all of a stream is read when it is readable. -/
theorem parseLast_of_isReadable {expression : Expr} {stream : TokenStream} {finish : Position}
    (readable : expression.isReadable = true)
    (spells : Spells expression.tokens stream (.finish finish)) :
    Tag.parseLast stream = .ok expression := by
  simp only [Expr.isReadable, Bool.and_eq_true, decide_eq_true_eq] at readable
  exact (Expr.resumes_parseLast readable.1 spells).accepted readable.2

/-- A name in front of other tokens is read. -/
theorem TokenStream.Spells.expectName_eq {text : String} {tokens : List Token}
    {stream rest : TokenStream} (spells : Spells (.name text :: tokens) stream rest)
    (readable : rest.check = .ok rest) (purpose : String) :
    ∃ after, stream.expectName purpose = .ok (text, after) ∧ Spells tokens after rest := by
  obtain ⟨after, moved, others⟩ := spells.advance_eq readable
  refine ⟨after, ?_, others⟩
  rw [expectName, spells.peek_eq]
  simp only [moved]
  rfl

namespace Tag

variable {stream : TokenStream} {finish start : Position}

/-- The header of a loop is read back. -/
theorem parseLoop_tokens {key : Option String} {value : String} {source : Expr}
    (readable : source.isReadable = true)
    (spells : Spells (Opening.loop key value source).tokens stream (.finish finish)) :
    parseLoop stream = .ok (.loop key value source) := by
  cases key with
  | none =>
    obtain ⟨first, moved, others⟩ := spells.advance_eq rfl
    obtain ⟨second, named, others⟩ := others.expectName_eq rfl "a loop variable"
    have noComma : second.peek ≠ .symbol .comma := by
      rw [others.peek_eq]
      decide
    obtain ⟨third, passed, last⟩ := others.expect_eq rfl
    refine bind_eq_ok_iff.mpr ⟨first, moved, bind_eq_ok_iff.mpr ⟨(value, second), named, ?_⟩⟩
    dsimp only
    rw [if_neg noComma]
    exact bind_eq_ok_iff.mpr ⟨third, passed,
      bind_eq_ok_iff.mpr ⟨source, parseLast_of_isReadable readable last, rfl⟩⟩
  | some key =>
    obtain ⟨first, moved, others⟩ := spells.advance_eq rfl
    obtain ⟨second, named, others⟩ := others.expectName_eq rfl "a loop variable"
    have comma : second.peek = .symbol .comma := others.peek_eq
    obtain ⟨third, behind, others⟩ := others.advance_eq rfl
    obtain ⟨fourth, valued, others⟩ := others.expectName_eq rfl "a value variable"
    obtain ⟨fifth, passed, last⟩ := others.expect_eq rfl
    refine bind_eq_ok_iff.mpr ⟨first, moved, bind_eq_ok_iff.mpr ⟨(key, second), named, ?_⟩⟩
    dsimp only
    rw [if_pos comma]
    exact bind_eq_ok_iff.mpr ⟨third, behind, bind_eq_ok_iff.mpr ⟨(value, fourth), valued,
      bind_eq_ok_iff.mpr ⟨fifth, passed,
        bind_eq_ok_iff.mpr ⟨source, parseLast_of_isReadable readable last, rfl⟩⟩⟩⟩

/-- The header of a binding is read back. -/
theorem parseBinding_tokens {name : String} {value : Expr} (readable : value.isReadable = true)
    (spells : Spells (Opening.binding name value).tokens stream (.finish finish)) :
    parseBinding stream = .ok (.binding name value) := by
  obtain ⟨first, moved, others⟩ := spells.advance_eq rfl
  obtain ⟨second, named, others⟩ := others.expectName_eq rfl "a variable name"
  have assigned : (second.peek = .keyword .toWord || second.peek = .symbol .assign) = true := by
    rw [others.peek_eq]
    rfl
  obtain ⟨third, passed, last⟩ := others.advance_eq rfl
  refine bind_eq_ok_iff.mpr ⟨first, moved, bind_eq_ok_iff.mpr ⟨(name, second), named, ?_⟩⟩
  dsimp only
  rw [if_pos assigned]
  exact bind_eq_ok_iff.mpr ⟨third, passed,
    bind_eq_ok_iff.mpr ⟨value, parseLast_of_isReadable readable last, rfl⟩⟩

/-- The header of a branch is read back. -/
theorem parseBranch_tokens {branch : Branch} (readable : branch.isReadable = true)
    (spells : Spells branch.tokens stream (.finish finish)) :
    parseBranch stream = .ok branch := by
  cases branch with
  | bare => cases readable
  | otherwise =>
    obtain ⟨rest, moved, ⟨⟩⟩ := spells.advance_eq rfl
    rw [parseBranch, spells.peek_eq]
    exact bind_eq_ok_iff.mpr ⟨_, moved, rfl⟩
  | empty =>
    obtain ⟨rest, moved, ⟨⟩⟩ := spells.advance_eq rfl
    rw [parseBranch, spells.peek_eq]
    exact bind_eq_ok_iff.mpr ⟨_, moved, rfl⟩
  | elif condition =>
    obtain ⟨rest, moved, last⟩ := spells.advance_eq rfl
    rw [parseBranch, spells.peek_eq]
    exact bind_eq_ok_iff.mpr ⟨rest, moved,
      bind_eq_ok_iff.mpr ⟨condition, parseLast_of_isReadable readable last, rfl⟩⟩

/-- A tag without blanks around it is read back, at the place where it starts. -/
theorem parseBody_writes {tag : Tag} {body : List Char} (readable : tag.isReadable = true)
    (writes : Token.Writes tag.tokens body) (start : Position) :
    parseBody body start = .ok (tag.moveTo start) := by
  obtain ⟨stream, finish, lexed, spells⟩ := TokenStream.ofText_eq_ok writes start
  refine bind_eq_ok_iff.mpr ⟨stream, lexed, ?_⟩
  cases tag with
  | comment => cases readable
  | output expression =>
    obtain ⟨first, others, level, written, known, -⟩ := Expr.starts_tokens expression
    have read := parseLast_of_isReadable readable spells
    have peek : stream.peek = first := by
      change Spells expression.tokens _ _ at spells
      rw [written] at spells
      exact spells.peek_eq
    have whole : (parseLast stream >>= fun expression => .ok (.output expression)) =
        (.ok (.output expression) : Except SyntaxError Tag) :=
      bind_eq_ok_iff.mpr ⟨expression, read, rfl⟩
    rw [peek]
    cases first with
    | keyword word => cases word <;> first | exact whole | cases known
    | finish => cases known
    | name | string | integer | float | boolean | null | symbol => exact whole
  | opening header position =>
    cases header with
    | conditional condition =>
      obtain ⟨rest, moved, last⟩ := spells.advance_eq rfl
      rw [spells.peek_eq]
      exact bind_eq_ok_iff.mpr ⟨rest, moved,
        bind_eq_ok_iff.mpr ⟨condition, parseLast_of_isReadable readable last, rfl⟩⟩
    | loop key value source =>
      have sourceReadable : source.isReadable = true := by
        simp only [isReadable, Opening.isReadable, Bool.and_eq_true] at readable
        exact readable.2
      have peek : stream.peek = .keyword .forWord := by
        cases key <;> exact spells.peek_eq
      rw [peek]
      exact bind_eq_ok_iff.mpr ⟨_, parseLoop_tokens sourceReadable spells, rfl⟩
    | binding name value =>
      have valueReadable : value.isReadable = true := by
        simp only [isReadable, Opening.isReadable, Bool.and_eq_true] at readable
        exact readable.2
      rw [spells.peek_eq]
      exact bind_eq_ok_iff.mpr ⟨_, parseBinding_tokens valueReadable spells, rfl⟩
  | continuation branch position =>
    have read := parseBranch_tokens readable spells
    cases branch with
    | bare => cases readable
    | otherwise | empty | elif =>
      rw [spells.peek_eq]
      exact bind_eq_ok_iff.mpr ⟨_, read, rfl⟩
  | closing position =>
    obtain ⟨rest, moved, ⟨⟩⟩ := spells.advance_eq rfl
    rw [spells.peek_eq]
    exact bind_eq_ok_iff.mpr ⟨_, moved, rfl⟩

/-! ## Trimming -/

/-- Whether a text starts and ends with characters that are no blanks. -/
def isTrimmed (text : List Char) : Bool :=
  text.head?.any (fun first => !Text.isBlank first) &&
    text.getLast?.any fun last => !Text.isBlank last

/-- A text with solid edges is trimmed. -/
theorem isTrimmed_of_hasSolidEdges {text : List Char} (edges : Token.hasSolidEdges text = true) :
    isTrimmed text = true := by
  have notBlank (character : Char) (solid : Token.isSolid character = true) :
      (!Text.isBlank character) = true := by
    simp only [Token.isSolid, Bool.and_eq_true] at solid
    exact solid.1.1
  simp only [Token.hasSolidEdges, Bool.and_eq_true, Option.any_eq_true_iff_get] at edges
  simp only [isTrimmed, Bool.and_eq_true, Option.any_eq_true_iff_get]
  exact ⟨edges.1.imp fun _ => notBlank _, edges.2.imp fun _ => notBlank _⟩

/-- The blanks behind a trimmed text are taken off. -/
theorem trimEnd_append {body back : List Char} (trimmed : isTrimmed body = true)
    (blank : ∀ character ∈ back, Text.isBlank character = true) :
    Text.trimEnd (body ++ back) = body := by
  rw [isTrimmed, Bool.and_eq_true] at trimmed
  cases found : body.getLast? with
  | none =>
    rw [found] at trimmed
    cases trimmed.2
  | some last =>
    obtain ⟨others, rfl⟩ := List.getLast?_eq_some_iff.mp found
    have notBlank : Text.isBlank last = false := by simpa [found] using trimmed.2
    rw [Text.trimEnd, List.reverse_append,
      List.dropWhile_append_of_pos fun character member => blank character (by simpa using member)]
    simp [notBlank]

/-- Nothing is taken off a trimmed text. -/
theorem trimEnd_eq {body : List Char} (trimmed : isTrimmed body = true) :
    Text.trimEnd body = body := by
  have ends := @trimEnd_append body [] trimmed (by simp)
  rwa [List.append_nil] at ends

/-- A trimmed text starts with no blank, whatever follows it. -/
theorem starts_of_isTrimmed {body : List Char} (trimmed : isTrimmed body = true)
    (behind : List Char) :
    (body ++ behind).head?.all (fun next => !Text.isBlank next) = true := by
  cases body with
  | nil => cases trimmed
  | cons first others =>
    simp only [isTrimmed, Bool.and_eq_true, List.head?_cons, Option.any_some] at trimmed
    exact trimmed.1

/-- Blanks around the content of a tag move it, and change nothing else. -/
theorem parse_enclosed (delimiters : Delimiters) {front body back : List Char}
    (trimmed : isTrimmed body = true)
    (leading : ∀ character ∈ front, Text.isBlank character = true)
    (trailing : ∀ character ∈ back, Text.isBlank character = true) (start : Position) :
    parse delimiters (front ++ (body ++ back)) start =
      parse delimiters body (start.advance front) := by
  have run := Token.span_append leading (starts_of_isTrimmed trimmed back)
  have alone : ([] ++ (body ++ [])).span Text.isBlank = ([], body ++ []) :=
    Token.span_append (by simp) (starts_of_isTrimmed trimmed [])
  rw [List.nil_append, List.append_nil] at alone
  rw [parse, parse, run, alone]
  simp only [trimEnd_append trimmed trailing, trimEnd_eq trimmed, Position.advance_nil]

/-- A content that starts with a solid character is neither a comment nor marked as a
continuation. -/
theorem parse_eq_parseBody {body : List Char} (trimmed : isTrimmed body = true)
    (solid : body.head?.any Token.isSolid = true) (start : Position) :
    parse .standard body start = parseBody (withoutMarker ['|', '|'] body) start := by
  cases body with
  | nil => cases trimmed
  | cons first others =>
    simp only [List.head?_cons, Option.any_some, Token.isSolid, Bool.and_eq_true,
      Bool.not_eq_true', bne_iff_ne] at solid
    obtain ⟨⟨notBlank, notBar⟩, notSign⟩ := solid
    have none : (first :: others).takeWhile Text.isBlank = [] := by simp [notBlank]
    have all : (first :: others).dropWhile Text.isBlank = first :: others := by simp [notBlank]
    have marker : Delimiters.standard.continuing.toList = ['|', '|'] := by decide
    have noMarker : Text.dropPrefix? ['|', '|'] (first :: others) = .none := by
      simp [Text.dropPrefix?, Ne.symm notBar]
    have whole : Text.trimEnd ((first :: others).dropWhile Text.isBlank) = first :: others := by
      rw [all, trimEnd_eq trimmed]
    rw [parse_eq_of_ne .standard whole notSign, marker, noMarker, none]
    rfl

/-- A text with solid edges has no continuing marker to be taken off. -/
theorem withoutMarker_eq {body : List Char} (edges : Token.hasSolidEdges body = true) :
    withoutMarker ['|', '|'] body = body := by
  obtain ⟨others, last, rfl, solid⟩ := Token.eq_append_solid edges
  have notBar : '|' ≠ last := by
    rintro rfl
    cases solid
  have noMarker : Text.dropSuffix? ['|', '|'] (others ++ [last]) = none := by
    simp [Text.dropSuffix?, Text.dropPrefix?, notBar]
  rw [withoutMarker, noMarker]
  exact ite_self _

/-- A tag that can be read has a token. -/
theorem tokens_ne_nil {tag : Tag} (readable : tag.isReadable = true) : tag.tokens ≠ [] := by
  cases tag with
  | comment => cases readable
  | output expression =>
    obtain ⟨first, others, level, written, -⟩ := Expr.starts_tokens expression
    rw [tokens, written]
    exact List.cons_ne_nil first others
  | opening header position =>
    cases header with
    | loop key value source => cases key <;> exact List.cons_ne_nil _ _
    | conditional | binding => exact List.cons_ne_nil _ _
  | continuation branch position =>
    cases branch with
    | bare => cases readable
    | otherwise | elif | empty => exact List.cons_ne_nil _ _
  | closing position => exact List.cons_ne_nil _ _

/-- A tag is read back from between its markers. -/
theorem parse_writes {tag : Tag} {content : List Char} (readable : tag.isReadable = true)
    (writes : Token.Writes tag.tokens content) (position : Position) :
    ∃ start, parse .standard content position = .ok (tag.moveTo start) := by
  obtain ⟨front, body, back, rfl, leading, trailing, inside, edges⟩ :=
    writes.edges (tokens_ne_nil readable)
  have solid : body.head?.any Token.isSolid = true := by
    rw [Token.hasSolidEdges, Bool.and_eq_true] at edges
    exact edges.1
  have trimmed := isTrimmed_of_hasSolidEdges edges
  refine ⟨position.advance front, ?_⟩
  rw [parse_enclosed .standard trimmed leading trailing, parse_eq_parseBody trimmed solid,
    withoutMarker_eq edges]
  exact parseBody_writes readable inside (position.advance front)

end Tag

end Stencil
