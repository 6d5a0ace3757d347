import Stencil.Proofs.Token.Spelling
import Stencil.Template.Token.Stream

/-!
# Texts that write tokens

A text writes some tokens when it holds their spellings in order, with blanks anywhere between them
and at least one blank where a token would otherwise go on into the next. The main statement is that
a lexer makes exactly these tokens of such a text, from whatever position it starts.
-/

namespace Stencil

namespace Token

/-- A text that writes tokens in order. -/
inductive Writes : List Token → List Char → Prop
  /-- Only blanks are left. -/
  | done {blanks : List Char} (blank : ∀ character ∈ blanks, Text.isBlank character = true) :
    Writes [] blanks
  /-- Blanks, a token that ends where the rest begins, and the rest. -/
  | token {first : Token} {tokens : List Token} {tail : List Char} (blanks : List Char)
    (blank : ∀ character ∈ blanks, Text.isBlank character = true)
    (written : first.hasSpelling = true) (ends : first.endsBefore tail = true)
    (others : Writes tokens tail) :
    Writes (first :: tokens) (blanks ++ (first.spelling ++ tail))

/-- The text of tokens with one space between any two of them. -/
def spaced : List Token → List Char
  | [] => []
  | [last] => last.spelling
  | first :: others => first.spelling ++ ' ' :: spaced others

/-- Every token ends before a space and at the end of a text. -/
theorem endsBefore_space (token : Token) (tail : List Char) :
    token.endsBefore (' ' :: tail) = true ∧ token.endsBefore [] = true := by
  have space : token.isExtendedBy ' ' = false := by
    cases token with
    | symbol found => cases found <;> rfl
    | _ => rfl
  simp [endsBefore, space]

/-- A blank may be put in front of a text that writes tokens. -/
theorem Writes.blank_cons {tokens : List Token} {text : List Char} (writes : Writes tokens text)
    {blank : Char} (isBlank : Text.isBlank blank = true) : Writes tokens (blank :: text) := by
  cases writes with
  | done blanks => exact .done (by simpa [isBlank] using blanks)
  | token blanks isBlanks written ends others =>
    exact .token (blank :: blanks) (by simpa [isBlank] using isBlanks) written ends others

/-- Blanks may be put in front of a text that writes tokens. -/
theorem Writes.blanks_append {tokens : List Token} {text blanks : List Char}
    (writes : Writes tokens text) (blank : ∀ character ∈ blanks, Text.isBlank character = true) :
    Writes tokens (blanks ++ text) := by
  induction blanks with
  | nil => exact writes
  | cons first blanks ih =>
    have later := ih fun character member => blank character (by simp [member])
    exact later.blank_cons (blank first (by simp))

/-- Tokens with spaces between them are written. -/
theorem writes_spaced {tokens : List Token}
    (written : ∀ token ∈ tokens, token.hasSpelling = true) : Writes tokens (spaced tokens) := by
  induction tokens with
  | nil => exact .done (by simp [spaced])
  | cons first others ih =>
    have later := ih fun token member => written token (by simp [member])
    cases others with
    | nil =>
      have whole := Writes.token [] (by simp) (written first (by simp))
        (endsBefore_space first []).2 later
      simpa [spaced] using whole
    | cons second others =>
      exact .token [] (by simp) (written first (by simp))
        (endsBefore_space first _).1 (later.blank_cons (by decide))

/-- A space may be put behind a text that writes tokens. -/
theorem Writes.append_space {tokens : List Token} {text : List Char}
    (writes : Writes tokens text) : Writes tokens (text ++ [' ']) := by
  induction writes with
  | @done blanks blank =>
    refine .done fun character member => ?_
    rcases List.mem_append.mp member with before | last
    · exact blank character before
    · obtain rfl : character = ' ' := by simpa using last
      decide
  | @token first tokens tail blanks blank written ends others ih =>
    have stops : first.endsBefore (tail ++ [' ']) = true := by
      cases tail with
      | nil => exact (endsBefore_space first []).1
      | cons next tail => exact ends
    have whole := Writes.token blanks blank written stops ih
    rwa [← List.append_assoc, ← List.append_assoc, List.append_assoc blanks] at whole

/-- What follows the solid edges of a text does not change how it starts. -/
theorem head?_append_solid {body : List Char} (solid : hasSolidEdges body = true)
    (back : List Char) : (body ++ back).head? = body.head? := by
  cases body with
  | nil => cases solid
  | cons first others => rfl

/-- A text with solid edges does not start with a blank, a bar or a number sign. -/
theorem head_append_solid {body : List Char} (solid : hasSolidEdges body = true)
    (back : List Char) : ∃ first others, body ++ back = first :: others ∧ isSolid first = true := by
  cases body with
  | nil => cases solid
  | cons first others =>
    simp only [hasSolidEdges, List.head?_cons, Option.any_some, Bool.and_eq_true] at solid
    exact ⟨first, others ++ back, rfl, solid.1⟩

/-- A text with solid edges does not end with a blank, a bar or a number sign. -/
theorem eq_append_solid {body : List Char} (solid : hasSolidEdges body = true) :
    ∃ others last, body = others ++ [last] ∧ isSolid last = true := by
  rcases List.eq_nil_or_concat body with rfl | ⟨others, last, rfl⟩
  · cases solid
  · refine ⟨others, last, List.concat_eq_append, ?_⟩
    simp only [hasSolidEdges, Bool.and_eq_true, List.concat_eq_append,
      List.getLast?_concat, Option.any_some] at solid
    exact solid.2

/-- A text with solid edges in front of another one has solid edges. -/
theorem hasSolidEdges_append {first last : List Char} (front : hasSolidEdges first = true)
    (between : List Char) (back : hasSolidEdges last = true) :
    hasSolidEdges (first ++ (between ++ last)) = true := by
  have starts := head?_append_solid front (between ++ last)
  have ends : (first ++ (between ++ last)).getLast? = last.getLast? := by
    obtain ⟨others, character, rfl, -⟩ := eq_append_solid back
    simp
  simp only [hasSolidEdges, Bool.and_eq_true] at front back ⊢
  rw [starts, ends]
  exact ⟨front.1, back.2⟩

/-- A text that writes tokens has solid edges when the blanks around it are taken off, and still
writes them. -/
theorem Writes.edges {tokens : List Token} {text : List Char} (writes : Writes tokens text)
    (nonempty : tokens ≠ []) : ∃ front body back, text = front ++ (body ++ back) ∧
      (∀ character ∈ front, Text.isBlank character = true) ∧
        (∀ character ∈ back, Text.isBlank character = true) ∧ Writes tokens body ∧
          hasSolidEdges body = true := by
  induction writes with
  | done blank => exact absurd rfl nonempty
  | @token first others tail blanks blank written ends rest ih =>
    have solid := hasSolidEdges_spelling written
    cases others with
    | nil =>
      cases rest with
      | done isBlank =>
        have alone := Writes.token [] (by simp) written (endsBefore_space first []).2
          (.done (by simp))
        rw [List.nil_append, List.append_nil] at alone
        exact ⟨blanks, first.spelling, tail, rfl, blank, isBlank, alone, solid⟩
    | cons second others =>
      obtain ⟨front, body, back, rfl, leading, trailing, inside, edges⟩ := ih (by simp)
      have stops : first.endsBefore (front ++ body) = true := by
        have same : (front ++ (body ++ back)).head? = (front ++ body).head? := by
          rw [List.head?_append, head?_append_solid edges, List.head?_append]
        rwa [endsBefore, ← same]
      have whole := Writes.token [] (by simp) written stops (inside.blanks_append leading)
      refine ⟨blanks, first.spelling ++ (front ++ body), back, ?_, blank, trailing, whole,
        hasSolidEdges_append solid front edges⟩
      simp only [List.append_assoc]

end Token

/-- A stream that starts with tokens and goes on with a rest. -/
inductive TokenStream.Spells : List Token → TokenStream → TokenStream → Prop
  /-- No token stands before the rest. -/
  | nil (rest : TokenStream) : Spells [] rest rest
  /-- A token stands before others. -/
  | cons {first : Token} {tokens : List Token} {after rest : TokenStream} (position : Position)
    (others : Spells tokens after rest) :
    Spells (first :: tokens) (.token first position after) rest

namespace TokenStream

/-- The tokens of two lists in a row are those of the first and then those of the second. -/
theorem spells_append {first second : List Token} {stream rest : TokenStream} :
    Spells (first ++ second) stream rest ↔
      ∃ middle, Spells first stream middle ∧ Spells second middle rest := by
  induction first generalizing stream with
  | nil =>
    constructor
    · exact fun spells => ⟨stream, .nil stream, spells⟩
    · rintro ⟨middle, ⟨⟩, spells⟩
      exact spells
  | cons token tokens ih =>
    constructor
    · rintro (_ | ⟨position, others⟩)
      obtain ⟨middle, before, behind⟩ := ih.mp others
      exact ⟨middle, .cons position before, behind⟩
    · rintro ⟨middle, _ | ⟨position, before⟩, behind⟩
      exact .cons position (ih.mpr ⟨middle, before, behind⟩)

/-- A stream that starts with a token has it in front. -/
theorem Spells.peek_eq {first : Token} {tokens : List Token} {stream rest : TokenStream}
    (spells : Spells (first :: tokens) stream rest) : stream.peek = first := by
  cases spells
  rfl

/-- A stream can be read when the rest behind its tokens can. -/
theorem Spells.check_eq {tokens : List Token} {stream rest : TokenStream}
    (spells : Spells tokens stream rest) (readable : rest.check = .ok rest) :
    stream.check = .ok stream := by
  cases spells with
  | nil => exact readable
  | cons position others => rfl

/-- Moving past the first token leaves the others. -/
theorem Spells.advance_eq {first : Token} {tokens : List Token} {stream rest : TokenStream}
    (spells : Spells (first :: tokens) stream rest) (readable : rest.check = .ok rest) :
    ∃ after, stream.advance = .ok after ∧ Spells tokens after rest := by
  cases spells with
  | @cons _ _ after _ position others => exact ⟨after, others.check_eq readable, others⟩

/-- A stream is as long as its tokens and the rest. -/
theorem Spells.size_eq {tokens : List Token} {stream rest : TokenStream}
    (spells : Spells tokens stream rest) : stream.size = tokens.length + rest.size := by
  induction spells with
  | nil => simp
  | cons position others ih => simp [size, ih]; omega

end TokenStream

namespace Lexer

/-- A lexer passes the blanks in front and reads one token behind them. -/
theorem next_token {blanks tail : List Char} {token : Token} (position : Position)
    (blank : ∀ character ∈ blanks, Text.isBlank character = true)
    (written : token.hasSpelling = true) (ends : token.endsBefore tail = true) :
    next ⟨blanks ++ (token.spelling ++ tail), position, false⟩ =
      ⟨.ok token, position.advance blanks,
        ⟨tail, (position.advance blanks).advance token.spelling, false⟩⟩ := by
  have solid := Token.hasSolidEdges_spelling written
  have stops : (token.spelling ++ tail).head?.all (fun next => !Text.isBlank next) = true := by
    cases spelling : token.spelling with
    | nil => exact absurd spelling (Token.spelling_ne_nil written)
    | cons first others =>
      rw [spelling] at solid
      simp only [Token.hasSolidEdges, Token.isSolid, List.head?_cons, Option.any_some,
        Bool.and_eq_true] at solid
      simpa using solid.1.1.1
  have noDot : token ≠ .symbol .dot := by
    rintro rfl
    cases written
  simp only [next, Token.span_append blank stops, Token.read_spelling written ends, noDot,
    decide_false]

/-- A lexer finds the end behind blanks. -/
theorem next_finish {blanks : List Char} (position : Position)
    (blank : ∀ character ∈ blanks, Text.isBlank character = true) :
    (next ⟨blanks, position, false⟩).outcome = .ok .finish := by
  have run := @Token.span_append _ blanks [] blank rfl
  rw [List.append_nil] at run
  simp only [next, run, Token.read]

/-- The stream of a text that writes tokens starts with them and ends behind them. -/
theorem spells_stream {tokens : List Token} {text : List Char} (writes : Token.Writes tokens text)
    (position : Position) :
    ∃ finish, TokenStream.Spells tokens (stream ⟨text, position, false⟩) (.finish finish) := by
  induction writes generalizing position with
  | done blank =>
    rw [stream, next_finish position blank]
    exact ⟨_, .nil _⟩
  | @token first tokens tail blanks blank written ends others ih =>
    have shorter : tail.length < (blanks ++ (first.spelling ++ tail)).length := by
      have positive := List.length_pos_iff.mpr (Token.spelling_ne_nil written)
      simp only [List.length_append]
      omega
    obtain ⟨finish, spells⟩ := ih ((position.advance blanks).advance first.spelling)
    have notFinish : first ≠ .finish := by
      rintro rfl
      cases written
    rw [stream, next_token position blank written ends]
    refine ⟨finish, ?_⟩
    simp only [shorter, ↓reduceIte]
    exact .cons _ spells

end Lexer

/-- Lexing a text that writes tokens succeeds with a stream of them. -/
theorem TokenStream.ofText_eq_ok {tokens : List Token} {text : List Char}
    (writes : Token.Writes tokens text) (position : Position) :
    ∃ stream finish, ofText text position = .ok stream ∧ Spells tokens stream (.finish finish) := by
  obtain ⟨finish, spells⟩ := Lexer.spells_stream writes ⟨position.line, max 1 position.column⟩
  exact ⟨_, finish, spells.check_eq rfl, spells⟩

end Stencil
