import Stencil.Proofs.Document.Delimited
import Stencil.Proofs.Document.Marking

/-!
# Continuing by the marker

A conditional may go on to its last body by the continuing marker alone or by the keyword. Both
templates are the same document for most markers, but not for all that delimiters may have: a marker
that starts or ends the words of the other tags takes these apart, and one that is a comment or that
trimming cuts short is no continuation. The main statement tells the markers for which both
templates agree.
-/

namespace Stencil

/-- Words that the continuing marker takes nothing off. -/
structure Delimiters.SparesWords (delimiters : Delimiters) : Prop where
  /-- It does not start the header of the conditional. -/
  header : ¬delimiters.continuing.toList <+: "if x".toList
  /-- It does not end the header, where it would be left out. -/
  trailing : ¬delimiters.continuing.toList <:+ "if x".toList
  /-- It starts the keyword of the last branch only by being it. -/
  keyword : delimiters.continuing.toList <+: "else".toList →
    delimiters.continuing.toList = "else".toList
  /-- It does not start the end of the conditional. -/
  footer : ¬delimiters.continuing.toList <+: "end".toList

/-- Whether the marker alone between blanks goes on to some last body: one that is a comment goes on
to an empty body only, and of any other trimming must leave the whole or the keyword. -/
def Delimiters.ContinuesAlone (delimiters : Delimiters) (last : String) : Prop :=
  if (Text.trim delimiters.continuing.toList).head? = some '#' then last = ""
  else Text.trim delimiters.continuing.toList = delimiters.continuing.toList ∨
    Text.trim delimiters.continuing.toList = "else".toList

instance (delimiters : Delimiters) (last : String) : Decidable (delimiters.ContinuesAlone last) :=
  inferInstanceAs (Decidable (ite _ _ _))

namespace Tag

variable {delimiters : Delimiters} {start : Position} {tag : Tag}

/-- The marker alone is trimmed like itself. -/
theorem trim_between (delimiters : Delimiters) :
    Text.trim (" " ++ delimiters.continuing ++ " ").toList =
      Text.trim delimiters.continuing.toList := by
  have spaced : (" " ++ delimiters.continuing ++ " ").toList =
      ' ' :: (delimiters.continuing.toList ++ [' ']) := by
    simp only [String.toList_append]
    rfl
  rw [spaced, Text.trim_spaced]

/-- A marker that trimming cuts short is read like any other text. -/
theorem parse_trimmed (sign : (Text.trim delimiters.continuing.toList).head?.any (· != '#') = true)
    (shorter : Text.trim delimiters.continuing.toList ≠ delimiters.continuing.toList)
    (start : Position) : ∃ position,
      parse delimiters (" " ++ delimiters.continuing ++ " ").toList start =
        parseBody (Text.trim delimiters.continuing.toList) position := by
  have short := Text.length_trim_le delimiters.continuing.toList
  have starts : ¬delimiters.continuing.toList <+: Text.trim delimiters.continuing.toList :=
    fun marked => shorter (marked.eq_of_length_le short).symm
  have ends : ¬delimiters.continuing.toList <:+ Text.trim delimiters.continuing.toList :=
    fun marked => shorter (marked.eq_of_length_le short).symm
  obtain ⟨position, read⟩ := parse_of_unmarked (trim_between delimiters) sign starts start
  rw [withoutMarker_eq_self fun _ => ends] at read
  exact ⟨position, read⟩

/-- A content behind a number sign is a comment. -/
theorem parse_of_sign {content : List Char} (sign : (Text.trim content).head? = some '#')
    (start : Position) : parse delimiters content start = .ok .comment := by
  obtain ⟨others, body⟩ := List.head?_eq_some_iff.mp sign
  rw [Text.trim, Text.trimStart] at body
  simp only [parse, List.span_eq_takeWhile_dropWhile, body]

/-- Nothing can be read from blanks. -/
theorem ne_nil_of_parse {content : List Char} (reads : parse delimiters content start = .ok tag) :
    Text.trim content ≠ [] := by
  intro body
  rw [Text.trim, Text.trimStart] at body
  simp only [parse, List.span_eq_takeWhile_dropWhile, body] at reads
  cases reads

/-- A text with a character that is no number sign in front. -/
theorem head?_any_of_ne {text : List Char} (filled : text ≠ []) (sign : text.head? ≠ some '#') :
    text.head?.any (· != '#') = true := by
  cases text with
  | nil => exact absurd rfl filled
  | cons first others => simpa using sign

/-- A marker that goes on alone is a comment or starts the last branch. -/
theorem parse_of_continuesAlone {last : String} (continues : delimiters.ContinuesAlone last)
    (start : Position) : ∃ tag,
      parse delimiters (" " ++ delimiters.continuing ++ " ").toList start = .ok tag ∧
        ((tag = .comment ∧ last = "") ∨ ∃ branch position, tag = .continuation branch position ∧
          (branch = .bare ∨ branch = .otherwise)) := by
  have trimmed := trim_between delimiters
  unfold Delimiters.ContinuesAlone at continues
  split_ifs at continues with sign
  · rw [← trimmed] at sign
    exact ⟨.comment, parse_of_sign sign start, Or.inl ⟨rfl, continues⟩⟩
  · have filled : Text.trim delimiters.continuing.toList ≠ [] := by
      rcases continues with same | word
      · rw [same]
        exact delimiters.continuing_ne
      · rw [word]
        decide
    have signed := head?_any_of_ne filled sign
    by_cases same : Text.trim delimiters.continuing.toList = delimiters.continuing.toList
    · obtain ⟨position, read⟩ := parse_of_marker trimmed signed same.symm start
      exact ⟨_, read, Or.inr ⟨.bare, position, rfl, Or.inl rfl⟩⟩
    · obtain ⟨position, read⟩ := parse_trimmed signed same start
      have word := continues.resolve_left same
      have plain : parseBody "else".toList .origin = .ok (.continuation .otherwise .origin) := by
        with_unfolding_all rfl
      rw [word] at read
      exact ⟨_, read.trans (parseBody_moveTo plain position),
        Or.inr ⟨.otherwise, position, rfl, Or.inr rfl⟩⟩

/-- A marker that is read as a comment or as the start of the last branch goes on alone. -/
theorem continuesAlone_of_parse {last : String}
    (reads : parse delimiters (" " ++ delimiters.continuing ++ " ").toList start = .ok tag)
    (fits : (tag = .comment ∧ last = "") ∨ ∃ branch position,
      tag = .continuation branch position ∧ (branch = .bare ∨ branch = .otherwise)) :
    delimiters.ContinuesAlone last := by
  have trimmed := trim_between delimiters
  have filled := ne_nil_of_parse reads
  rw [trimmed] at filled
  unfold Delimiters.ContinuesAlone
  split_ifs with sign
  · rw [← trimmed] at sign
    obtain rfl := Except.ok.inj ((parse_of_sign sign start).symm.trans reads)
    rcases fits with ⟨-, empty⟩ | ⟨_, _, same, -⟩
    · exact empty
    · cases same
  · by_cases same : Text.trim delimiters.continuing.toList = delimiters.continuing.toList
    · exact Or.inl same
    · obtain ⟨position, read⟩ := parse_trimmed (head?_any_of_ne filled sign) same start
      rw [read] at reads
      rcases fits with ⟨comment, -⟩ | ⟨branch, place, rfl, isLast⟩
      · exact absurd comment (parseBody_cases reads).1
      · exact Or.inr (eq_keyword_of_parseBody (Text.isTrimmed_trim filled) reads isLast)

end Tag

/-- The document of a conditional over a name with two bodies. -/
def Document.conditional (body last : String) : Document :=
  ⟨[.conditional [(.name "x", Node.ofText body)] (Node.ofText last)]⟩

namespace Outline

variable {delimiters : Delimiters} {position third : Position} {body last : String}

/-- The outline behind the first body of the conditional. -/
def inBody (position : Position) (body : String) : Outline :=
  ⟨Node.ofText body, [⟨.branch [] (.name "x"), position, []⟩]⟩

/-- A text is at most one node. -/
theorem reverse_ofText (text : String) : (Node.ofText text).reverse = Node.ofText text := by
  unfold Node.ofText
  split_ifs <;> rfl

/-- The document of the conditional when a tag stands between its bodies. -/
def completed (delimiters : Delimiters) (position third : Position) (body last : String)
    (tag : Tag) : Except SyntaxError Document :=
  applyTag delimiters (inBody position body) tag >>= fun continued =>
    applyTag delimiters (continued.behind last) (.closing third) >>= finish delimiters

/-- The last branch may be started with its word or without. -/
theorem completed_last {branch : Branch} (isLast : branch = .bare ∨ branch = .otherwise)
    (place : Position) :
    completed delimiters position third body last (.continuation branch place) =
      .ok (.conditional body last) := by
  have result : completed delimiters position third body last (.continuation branch place) =
      .ok ⟨[.conditional [(.name "x", (Node.ofText body).reverse)]
        (Node.ofText last ++ []).reverse]⟩ := by
    rcases isLast with rfl | rfl <;> rfl
  rw [result, List.append_nil, reverse_ofText, reverse_ofText]
  rfl

/-- A comment leaves one body of both. -/
theorem completed_comment :
    completed delimiters position third body last .comment = .ok (.conditional body last) ↔
      last = "" := by
  have result : completed delimiters position third body last .comment =
      .ok ⟨[.conditional [(.name "x", (Node.ofText last ++ Node.ofText body).reverse)] []]⟩ := rfl
  rw [result, List.reverse_append, reverse_ofText, reverse_ofText]
  simp [Document.conditional, Node.ofText]

/-- Between both bodies the tag must start the last branch, or be a comment in front of nothing. -/
theorem completed_iff (tag : Tag) :
    completed delimiters position third body last tag = .ok (.conditional body last) ↔
      (tag = .comment ∧ last = "") ∨ ∃ branch position, tag = .continuation branch position ∧
        (branch = .bare ∨ branch = .otherwise) := by
  constructor
  · intro completes
    cases tag with
    | comment => exact Or.inl ⟨rfl, completed_comment.mp completes⟩
    | output expression =>
      have result : completed delimiters position third body last (.output expression) =
          .ok ⟨[.conditional [(.name "x",
            (Node.ofText last ++ .output expression :: Node.ofText body).reverse)] []]⟩ := rfl
      have same := Except.ok.inj (result.symm.trans completes)
      simp only [Document.conditional, Document.mk.injEq, List.cons.injEq, Node.conditional.injEq,
        Prod.mk.injEq, true_and, and_true] at same
      have lengths := congrArg List.length same.1
      simp only [List.length_reverse, List.length_append, List.length_cons] at lengths
      omega
    | opening header place =>
      have result : completed delimiters position third body last (.opening header place) =
          .error ⟨.unterminatedBlock .conditional delimiters.opening delimiters.closing,
            position⟩ := rfl
      cases result.symm.trans completes
    | continuation branch place =>
      cases branch with
      | bare => exact Or.inr ⟨.bare, place, rfl, Or.inl rfl⟩
      | otherwise => exact Or.inr ⟨.otherwise, place, rfl, Or.inr rfl⟩
      | elif condition =>
        have result : completed delimiters position third body last
            (.continuation (.elif condition) place) =
            .ok ⟨[.conditional [(.name "x", (Node.ofText body).reverse),
              (condition, (Node.ofText last ++ []).reverse)] []]⟩ := rfl
        have same := Except.ok.inj (result.symm.trans completes)
        simp [Document.conditional] at same
      | empty =>
        have result : completed delimiters position third body last (.continuation .empty place) =
            .error ⟨.emptyInConditional, place⟩ := rfl
        cases result.symm.trans completes
    | closing place =>
      have result : completed delimiters position third body last (.closing place) =
          .error ⟨.strayEnd, third⟩ := rfl
      cases result.symm.trans completes
  · rintro (⟨rfl, empty⟩ | ⟨branch, place, rfl, isLast⟩)
    · exact completed_comment.mpr empty
    · exact completed_last isLast place

end Outline

namespace Document

variable {delimiters : Delimiters} {between body last : String}
  (absent : ∀ character ∈ body.toList ++ last.toList, character ∉ delimiters.opening.toList)
  (header : delimiters.ClosesBehind " if x ") (footer : delimiters.ClosesBehind " end ")

include absent header footer

/-- When the marker spares the words around the bodies, what stands between them decides. -/
theorem parse_of_sparesWords (spares : delimiters.SparesWords)
    (ends : delimiters.EndsTag (" " ++ between ++ " ")
      (last ++ delimiters.opening ++ " end " ++ delimiters.closing)) :
    ∃ position second third, parse delimiters (delimiters.conditional between body last) =
      (Tag.parse delimiters (" " ++ between ++ " ").toList second >>=
        Outline.completed delimiters position third body last) := by
  obtain ⟨first, second, ending, read⟩ := parse_conditional absent header footer ends
  obtain ⟨position, opens⟩ := Tag.parse_header spares.header spares.trailing first
  obtain ⟨third, closes⟩ := Tag.parse_footer spares.footer ending
  refine ⟨position, second, third, ?_⟩
  rw [read]
  have opened : Outline.step delimiters .start (.tag " if x ".toList first) =
      .ok ⟨[], [⟨.branch [] (.name "x"), position, []⟩]⟩ := by
    rw [Outline.step, opens]
    rfl
  have entered : Outline.behind ⟨[], [⟨.branch [] (.name "x"), position, []⟩]⟩ body =
      Outline.inBody position body := by
    rw [Outline.behind, Outline.inBody, List.append_nil]
  rw [opened]
  change Outline.step delimiters (Outline.behind _ body) _ >>= _ = _
  simp only [Outline.step, closes, entered, bind_assoc]
  rfl

/-- The keyword separates the bodies only when the marker spares the words. -/
theorem sparesWords_of_parse (keyword : delimiters.ClosesBehind " else ") {document : Document}
    (reads : parse delimiters (delimiters.conditional "else" body last) = .ok document) :
    delimiters.SparesWords := by
  have ends : delimiters.EndsTag (" " ++ "else" ++ " ") _ :=
    keyword.isFirm (fun _ => rfl) (by decide)
      (last ++ delimiters.opening ++ " end " ++ delimiters.closing).toList
  obtain ⟨first, second, third, read⟩ := parse_conditional absent header footer ends
  rw [read] at reads
  obtain ⟨opened, opens, reads⟩ := bind_eq_ok_iff.mp reads
  obtain ⟨continued, continues, reads⟩ := bind_eq_ok_iff.mp reads
  obtain ⟨closed, closes, -⟩ := bind_eq_ok_iff.mp reads
  obtain ⟨openingTag, opensTag, opens⟩ := bind_eq_ok_iff.mp opens
  obtain ⟨branchTag, continuesTag, continues⟩ := bind_eq_ok_iff.mp continues
  obtain ⟨closingTag, closesTag, closes⟩ := bind_eq_ok_iff.mp closes
  have keywordWhole := Tag.eq_keyword_of_parse continuesTag
  obtain ⟨branch, place, branchRead, isLast⟩ := Tag.parse_keyword keywordWhole second
  obtain rfl := Except.ok.inj (branchRead.symm.trans continuesTag)
  have isOpening : ∃ header position, openingTag = .opening header position := by
    cases openingTag with
    | opening header position => exact ⟨header, position, rfl⟩
    | comment | output =>
      cases opens
      cases continues
    | continuation | closing => cases opens
  obtain ⟨found, position, rfl⟩ := isOpening
  obtain ⟨headerStart, headerEnd⟩ := Tag.unmarked_of_opening opensTag
  obtain ⟨place, headerRead⟩ := Tag.parse_header headerStart headerEnd first
  cases headerRead.symm.trans opensTag
  refine ⟨headerStart, headerEnd, keywordWhole, fun marked => ?_⟩
  obtain ⟨other, position, rfl⟩ :=
    Tag.exists_continuation (by decide) (by decide) marked closesTag
  cases opens
  rcases isLast with rfl | rfl
  · cases continues
    cases closes
  · cases continues
    cases closes

/-- By the keyword a conditional goes on when the marker spares the words. -/
theorem parse_by_keyword (keyword : delimiters.ClosesBehind " else ")
    (spares : delimiters.SparesWords) :
    parse delimiters (delimiters.conditional "else" body last) = .ok (conditional body last) := by
  have ends : delimiters.EndsTag (" " ++ "else" ++ " ") _ :=
    keyword.isFirm (fun _ => rfl) (by decide)
      (last ++ delimiters.opening ++ " end " ++ delimiters.closing).toList
  obtain ⟨position, second, third, read⟩ :=
    parse_of_sparesWords absent header footer spares ends
  obtain ⟨branch, place, branchRead, isLast⟩ := Tag.parse_keyword spares.keyword second
  rw [read]
  exact bind_eq_ok_iff.mpr ⟨_, branchRead, Outline.completed_last isLast place⟩

/-- By the marker it goes on when the marker also goes on alone. -/
theorem parse_by_marker_iff
    (marker : delimiters.EndsTag (" " ++ delimiters.continuing ++ " ")
      (last ++ delimiters.opening ++ " end " ++ delimiters.closing))
    (spares : delimiters.SparesWords) :
    parse delimiters (delimiters.conditional delimiters.continuing body last) =
      .ok (conditional body last) ↔ delimiters.ContinuesAlone last := by
  obtain ⟨position, second, third, read⟩ :=
    parse_of_sparesWords absent header footer spares marker
  rw [read]
  constructor
  · intro completes
    obtain ⟨tag, tagRead, completes⟩ := bind_eq_ok_iff.mp completes
    exact Tag.continuesAlone_of_parse tagRead ((Outline.completed_iff tag).mp completes)
  · intro continues
    obtain ⟨tag, tagRead, fits⟩ := Tag.parse_of_continuesAlone continues second
    exact bind_eq_ok_iff.mpr ⟨tag, tagRead, (Outline.completed_iff tag).mpr fits⟩

omit absent header footer

/-- A conditional goes on to its last body by the continuing marker alone just as it does by the
keyword, to the same document, for the markers that spare the words of the conditional and that go
on alone, and for no others. -/
theorem parse_marker_iff (absent : ∀ character ∈ body.toList ++ last.toList,
      character ∉ delimiters.opening.toList)
    (header : delimiters.ClosesBehind " if x ") (keyword : delimiters.ClosesBehind " else ")
    (footer : delimiters.ClosesBehind " end ")
    (marker : delimiters.EndsTag (" " ++ delimiters.continuing ++ " ")
      (last ++ delimiters.opening ++ " end " ++ delimiters.closing)) :
    ((∃ document,
      parse delimiters (delimiters.conditional delimiters.continuing body last) = .ok document ∧
        parse delimiters (delimiters.conditional "else" body last) = .ok document) ↔
      delimiters.SparesWords ∧ delimiters.ContinuesAlone last) ∧
    (delimiters.SparesWords → delimiters.ContinuesAlone last →
      parse delimiters (delimiters.conditional delimiters.continuing body last) =
        .ok (conditional body last)) := by
  have byKeyword := parse_by_keyword absent header footer keyword
  have byMarker := parse_by_marker_iff absent header footer marker
  refine ⟨⟨?_, ?_⟩, fun spares continues => (byMarker spares).mpr continues⟩
  · rintro ⟨document, marked, keyed⟩
    have spares := sparesWords_of_parse absent header footer keyword keyed
    obtain rfl := Except.ok.inj ((byKeyword spares).symm.trans keyed)
    exact ⟨spares, (byMarker spares).mp marked⟩
  · rintro ⟨spares, continues⟩
    exact ⟨_, (byMarker spares).mpr continues, byKeyword spares⟩

/-- The closing marker may stand between quotes within the continuing one. -/
theorem parse_marker_quoted :
    let delimiters : Delimiters := ⟨"<%", "'%>'", "%>", by decide, by decide, by decide, by decide,
      by decide, by decide⟩
    (∀ character ∈ "A".toList ++ "C".toList, character ∉ delimiters.opening.toList) ∧
      delimiters.ClosesBehind " if x " ∧ delimiters.ClosesBehind " else " ∧
      delimiters.ClosesBehind " end " ∧
      delimiters.EndsTag (" " ++ delimiters.continuing ++ " ")
        ("C" ++ delimiters.opening ++ " end " ++ delimiters.closing) ∧
      parse delimiters "<% if x %>A<% '%>' %>C<% end %>" = .ok (conditional "A" "C") ∧
      parse delimiters "<% if x %>A<% else %>C<% end %>" = .ok (conditional "A" "C") := by
  intro delimiters
  have absent : ∀ character ∈ "A".toList ++ "C".toList, character ∉ delimiters.opening.toList := by
    simp [delimiters]
  have header : delimiters.ClosesBehind " if x " := by decide
  have keyword : delimiters.ClosesBehind " else " := by decide
  have footer : delimiters.ClosesBehind " end " := by decide
  have marker : delimiters.EndsTag (" " ++ delimiters.continuing ++ " ")
      ("C" ++ delimiters.opening ++ " end " ++ delimiters.closing) := by decide
  have spares : delimiters.SparesWords := ⟨by decide, by decide, by decide, by decide⟩
  have alone : delimiters.ContinuesAlone "C" := by decide
  obtain ⟨same, marked⟩ := parse_marker_iff absent header keyword footer marker
  obtain ⟨document, byMarker, byKeyword⟩ := same.mpr ⟨spares, alone⟩
  have found := marked spares alone
  obtain rfl := Except.ok.inj (found.symm.trans byMarker)
  exact ⟨absent, header, keyword, footer, marker, found, byKeyword⟩

/-- A marker that is a number sign is a comment and starts no branch, also where the delimiters are
accepted. -/
theorem parse_marker_sign :
    let delimiters : Delimiters := ⟨"\x7b\x7b", "#", "\x7d\x7d", by decide, by decide, by decide,
      by decide, by decide, by decide⟩
    Delimiters.make "\x7b\x7b" "#" "\x7d\x7d" = .ok delimiters ∧
      (∀ character ∈ "A".toList ++ "C".toList, character ∉ "\x7b\x7b#\x7d\x7d".toList) ∧
      parse delimiters (delimiters.conditional "#" "A" "C") =
        .ok ⟨[.conditional [(.name "x", [.literal "A", .literal "C"])] []]⟩ ∧
      parse delimiters (delimiters.conditional "else" "A" "C") =
        .ok ⟨[.conditional [(.name "x", [.literal "A"])] [.literal "C"]]⟩ ∧
      ¬∃ document, parse delimiters (delimiters.conditional "#" "A" "C") = .ok document ∧
        parse delimiters (delimiters.conditional "else" "A" "C") = .ok document := by
  intro delimiters
  have accepted : Delimiters.make "\x7b\x7b" "#" "\x7d\x7d" = .ok delimiters := rfl
  have absent : ∀ character ∈ "A".toList ++ "C".toList, character ∉ delimiters.opening.toList := by
    simp [delimiters]
  have header : delimiters.ClosesBehind " if x " := by decide
  have keyword : delimiters.ClosesBehind " else " := by decide
  have footer : delimiters.ClosesBehind " end " := by decide
  have marker : delimiters.EndsTag (" " ++ "#" ++ " ")
      ("C" ++ delimiters.opening ++ " end " ++ delimiters.closing) := by decide
  have spares : delimiters.SparesWords := ⟨by decide, by decide, by decide, by decide⟩
  have keyed := parse_by_keyword absent header footer keyword spares
  have marked : parse delimiters (delimiters.conditional "#" "A" "C") =
      .ok ⟨[.conditional [(.name "x", [.literal "A", .literal "C"])] []]⟩ := by
    obtain ⟨position, second, third, read⟩ :=
      parse_of_sparesWords absent header footer spares marker
    rw [read, Tag.parse_of_sign (by decide) second]
    rfl
  refine ⟨accepted, by simp, marked, keyed, ?_⟩
  rintro ⟨document, first, second⟩
  obtain rfl := Except.ok.inj (marked.symm.trans first)
  cases keyed.symm.trans second

end Document

end Stencil
