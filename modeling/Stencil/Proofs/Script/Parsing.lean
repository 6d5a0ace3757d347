import Stencil.Proofs.Script.Writing
import Stencil.Script.Program.Checks

/-!
# Phrases of driving scripts

A phrase is an expression with the tokens it is written with: a text, phrases in a row, or a call
with phrases for arguments. A phrase is parsed wherever an expression may end behind it, by every
level that has as many levels inside as the phrase has brackets in each other. Statements made of
one phrase each are parsed into a program that runs them in order.
-/

namespace Stencil.Script

namespace Parser

/-- Whether every expression ends in front of tokens. -/
def endsExpression : Tokens → Bool
  | [] => true
  | .mark sign :: _ => [",", ")", "]", ";"].contains sign
  | _ => false

/-- Whether a token starts an operand that no sign stands in front of. -/
def startsOperand : Token → Bool
  | .word _ => true
  | .literal _ => true
  | .joined _ => true
  | .mark sign => sign = "["

/-- The operators of chains. -/
def chainOperators : List Combine :=
  [factor?, term?, range?, comparison?, equality?, both?, either?]

/-- A mark is found where it stands. -/
theorem expectMark_self (sign : String) (rest : Tokens) :
    expectMark sign (.mark sign :: rest) = some rest := if_pos rfl

/-- A mark is not found where another one stands. -/
theorem expectMark_of_ne {sign other : String} (different : other ≠ sign) (rest : Tokens) :
    expectMark sign (.mark other :: rest) = none := if_neg different

/-- An expression ends in front of a mark that ends one. -/
theorem endsExpression_mark {sign : String} (known : sign ∈ [",", ")", "]", ";"])
    (rest : Tokens) : endsExpression (.mark sign :: rest) = true := List.contains_iff_mem.mpr known

/-- A name is no reserved word. -/
theorem ne_of_not_reserved {name keyword : String} (free : name ∉ reserved)
    (known : keyword ∈ reserved) : name ≠ keyword := by
  rintro rfl
  exact free known

/-- A name is found where it stands. -/
theorem expectName_of_not_reserved {name : String} (free : name ∉ reserved) (rest : Tokens) :
    expectName (.word name :: rest) = some (name, rest) :=
  if_neg fun known => free (List.contains_iff_mem.mp known)

/-- A mark that ends an expression is one of four. -/
theorem exists_of_endsExpression {first : Token} {rest : Tokens}
    (ends : endsExpression (first :: rest) = true) :
    first = .mark "," ∨ first = .mark ")" ∨ first = .mark "]" ∨ first = .mark ";" := by
  cases first with
  | mark sign =>
    rw [endsExpression, List.contains_iff_mem] at ends
    simpa using ends
  | _ => cases ends

/-- No chain goes on where an expression ends. -/
theorem chainOperators_eq_none {operator? : Combine} (member : operator? ∈ chainOperators)
    {first : Token} {rest : Tokens} (ends : endsExpression (first :: rest) = true) :
    operator? first = none := by
  simp only [chainOperators, List.mem_cons, List.not_mem_nil, or_false] at member
  rcases exists_of_endsExpression ends with rfl | rfl | rfl | rfl <;>
    rcases member with rfl | rfl | rfl | rfl | rfl | rfl | rfl <;> rfl

/-- A chain is its first operand where no link follows. -/
theorem chain_eq {operator? : Combine} {operand : Tokens → Option (Expr × Tokens)}
    {tokens rest : Tokens} {value : Expr} (reads : operand tokens = some (value, rest))
    (ends : ∀ first others, rest = first :: others → operator? first = none) :
    chain operator? operand tokens = some (value, rest) := by
  rw [chain, reads]
  cases rest with
  | nil => rfl
  | cons first others =>
    simp only [Option.bind_eq_bind, Option.bind_some, List.length_cons, links,
      ends first others rfl]

/-- Chains of several strengths are their first operand where no link follows. -/
theorem foldl_chain_eq {operators : List Combine} (known : ∀ operator? ∈ operators,
      operator? ∈ chainOperators)
    {operand : Tokens → Option (Expr × Tokens)} {tokens rest : Tokens} {value : Expr}
    (reads : operand tokens = some (value, rest)) (ends : endsExpression rest = true) :
    operators.foldl (fun operand operator? => chain operator? operand) operand tokens =
      some (value, rest) := by
  induction operators generalizing operand with
  | nil => exact reads
  | cons first others ih =>
    refine ih (fun operator? member => known operator? (List.mem_cons_of_mem first member)) ?_
    refine chain_eq reads fun token rest same => ?_
    subst same
    exact chainOperators_eq_none (known first List.mem_cons_self) ends

/-- Nothing follows an operand where an expression ends. -/
theorem suffixes_eq (inner : Level) (count : Nat) (target : Expr) {rest : Tokens}
    (ends : endsExpression rest = true) :
    suffixes inner count target rest = some (target, rest) := by
  cases count with
  | zero => rfl
  | succ count =>
    cases rest with
    | nil => rfl
    | cons first others =>
      rcases exists_of_endsExpression ends with rfl | rfl | rfl | rfl <;> rfl

/-- No sign stands in front of an operand that starts without one. -/
theorem sign?_eq_none {first : Token} (starts : startsOperand first = true) :
    sign? first = none := by
  cases first with
  | mark sign =>
    obtain rfl : sign = "[" := of_decide_eq_true starts
    rfl
  | _ => rfl

/-- An expression is its first operand where it ends. -/
theorem expression_eq {inner : Level} {first : Token} {others rest : Tokens} {value : Expr}
    (starts : startsOperand first = true)
    (reads : primary inner (first :: others) = some (value, rest))
    (ends : endsExpression rest = true) :
    expression inner (first :: others) = some (value, rest) := by
  have operands : operand inner (first :: others) = some (value, rest) := by
    simp only [operand, sign?_eq_none starts, reads, Option.bind_eq_bind, Option.bind_some]
    exact suffixes_eq inner _ value ends
  exact foldl_chain_eq (fun _ member => member) operands ends

end Parser

/-- An expression with the tokens it is written with. -/
structure Phrase where
  /-- The tokens. -/
  tokens : Tokens
  /-- The expression. -/
  expression : Expr

namespace Phrase

/-- The tokens of phrases with commas between them. -/
def row : List Phrase → Tokens
  | [] => []
  | [last] => last.tokens
  | first :: second :: others => first.tokens ++ .mark "," :: row (second :: others)

/-- A text. -/
def text (content : String) : Phrase :=
  ⟨[.literal (.string content)], .literal (.string content)⟩

/-- Phrases in a row. -/
def array (items : List Phrase) : Phrase :=
  ⟨.mark "[" :: (row items ++ [.mark "]"]), .array (items.map expression)⟩

/-- A call. -/
def call (function : String) (arguments : List Phrase) : Phrase :=
  ⟨.word function :: .mark "(" :: (row arguments ++ [.mark ")"]),
    .call function (arguments.map expression)⟩

/-- Whether all tokens of a phrase can be written. -/
def IsSpelled (phrase : Phrase) : Prop := ∀ token ∈ phrase.tokens, token.hasSpelling = true

/-- Whether a parser reads a phrase wherever an expression may end behind it. -/
structure ReadBy (parse : Tokens → Option (Expr × Tokens)) (phrase : Phrase) : Prop where
  /-- The phrase starts without a sign in front. -/
  starts : phrase.tokens.head?.any Parser.startsOperand = true
  /-- The phrase is read, and what follows is left. -/
  reads : ∀ rest, Parser.endsExpression rest = true →
    parse (phrase.tokens ++ rest) = some (phrase.expression, rest)

/-- A phrase that is read does not start with a closing mark. -/
theorem ReadBy.expectMark_eq_none {parse : Tokens → Option (Expr × Tokens)} {phrase : Phrase}
    (read : phrase.ReadBy parse) {closing : String} (closes : closing ≠ "[") (rest : Tokens) :
    Parser.expectMark closing (phrase.tokens ++ rest) = none := by
  have starts := read.starts
  cases tokens : phrase.tokens with
  | nil =>
    rw [tokens] at starts
    cases starts
  | cons first others =>
    rw [tokens] at starts
    cases first with
    | mark sign =>
      obtain rfl : sign = "[" := of_decide_eq_true starts
      exact if_neg (Ne.symm closes)
    | _ => rfl

/-- A phrase that is read has a token. -/
theorem ReadBy.length_pos {parse : Tokens → Option (Expr × Tokens)} {phrase : Phrase}
    (read : phrase.ReadBy parse) : 0 < phrase.tokens.length := by
  have starts := read.starts
  cases tokens : phrase.tokens with
  | nil =>
    rw [tokens] at starts
    cases starts
  | cons first others => exact Nat.succ_pos _

/-- A row has at least as many tokens as phrases. -/
theorem length_le_length_row {parse : Tokens → Option (Expr × Tokens)} {phrases : List Phrase}
    (read : ∀ phrase ∈ phrases, phrase.ReadBy parse) : phrases.length ≤ (row phrases).length := by
  fun_induction row phrases with
  | case1 => exact Nat.le_refl 0
  | case2 last => exact (read last List.mem_cons_self).length_pos
  | case3 first second others ih =>
    have later := ih fun phrase member => read phrase (List.mem_cons_of_mem first member)
    simp only [List.length_cons, List.length_append] at later ⊢
    omega

/-- A row with one more phrase in front has no fewer tokens. -/
theorem length_row_le (first : Phrase) (phrases : List Phrase) :
    (row phrases).length ≤ (row (first :: phrases)).length := by
  cases phrases with
  | nil => exact Nat.zero_le _
  | cons second others =>
    rw [row, List.length_append, List.length_cons]
    omega

/-- The tokens of a row are commas and the tokens of its phrases. -/
theorem mem_row {phrases : List Phrase} {token : Token} (member : token ∈ row phrases) :
    token = .mark "," ∨ ∃ phrase ∈ phrases, token ∈ phrase.tokens := by
  fun_induction row phrases with
  | case1 => cases member
  | case2 last => exact Or.inr ⟨last, List.mem_cons_self, member⟩
  | case3 first second others ih =>
    rcases List.mem_append.mp member with here | later
    · exact Or.inr ⟨first, List.mem_cons_self, here⟩
    · rcases List.mem_cons.mp later with comma | later
      · exact Or.inl comma
      · obtain comma | ⟨phrase, inside, member⟩ := ih later
        · exact Or.inl comma
        · exact Or.inr ⟨phrase, List.mem_cons_of_mem first inside, member⟩

/-- A row is read up to its closing mark. -/
theorem separated_row {parse : Tokens → Option (Expr × Tokens)} {phrases : List Phrase}
    (read : ∀ phrase ∈ phrases, phrase.ReadBy parse) {closing : String}
    (closes : closing = ")" ∨ closing = "]") {count : Nat} (enough : phrases.length < count)
    (rest : Tokens) :
    Parser.separated parse closing count (row phrases ++ .mark closing :: rest) =
      some (phrases.map expression, rest) := by
  have noOpening : closing ≠ "[" := by
    rcases closes with rfl | rfl <;> decide
  have noComma : closing ≠ "," := by
    rcases closes with rfl | rfl <;> decide
  have ends : Parser.endsExpression (.mark closing :: rest) = true := by
    refine Parser.endsExpression_mark ?_ rest
    rcases closes with rfl | rfl <;> decide
  have closed := Parser.expectMark_self closing rest
  fun_induction row phrases generalizing count with
  | case1 =>
    obtain ⟨count, rfl⟩ := Nat.exists_eq_succ_of_ne_zero (Nat.ne_zero_of_lt enough)
    rw [List.nil_append, Parser.separated, closed]
    rfl
  | case2 last =>
    obtain ⟨count, rfl⟩ := Nat.exists_eq_succ_of_ne_zero (Nat.ne_zero_of_lt enough)
    have here := read last List.mem_cons_self
    have behind := Parser.expectMark_of_ne noComma rest
    rw [Parser.separated, here.expectMark_eq_none noOpening]
    simp only [here.reads _ ends, Option.bind_eq_bind, Option.bind_some, behind, closed]
    rfl
  | case3 first second others ih =>
    obtain ⟨count, rfl⟩ := Nat.exists_eq_succ_of_ne_zero (Nat.ne_zero_of_lt enough)
    have here := read first List.mem_cons_self
    have later := ih
      (fun phrase member => read phrase (List.mem_cons_of_mem first member))
      (Nat.lt_of_succ_lt_succ enough)
    have comma := Parser.expectMark_self "," (row (second :: others) ++ .mark closing :: rest)
    have stops := @Parser.endsExpression_mark "," (by decide)
      (row (second :: others) ++ .mark closing :: rest)
    rw [List.append_assoc, List.cons_append, Parser.separated,
      here.expectMark_eq_none noOpening]
    simp only [here.reads _ stops, Option.bind_eq_bind, Option.bind_some, comma, later]
    rfl

/-- A text can be written. -/
theorem isSpelled_text (content : String) : (text content).IsSpelled := by
  intro token member
  rw [List.mem_singleton.mp member]
  rfl

/-- Phrases in a row can be written when each of them can be. -/
theorem isSpelled_array {phrases : List Phrase}
    (spelled : ∀ phrase ∈ phrases, phrase.IsSpelled) : (array phrases).IsSpelled := by
  intro token member
  simp only [array, List.mem_cons, List.mem_append, List.not_mem_nil, or_false] at member
  rcases member with rfl | inside | rfl
  · decide
  · obtain rfl | ⟨phrase, inside, member⟩ := mem_row inside
    · decide
    · exact spelled phrase inside token member
  · decide

/-- A call can be written when its function and its arguments can be. -/
theorem isSpelled_call {function : String} (named : (Token.word function).hasSpelling = true)
    {phrases : List Phrase} (spelled : ∀ phrase ∈ phrases, phrase.IsSpelled) :
    (call function phrases).IsSpelled := by
  intro token member
  simp only [call, List.mem_cons, List.mem_append, List.not_mem_nil, or_false] at member
  rcases member with rfl | rfl | inside | rfl
  · exact named
  · decide
  · obtain rfl | ⟨phrase, inside, member⟩ := mem_row inside
    · decide
    · exact spelled phrase inside token member
  · decide

/-- A text is read by every level. -/
theorem readBy_text (inner : Level) (content : String) :
    (text content).ReadBy (Parser.expression inner) where
  starts := rfl
  reads _ ends := Parser.expression_eq rfl rfl ends

/-- A row is read as items up to its closing mark. -/
theorem items_row {parse : Tokens → Option (Expr × Tokens)} {phrases : List Phrase}
    (read : ∀ phrase ∈ phrases, phrase.ReadBy parse) {closing : String}
    (closes : closing = ")" ∨ closing = "]") (rest : Tokens) :
    Parser.items parse closing (row phrases ++ .mark closing :: rest) =
      some (phrases.map expression, rest) := by
  refine separated_row read closes ?_ rest
  have enough := length_le_length_row read
  simp only [List.length_append]
  omega

/-- A row of phrases is read by a level whose inner level reads all of them. -/
theorem readBy_array {inner : Level} {phrases : List Phrase}
    (read : ∀ phrase ∈ phrases, phrase.ReadBy inner.expression) :
    (array phrases).ReadBy (Parser.expression inner) where
  starts := rfl
  reads rest ends := by
    have tokens : (array phrases).tokens ++ rest =
        .mark "[" :: (row phrases ++ .mark "]" :: rest) := by
      simp [array]
    rw [tokens]
    refine Parser.expression_eq rfl ?_ ends
    rw [Parser.primary, items_row read (Or.inr rfl)]
    rfl

/-- A call is read by a level whose inner level reads all its arguments. -/
theorem readBy_call {inner : Level} {function : String} (free : function ∉ Parser.reserved)
    {phrases : List Phrase} (read : ∀ phrase ∈ phrases, phrase.ReadBy inner.expression) :
    (call function phrases).ReadBy (Parser.expression inner) where
  starts := rfl
  reads rest ends := by
    have tokens : (call function phrases).tokens ++ rest =
        .word function :: .mark "(" :: (row phrases ++ .mark ")" :: rest) := by
      simp [call]
    have noTrue : function ≠ "true" := Parser.ne_of_not_reserved free (by decide)
    have noFalse : function ≠ "false" := Parser.ne_of_not_reserved free (by decide)
    have noIf : function ≠ "if" := Parser.ne_of_not_reserved free (by decide)
    rw [tokens]
    refine Parser.expression_eq rfl ?_ ends
    rw [Parser.primary, Parser.expectName_of_not_reserved free]
    · simp only [Option.bind_eq_bind, Option.bind_some, Parser.expectMark_self,
        items_row read (Or.inl rfl)]
      rfl
    -- The other cases are for tokens that do not start like a call.
    all_goals simp [noTrue, noFalse, noIf]

end Phrase

namespace Parser

/-- Whether a statement that needs a semicolon ends in front of tokens. -/
def endsStatement : Tokens → Bool
  | [] => true
  | .mark sign :: _ => sign = ";"
  | _ => false

/-- Every expression ends where a statement ends. -/
theorem endsExpression_of_endsStatement {rest : Tokens} (ends : endsStatement rest = true) :
    endsExpression rest = true := by
  cases rest with
  | nil => rfl
  | cons first others =>
    cases first with
    | mark sign =>
      obtain rfl : sign = ";" := of_decide_eq_true ends
      exact endsExpression_mark (by decide) others
    | _ => cases ends

/-- A statement may be an expression that starts with a name. -/
theorem statement_eq {inner : Level} {function : String} (free : function ∉ reserved)
    {others rest : Tokens} {value : Expr} (ends : endsStatement rest = true)
    (reads : expression inner (.word function :: others) = some (value, rest)) :
    statement inner (.word function :: others) = some ((.expression value, false), rest) := by
  have noLet : function ≠ "let" := ne_of_not_reserved free (by decide)
  have noConst : function ≠ "const" := ne_of_not_reserved free (by decide)
  have noIf : function ≠ "if" := ne_of_not_reserved free (by decide)
  have noWhile : function ≠ "while" := ne_of_not_reserved free (by decide)
  have noFor : function ≠ "for" := ne_of_not_reserved free (by decide)
  have noTry : function ≠ "try" := ne_of_not_reserved free (by decide)
  have noThrow : function ≠ "throw" := ne_of_not_reserved free (by decide)
  have noReturn : function ≠ "return" := ne_of_not_reserved free (by decide)
  have simple : simpleStatement inner (.word function :: others) =
      some (.expression value, rest) := by
    rw [simpleStatement, reads]
    cases rest with
    | nil => rfl
    | cons first others =>
      cases first with
      | mark sign =>
        obtain rfl : sign = ";" := of_decide_eq_true ends
        rfl
      | _ => cases ends
  rw [statement, simple]
  · rfl
  -- The other cases are for statements that start with a keyword.
  all_goals simp [noLet, noConst, noIf, noWhile, noFor, noTry, noThrow, noReturn]

/-- A program may start with a statement that is an expression. -/
theorem programWithin_statement {count : Nat} {function : String} (free : function ∉ reserved)
    {others rest : Tokens} {value : Expr} {program : Program} (ends : endsStatement rest = true)
    (reads : expression (level scriptDepth) (.word function :: others) = some (value, rest))
    (later : programWithin count rest = some program) :
    programWithin (count + 1) (.word function :: others) =
      some { program with statements := .expression value :: program.statements } := by
  have noFunction : function ≠ "fn" := ne_of_not_reserved free (by decide)
  have separate : (rest.isEmpty || false || (expectMark ";" rest).isSome) = true := by
    cases rest with
    | nil => rfl
    | cons first others =>
      cases first with
      | mark sign =>
        obtain rfl : sign = ";" := of_decide_eq_true ends
        rfl
      | _ => cases ends
  rw [programWithin, statement_eq free ends reads]
  · simp only [Option.bind_eq_bind, Option.bind_some, separate, if_true, later]
    rfl
  -- The other cases are for semicolons and functions.
  all_goals simp [noFunction]

end Parser

/-- Tokens of phrases that are statements: a semicolon stands between any two, and one may stand
behind the last. -/
inductive Phrase.Statements : List Phrase → Tokens → Prop
  /-- There is no statement. -/
  | nil : Statements [] []
  /-- The last statement, without a semicolon. -/
  | last (phrase : Phrase) : Statements [phrase] phrase.tokens
  /-- A statement, a semicolon and others. -/
  | cons (phrase : Phrase) {phrases : List Phrase} {tokens : Tokens}
    (others : Statements phrases tokens) :
    Statements (phrase :: phrases) (phrase.tokens ++ .mark ";" :: tokens)

namespace Phrase

/-- Whether a phrase starts with a name. -/
def IsNamed (phrase : Phrase) : Prop :=
  ∃ function others, function ∉ Parser.reserved ∧ phrase.tokens = .word function :: others

/-- Statements that are calls make a program without functions. -/
theorem Statements.programWithin_eq {phrases : List Phrase} {tokens : Tokens}
    (statements : Statements phrases tokens) (named : ∀ phrase ∈ phrases, phrase.IsNamed)
    (read : ∀ phrase ∈ phrases,
      phrase.ReadBy (Parser.expression (Parser.level Parser.scriptDepth)))
    {count : Nat} (enough : tokens.length < count) :
    Parser.programWithin count tokens =
      some ⟨phrases.map fun phrase => .expression phrase.expression, []⟩ := by
  induction statements generalizing count with
  | nil =>
    obtain ⟨count, rfl⟩ := Nat.exists_eq_succ_of_ne_zero (Nat.ne_zero_of_lt enough)
    rfl
  | last phrase =>
    obtain ⟨function, behind, free, shape⟩ := named phrase List.mem_cons_self
    have reads := (read phrase List.mem_cons_self).reads [] rfl
    rw [List.append_nil, shape] at reads
    rw [shape, List.length_cons] at enough
    obtain ⟨count, rfl⟩ : ∃ fewer, count = fewer + 2 := ⟨count - 2, by omega⟩
    rw [shape, Parser.programWithin_statement free rfl reads (show Parser.programWithin _ [] =
      some ⟨[], []⟩ from rfl)]
    rfl
  | @cons phrase phrases tokens others ih =>
    obtain ⟨function, behind, free, shape⟩ := named phrase List.mem_cons_self
    have ends : Parser.endsStatement (.mark ";" :: tokens) = true := rfl
    have reads := (read phrase List.mem_cons_self).reads (.mark ";" :: tokens)
      (Parser.endsExpression_of_endsStatement ends)
    rw [shape, List.cons_append] at reads
    simp only [shape, List.cons_append, List.length_cons, List.length_append] at enough
    obtain ⟨count, rfl⟩ : ∃ fewer, count = fewer + 2 := ⟨count - 2, by omega⟩
    have later : Parser.programWithin (count + 1) (.mark ";" :: tokens) =
        some ⟨phrases.map fun phrase => .expression phrase.expression, []⟩ := by
      rw [Parser.programWithin]
      exact ih (fun other member => named other (List.mem_cons_of_mem phrase member))
        (fun other member => read other (List.mem_cons_of_mem phrase member)) (by omega)
    rw [shape, List.cons_append, Parser.programWithin_statement free ends reads later]
    rfl

/-- The tokens of statements can be written when the phrases can be. -/
theorem Statements.hasSpelling {phrases : List Phrase} {tokens : Tokens}
    (statements : Statements phrases tokens) (spelled : ∀ phrase ∈ phrases, phrase.IsSpelled) :
    ∀ token ∈ tokens, token.hasSpelling = true := by
  induction statements with
  | nil => nofun
  | last phrase => exact spelled phrase List.mem_cons_self
  | cons phrase others ih =>
    intro token member
    rcases List.mem_append.mp member with here | behind
    · exact spelled phrase List.mem_cons_self token here
    · rcases List.mem_cons.mp behind with rfl | later
      · decide
      · have others (other : Phrase) (member : other ∈ _) : other.IsSpelled :=
          spelled other (List.mem_cons_of_mem phrase member)
        exact ih others token later

/-- The tokens of phrases that are statements, each with a semicolon behind it. -/
def script : List Phrase → Tokens
  | [] => []
  | phrase :: others => phrase.tokens ++ .mark ";" :: script others

/-- Phrases with a semicolon behind each of them are statements. -/
theorem statements_script (phrases : List Phrase) : Statements phrases (script phrases) := by
  induction phrases with
  | nil => exact .nil
  | cons phrase others ih => exact .cons phrase ih

section

variable {program : Program} {declared : Declarations}

/-- Phrases in a row pass the checks when all of them do. -/
theorem allPass_map {phrases : List Phrase}
    (pass : ∀ phrase ∈ phrases, Checks.passes program declared phrase.expression = true) :
    Checks.allPass program declared (phrases.map expression) = true := by
  induction phrases with
  | nil => rfl
  | cons first others ih =>
    rw [List.map_cons, Checks.allPass, pass first List.mem_cons_self]
    exact ih fun phrase member => pass phrase (List.mem_cons_of_mem first member)

/-- A text passes the checks. -/
theorem passes_text (content : String) :
    Checks.passes program declared (text content).expression = true := rfl

/-- An array passes the checks when all its items do. -/
theorem passes_array {phrases : List Phrase}
    (pass : ∀ phrase ∈ phrases, Checks.passes program declared phrase.expression = true) :
    Checks.passes program declared (array phrases).expression = true :=
  allPass_map pass

/-- A call of a function that is not left out passes the checks when all its arguments do. -/
theorem passes_call {function : String} (carried : function ∉ Checks.leftOut)
    {phrases : List Phrase}
    (pass : ∀ phrase ∈ phrases, Checks.passes program declared phrase.expression = true) :
    Checks.passes program declared (call function phrases).expression = true := by
  have arguments := allPass_map pass
  have called (count : Nat) : Checks.mayCall program function count = true := by
    simp [Checks.mayCall, carried]
  simp only [call, Checks.passes, called, arguments, Bool.and_self]

/-- Statements pass the checks when all of them do. -/
theorem blockPasses_map {phrases : List Phrase}
    (pass : ∀ phrase ∈ phrases, Checks.passes program declared phrase.expression = true) :
    Checks.blockPasses program declared
      (phrases.map fun phrase => .expression phrase.expression) = true := by
  induction phrases with
  | nil => rfl
  | cons first others ih =>
    rw [List.map_cons, Checks.blockPasses, pass first List.mem_cons_self]
    exact ih fun phrase member => pass phrase (List.mem_cons_of_mem first member)

end

end Phrase

/-- A script that writes statements which are calls is parsed into them. -/
theorem Program.parse?_of_writes {phrases : List Phrase} {tokens : Tokens} {source : String}
    (statements : Phrase.Statements phrases tokens) (writes : Token.Writes tokens source.toList)
    (named : ∀ phrase ∈ phrases, phrase.IsNamed)
    (read : ∀ phrase ∈ phrases,
      phrase.ReadBy (Parser.expression (Parser.level Parser.scriptDepth)))
    (pass : ∀ program, ∀ phrase ∈ phrases, Checks.passes program [] phrase.expression = true) :
    parse? source = some ⟨phrases.map fun phrase => .expression phrase.expression, []⟩ := by
  have parsed := statements.programWithin_eq named read (Nat.lt_succ_self tokens.length)
  rw [parse?, Token.ofText_of_writes writes]
  simp only [Option.bind_eq_bind, Option.bind_some, parsed, Phrase.blockPasses_map (pass _)]
  rfl

end Stencil.Script
