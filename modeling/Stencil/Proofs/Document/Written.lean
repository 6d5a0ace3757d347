import Stencil.Proofs.Expr.Written
import Stencil.Proofs.Outline.Grammar

/-!
# How documents are written

A document is written as the pieces of its nodes: texts as they are, and tags between the default
markers. An else branch and a branch without entries are left out when they are empty. Beside this
stand the conditions under which the text can be cut again into the same pieces.
-/

namespace Stencil

/-- Whether an expression can be written and is read back within the limit on its depth. -/
def Expr.isReadable (expression : Expr) : Bool :=
  expression.isWritable && expression.depth ≤ maxExpressionDepth

/-- The tokens of the header of a block. -/
def Opening.tokens : Opening → List Token
  | conditional condition => .keyword .ifWord :: condition.tokens
  | loop none value source =>
    .keyword .forWord :: .name value :: .keyword .inWord :: source.tokens
  | loop (some key) value source =>
    .keyword .forWord :: .name key :: .symbol .comma :: .name value :: .keyword .inWord ::
      source.tokens
  | binding name value => .keyword .setWord :: .name name :: .keyword .toWord :: value.tokens

/-- Whether the header of a block can be written and is read back. -/
def Opening.isReadable : Opening → Bool
  | conditional condition => condition.isReadable
  | loop key value source => key.all Token.isName && Token.isName value && source.isReadable
  | binding name value => Token.isName name && value.isReadable

/-- The tokens of the header of a branch; the marker alone has none. -/
def Branch.tokens : Branch → List Token
  | bare => []
  | otherwise => [.keyword .elseWord]
  | elif condition => .keyword .elifWord :: condition.tokens
  | empty => [.keyword .emptyWord]

/-- Whether the header of a branch can be written by its keyword and is read back. -/
def Branch.isReadable : Branch → Bool
  | bare => false
  | otherwise | empty => true
  | elif condition => condition.isReadable

namespace Tag

/-- The tokens of a tag. -/
def tokens : Tag → List Token
  | comment => []
  | output expression => expression.tokens
  | opening header _ => header.tokens
  | continuation branch _ => branch.tokens
  | closing _ => [.keyword .endWord]

/-- Whether a tag can be written by its tokens and is read back. -/
def isReadable : Tag → Bool
  | comment => false
  | output expression => expression.isReadable
  | opening header _ => header.isReadable
  | continuation branch _ => branch.isReadable
  | closing _ => true

/-- The tag at another place. -/
def moveTo (position : Position) : Tag → Tag
  | comment => comment
  | output expression => output expression
  | opening header _ => opening header position
  | continuation branch _ => continuation branch position
  | closing _ => closing position

/-- The text between the markers of a tag: its tokens with a space between any two, around them and
behind a comma. -/
def content : Tag → List Char
  | opening (.loop (some key) value source) _ =>
    " for ".toList ++ (key.toList ++ (", ".toList ++
      (Token.spaced (.name value :: .keyword .inWord :: source.tokens) ++ [' '])))
  | tag => ' ' :: (Token.spaced tag.tokens ++ [' '])

/-- The tokens of a tag that can be read all have a spelling. -/
theorem hasSpelling_tokens {tag : Tag} (readable : tag.isReadable = true) :
    ∀ token ∈ tag.tokens, token.hasSpelling = true := by
  have ofExpression {expression : Expr} (inside : expression.isReadable = true) :
      ∀ token ∈ expression.tokens, token.hasSpelling = true := by
    simp only [Expr.isReadable, Bool.and_eq_true] at inside
    exact Expr.hasSpelling_tokens inside.1
  cases tag with
  | comment => cases readable
  | output expression => exact ofExpression readable
  | opening header position =>
    cases header with
    | conditional condition => exact List.forall_mem_cons.mpr ⟨rfl, ofExpression readable⟩
    | loop key value source =>
      simp only [isReadable, Opening.isReadable, Bool.and_eq_true] at readable
      obtain ⟨⟨keyNamed, valueNamed⟩, sourceReadable⟩ := readable
      cases key with
      | none =>
        simp only [tokens, Opening.tokens, List.forall_mem_cons]
        exact ⟨rfl, valueNamed, rfl, ofExpression sourceReadable⟩
      | some key =>
        simp only [tokens, Opening.tokens, List.forall_mem_cons]
        exact ⟨rfl, keyNamed, rfl, valueNamed, rfl, ofExpression sourceReadable⟩
    | binding name value =>
      simp only [isReadable, Opening.isReadable, Bool.and_eq_true] at readable
      simp only [tokens, Opening.tokens, List.forall_mem_cons]
      exact ⟨rfl, readable.1, rfl, ofExpression readable.2⟩
  | continuation branch position =>
    cases branch with
    | bare => cases readable
    | otherwise | empty => exact List.forall_mem_singleton.mpr rfl
    | elif condition => exact List.forall_mem_cons.mpr ⟨rfl, ofExpression readable⟩
  | closing position => exact List.forall_mem_singleton.mpr rfl

/-- The text between the markers of a tag writes its tokens. -/
theorem writes_content {tag : Tag} (readable : tag.isReadable = true) :
    Token.Writes tag.tokens tag.content := by
  have spelled := hasSpelling_tokens readable
  have spaced : Token.Writes tag.tokens (' ' :: (Token.spaced tag.tokens ++ [' '])) :=
    (Token.writes_spaced spelled).append_space.blank_cons (by decide)
  cases tag with
  | opening header position =>
    cases header with
    | loop key value source =>
      cases key with
      | none => exact spaced
      | some key =>
        obtain ⟨-, named, -, others⟩ : _ ∧ Token.hasSpelling (.name key) = true ∧ _ ∧
            ∀ token ∈ .name value :: .keyword .inWord :: source.tokens,
              token.hasSpelling = true := by
          simpa only [tokens, Opening.tokens, List.forall_mem_cons] using spelled
        have space : Text.isBlank ' ' = true := by decide
        have blanks : ∀ character ∈ [' '], Text.isBlank character = true :=
          List.forall_mem_singleton.mpr space
        have behind := (Token.writes_spaced others).append_space.blank_cons space
        have stops (tail : List Char) : (Token.name key).endsBefore (',' :: tail) = true := by
          have comma : Text.continuesWord ',' = false := by decide
          simp [Token.endsBefore, Token.isExtendedBy, comma]
        have comma : Token.Writes (.symbol .comma :: _) (',' :: _) :=
          .token [] (by simp) rfl (Token.endsBefore_space _ _).1 behind
        have named : Token.Writes (.name key :: _) (' ' :: (key.toList ++ _)) :=
          .token [' '] blanks named (stops _) comma
        have whole : Token.Writes (.keyword .forWord :: _) (' ' :: 'f' :: 'o' :: 'r' :: _) :=
          .token [' '] blanks rfl (Token.endsBefore_space _ _).1 named
        exact whole
    | conditional | binding => exact spaced
  | comment | output | continuation | closing => exact spaced

end Tag

namespace Piece

/-- A text that writes pieces in order: texts as they are, and between the markers of a tag anything
that writes its tokens. -/
inductive Writes : List Piece → List Char → Prop
  /-- Nothing is left. -/
  | nil : Writes [] []
  /-- A text. -/
  | text (content : String) {pieces : List Piece} {tail : List Char}
    (others : Writes pieces tail) : Writes (.text content :: pieces) (content.toList ++ tail)
  /-- A tag between markers. -/
  | tag {saying : Tag} {content : List Char} {pieces : List Piece} {tail : List Char}
    (written : Token.Writes saying.tokens content) (others : Writes pieces tail) :
    Writes (.tag saying :: pieces) ('{' :: '{' :: (content ++ '}' :: '}' :: tail))

/-- The text of a piece. -/
def source : Piece → List Char
  | text content => content.toList
  | tag saying => '{' :: '{' :: (saying.content ++ ['}', '}'])

/-- A piece as it was written and as it was found, which differ at most in their place. -/
def Placed (written found : Piece) : Prop :=
  match written with
  | text content => found = .text content
  | tag saying => ∃ position, found = .tag (saying.moveTo position)

/-- Whether a text holds an opening marker. -/
def holdsMarker (content : String) : Bool := Text.occursIn ['{', '{'] content.toList

/-- Whether an opening marker behind a text would be found too early. -/
def endsInBrace (content : String) : Bool := content.toList.getLast? == some '{'

/-- Whether pieces in a row are found again where they are written: every tag can be read, no text
is empty or holds a marker, and behind a text stands nothing or a tag that does not blend with it. -/
def areApart : List Piece → Bool
  | [] => true
  | .tag saying :: others => saying.isReadable && areApart others
  | [.text content] => content != "" && !holdsMarker content
  | .text content :: .tag saying :: others =>
    content != "" && !holdsMarker content && !endsInBrace content && areApart (.tag saying :: others)
  | .text _ :: .text _ :: _ => false

end Piece

/-! ## Nodes -/

mutual

/-- The pieces of a node, all at the origin. -/
def Node.pieces : Node → List Piece
  | .literal text => [.text text]
  | .output expression => [.tag (.output expression)]
  | .conditional branches otherwise =>
    branchPieces (fun condition => .opening (.conditional condition) .origin) branches ++
      ((if otherwise.isEmpty then [] else
        .tag (.continuation .otherwise .origin) :: nodePieces otherwise) ++
        [.tag (.closing .origin)])
  | .loop key value source body empty =>
    .tag (.opening (.loop key value source) .origin) :: (nodePieces body ++
      ((if empty.isEmpty then [] else .tag (.continuation .empty .origin) :: nodePieces empty) ++
        [.tag (.closing .origin)]))
  | .binding name value body =>
    .tag (.opening (.binding name value) .origin) :: (nodePieces body ++
      [.tag (.closing .origin)])

/-- The pieces of branches, the first one with a header of its own. -/
def branchPieces (header : Expr → Tag) : List (Expr × List Node) → List Piece
  | [] => []
  | (condition, body) :: others =>
    .tag (header condition) :: (nodePieces body ++
      branchPieces (fun condition => .continuation (.elif condition) .origin) others)

/-- The pieces of nodes in a row. -/
def nodePieces : List Node → List Piece
  | [] => []
  | first :: others => first.pieces ++ nodePieces others

end

mutual

/-- How many blocks are open at once in a node. -/
def Node.nesting : Node → Nat
  | .literal _ | .output _ => 0
  | .conditional branches otherwise => max (branchNesting branches) (nodeNesting otherwise) + 1
  | .loop _ _ _ body empty => max (nodeNesting body) (nodeNesting empty) + 1
  | .binding _ _ body => nodeNesting body + 1

/-- How many blocks are open at once in branches. -/
def branchNesting : List (Expr × List Node) → Nat
  | [] => 0
  | (_, body) :: others => max (nodeNesting body) (branchNesting others)

/-- How many blocks are open at once in nodes in a row. -/
def nodeNesting : List Node → Nat
  | [] => 0
  | first :: others => max first.nesting (nodeNesting others)

end

/-- Whether a node is a literal. -/
def Node.isLiteral : Node → Bool
  | .literal _ => true
  | .output _ | .conditional _ _ | .loop _ _ _ _ _ | .binding _ _ _ => false

/-- Whether a node may stand before others: a literal does not stand before a literal, and ends in a
brace only when it is the final piece of the template. -/
def Node.standsBefore (final : Bool) (others : List Node) : Node → Bool
  | .literal text =>
    !others.head?.any isLiteral && (final && others.isEmpty || !Piece.endsInBrace text)
  | .output _ | .conditional _ _ | .loop _ _ _ _ _ | .binding _ _ _ => true

mutual

/-- Whether a node can be written: its expressions and names can, a literal holds no marker and is
not empty, and a conditional has a branch. -/
def Node.isWritable : Node → Bool
  | .literal text => text != "" && !Piece.holdsMarker text
  | .output expression => expression.isReadable
  | .conditional branches otherwise =>
    !branches.isEmpty && branchesWritable branches && nodesWritable false otherwise
  | .loop key value source body empty =>
    (Opening.loop key value source).isReadable && nodesWritable false body &&
      nodesWritable false empty
  | .binding name value body => (Opening.binding name value).isReadable && nodesWritable false body

/-- Whether all branches can be written. -/
def branchesWritable : List (Expr × List Node) → Bool
  | [] => true
  | (condition, body) :: others =>
    condition.isReadable && nodesWritable false body && branchesWritable others

/-- Whether nodes in a row can be written: each one can, and may stand before those behind it. -/
def nodesWritable (final : Bool) : List Node → Bool
  | [] => true
  | first :: others =>
    first.isWritable && first.standsBefore final others && nodesWritable final others

end

namespace Document

/-- The pieces of a document, all at the origin. -/
def pieces (document : Document) : List Piece := nodePieces document.nodes

/-- A document as it is written. -/
def source (document : Document) : String := String.ofList (document.pieces.flatMap Piece.source)

/-- Whether a document can be written. -/
def isWritable (document : Document) : Bool :=
  nodesWritable true document.nodes && nodeNesting document.nodes ≤ maxBlockDepth

end Document

end Stencil
