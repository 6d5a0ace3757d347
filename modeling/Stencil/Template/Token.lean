import Stencil.Number.Notation
import Stencil.Text.Quoted

/-!
# Tokens

What the content of a tag is made of. Symbols and keywords each have one spelling; a word that
spells a keyword is that keyword, except as a property name after a dot.
-/

namespace Stencil

/-- A symbol of the expression language. -/
inductive Symbol where
  | dot | comma | openParen | closeParen | openBracket | closeBracket
  | plus | minus | star | slash | percent
  | equal | notEqual | less | lessEqual | greater | greaterEqual
  | assign | bang | both
deriving DecidableEq, Repr

namespace Symbol

/-- How a symbol is written. -/
def spelling : Symbol → String
  | dot => "."
  | comma => ","
  | openParen => "("
  | closeParen => ")"
  | openBracket => "["
  | closeBracket => "]"
  | plus => "+"
  | minus => "-"
  | star => "*"
  | slash => "/"
  | percent => "%"
  | equal => "=="
  | notEqual => "!="
  | less => "<"
  | lessEqual => "<="
  | greater => ">"
  | greaterEqual => ">="
  | assign => "="
  | bang => "!"
  | both => "&&"

/-- What messages call a symbol. -/
def name : Symbol → String
  | dot => "Dot"
  | comma => "Comma"
  | openParen => "LParen"
  | closeParen => "RParen"
  | openBracket => "LBracket"
  | closeBracket => "RBracket"
  | plus => "Plus"
  | minus => "Minus"
  | star => "Star"
  | slash => "Slash"
  | percent => "Percent"
  | equal => "EqEq"
  | notEqual => "NotEq"
  | less => "Lt"
  | lessEqual => "Le"
  | greater => "Gt"
  | greaterEqual => "Ge"
  | assign => "Assign"
  | bang => "Bang"
  | both => "AndAnd"

end Symbol

/-- A keyword of tags and expressions. -/
inductive Keyword where
  | ifWord | elifWord | elseWord | forWord | inWord | emptyWord | setWord | toWord | endWord
  | andWord | orWord | notWord
deriving DecidableEq, Repr

namespace Keyword

/-- All keywords. -/
def all : List Keyword :=
  [ifWord, elifWord, elseWord, forWord, inWord, emptyWord, setWord, toWord, endWord, andWord,
    orWord, notWord]

/-- How a keyword is written. -/
def spelling : Keyword → String
  | ifWord => "if"
  | elifWord => "elif"
  | elseWord => "else"
  | forWord => "for"
  | inWord => "in"
  | emptyWord => "empty"
  | setWord => "set"
  | toWord => "to"
  | endWord => "end"
  | andWord => "and"
  | orWord => "or"
  | notWord => "not"

/-- What messages call a keyword. -/
def name : Keyword → String
  | ifWord => "If"
  | elifWord => "Elif"
  | elseWord => "Else"
  | forWord => "For"
  | inWord => "In"
  | emptyWord => "Empty"
  | setWord => "Set"
  | toWord => "To"
  | endWord => "End"
  | andWord => "And"
  | orWord => "Or"
  | notWord => "Not"

/-- The keyword a word spells. -/
def ofSpelling? (word : String) : Option Keyword :=
  all.find? fun keyword => keyword.spelling == word

/-- The word of a keyword spells it. -/
theorem ofSpelling?_spelling (keyword : Keyword) :
    ofSpelling? keyword.spelling = some keyword := by
  cases keyword <;> decide

end Keyword

/-- A token. -/
inductive Token where
  /-- A name. -/
  | name (text : String)
  /-- A string literal. -/
  | string (text : String)
  /-- An integer literal. -/
  | integer (number : Int64)
  /-- A float literal. -/
  | float (number : Binary64)
  /-- The word `true` or `false`. -/
  | boolean (truth : Bool)
  /-- The word `null`. -/
  | null
  /-- A symbol. -/
  | symbol (symbol : Symbol)
  /-- A keyword. -/
  | keyword (keyword : Keyword)
  /-- The end of the tag. -/
  | finish
deriving DecidableEq, Repr

namespace Token

/-- What a word means where keywords are recognized. -/
def ofWord (word : String) : Token :=
  if word = "true" then boolean true
  else if word = "false" then boolean false
  else if word = "null" then null
  else match Keyword.ofSpelling? word with
    | some found => keyword found
    | none => name word

/-- A token as messages show it. -/
def message : Token → String
  | name text => "Ident(" ++ Text.quoted text ++ ")"
  | string text => "String(" ++ Text.quoted text ++ ")"
  | integer number => "Integer(" ++ toString number.toInt ++ ")"
  | float number => "Float(" ++ NumberNotation.message.write number ++ ")"
  | boolean truth => "Bool(" ++ (if truth then "true" else "false") ++ ")"
  | null => "Null"
  | symbol found => found.name
  | keyword found => found.name
  | finish => "Eof"

end Token

end Stencil
