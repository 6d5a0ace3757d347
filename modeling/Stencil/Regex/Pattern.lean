import Stencil.Regex.CharSet

/-!
# Patterns

A pattern says which texts it matches, and some of its parts only look at the characters around
their place. Matching walks over the text once and keeps the patterns that are still to be matched:
each character turns a pattern into the patterns that may follow it, so the work grows with the
text times the number of different patterns and never explodes.
-/

namespace Stencil.Regex

/-- A condition on the characters around a place. -/
inductive Look where
  /-- The start of the text. -/
  | textStart
  /-- The end of the text. -/
  | textEnd
  /-- The start of a line, where a carriage return may end lines too. -/
  | lineStart (returns : Bool)
  /-- The end of a line, where a carriage return may end lines too. -/
  | lineEnd (returns : Bool)
  /-- A word character on exactly one side. -/
  | wordEdge (unicode : Bool)
  /-- No or two word characters around. -/
  | noWordEdge (unicode : Bool)
  /-- A word character on the right side only. -/
  | wordStart (unicode : Bool)
  /-- A word character on the left side only. -/
  | wordEnd (unicode : Bool)
  /-- No word character on the left. -/
  | noWordBefore (unicode : Bool)
  /-- No word character on the right. -/
  | noWordAfter (unicode : Bool)
deriving DecidableEq, Repr

/-- A pattern. -/
inductive Pattern where
  /-- The empty text. -/
  | empty
  /-- One character of a set. -/
  | one (set : CharSet)
  /-- The empty text, where a condition holds. -/
  | look (condition : Look)
  /-- One pattern and then another. -/
  | concat (first second : Pattern)
  /-- One pattern or another. -/
  | either (first second : Pattern)
  /-- A pattern several times in a row. -/
  | repeated (least : Nat) (most : Option Nat) (body : Pattern)
deriving DecidableEq, Repr

/-- The characters before and after a place. -/
structure Place where
  /-- The character before, unless the text starts here. -/
  before : Option Char
  /-- The character after, unless the text ends here. -/
  after : Option Char
deriving DecidableEq, Repr

/-- Whether there is a word character. -/
def isWord (unicode : Bool) : Option Char → Bool
  | some character => (wordSet unicode).contains character.toNat
  | none => false

/-- Whether a condition holds at a place. -/
def Look.holds (place : Place) : Look → Bool
  | textStart => place.before = none
  | textEnd => place.after = none
  | lineStart returns =>
    place.before = none || place.before = some '\n' ||
      returns && place.before = some '\r' && place.after ≠ some '\n'
  | lineEnd returns =>
    if returns then
      place.after = none || place.after = some '\r' ||
        place.after = some '\n' && place.before ≠ some '\r'
    else place.after = none || place.after = some '\n'
  | wordEdge unicode => isWord unicode place.before != isWord unicode place.after
  | noWordEdge unicode => isWord unicode place.before == isWord unicode place.after
  | wordStart unicode => !isWord unicode place.before && isWord unicode place.after
  | wordEnd unicode => isWord unicode place.before && !isWord unicode place.after
  | noWordBefore unicode => !isWord unicode place.before
  | noWordAfter unicode => !isWord unicode place.after

namespace Pattern

/-- A pattern followed by another one. -/
def andThen : Pattern → Pattern → Pattern
  | empty, second => second
  | first, second => concat first second

/-- Patterns in a row. -/
def sequence (patterns : List Pattern) : Pattern := patterns.foldr andThen empty

/-- The size of a pattern when its repetitions are written out: one for every character, and one
more for every copy that may be left out. -/
def size : Pattern → Nat
  | empty => 0
  | one _ => 1
  | look _ => 0
  | concat first second => first.size + second.size
  | either first second => first.size + second.size
  | repeated least none body => max least 1 * body.size
  | repeated least (some most) body =>
    if body.size = 0 then 0 else most * body.size + (most - least)

/-- Whether a pattern matches the empty text at a place. -/
def acceptsEmpty (place : Place) : Pattern → Bool
  | empty => true
  | one _ => false
  | look condition => condition.holds place
  | concat first second => first.acceptsEmpty place && second.acceptsEmpty place
  | either first second => first.acceptsEmpty place || second.acceptsEmpty place
  | repeated least _ body => least = 0 || body.acceptsEmpty place

/-- What a pattern leaves to be matched after one character at a place. -/
def after (place : Place) (character : Char) : Pattern → List Pattern
  | empty => []
  | one set => if set.contains character.toNat then [empty] else []
  | look _ => []
  | concat first second =>
    (first.after place character).map (·.andThen second) ++
      if first.acceptsEmpty place then second.after place character else []
  | either first second => first.after place character ++ second.after place character
  | repeated least most body =>
    if most = some 0 then []
    else
      -- Where the body matches nothing, the copies that are required can all be empty here.
      let needed := if body.acceptsEmpty place then 0 else least - 1
      (body.after place character).map
        (·.andThen (repeated needed (most.map (· - 1)) body))

/-- Whether a pattern matches somewhere in a text, when some patterns are already under way. -/
def occursFrom (pattern : Pattern) (before : Option Char) (active : List Pattern) :
    List Char → Bool
  | [] => (pattern :: active).any (acceptsEmpty ⟨before, none⟩)
  | character :: rest =>
    let place : Place := ⟨before, some character⟩
    let states := (pattern :: active).eraseDups
    states.any (acceptsEmpty place) ||
      occursFrom pattern (some character) (states.flatMap (after place character)) rest

/-- Whether a pattern matches somewhere in a text. -/
def occursIn (pattern : Pattern) (text : List Char) : Bool := occursFrom pattern none [] text

end Pattern

end Stencil.Regex
