import Stencil.Regex.CategoryTable
import Stencil.Regex.FoldTable
import Stencil.Regex.PropertyTable
import Stencil.Regex.ScriptTable
import Stencil.Text.CaseMap

/-!
# Sets of characters

The sets a pattern is made of: ranges of code points, properties, and what union, intersection,
difference, complement and indifference to case make of them.
-/

namespace Stencil.Regex

/-- A set of characters, given by how it is made. -/
inductive CharSet where
  /-- The code points in some ranges. -/
  | ranges (ranges : List (Nat × Nat))
  /-- What lies in one set or the other. -/
  | union (left right : CharSet)
  /-- What lies in both sets. -/
  | intersection (left right : CharSet)
  /-- What lies in the first set only. -/
  | difference (left right : CharSet)
  /-- What lies in exactly one of the sets. -/
  | symmetric (left right : CharSet)
  /-- What does not lie in a set. -/
  | complement (set : CharSet)
  /-- What lies in a set but for case; outside Unicode only ASCII letters have a case. -/
  | folded (unicode : Bool) (set : CharSet)
deriving DecidableEq, Repr

namespace CharSet

/-- The code points that differ from one in case only. -/
def caseVariants (unicode : Bool) (code : Nat) : List Nat :=
  if unicode then
    foldRuns.filterMap fun (first, last, step, target) =>
      if first ≤ code && code ≤ last && (code - first) % step == 0 then
        some (target + (code - first))
      else none
  else if 65 ≤ code && code ≤ 90 then [code + 32]
  else if 97 ≤ code && code ≤ 122 then [code - 32]
  else []

/-- Whether a code point lies in a set. -/
def contains : CharSet → Nat → Bool
  | ranges list, code => Text.inRanges list code
  | union left right, code => left.contains code || right.contains code
  | intersection left right, code => left.contains code && right.contains code
  | difference left right, code => left.contains code && !right.contains code
  | symmetric left right, code => left.contains code != right.contains code
  | complement set, code => !set.contains code
  | folded unicode set, code =>
    set.contains code || (caseVariants unicode code).any fun variant => set.contains variant

/-- The set without members. -/
def none : CharSet := ranges []

/-- The set of all characters. -/
def all : CharSet := ranges [(0, 0x10FFFF)]

/-- The set of one character. -/
def single (character : Char) : CharSet := ranges [(character.toNat, character.toNat)]

/-- A set or its complement. -/
def negatedIf (negated : Bool) (set : CharSet) : CharSet := if negated then complement set else set

/-- A set, without regard to case if asked. -/
def foldedIf (ignoreCase unicode : Bool) (set : CharSet) : CharSet :=
  if ignoreCase then folded unicode set else set

end CharSet

/-- The numbers of a property's ranges: digits `a` to `p` in base sixteen, the last digit of each
number in upper case. -/
def decodeNumbers (number : Nat) : List Char → List Nat
  | [] => []
  | letter :: rest =>
    if letter.isUpper then (number * 16 + (letter.toNat - 65)) :: decodeNumbers 0 rest
    else decodeNumbers (number * 16 + (letter.toNat - 97)) rest

/-- Ranges from gaps and lengths. -/
def decodeGaps (last : Nat) : List Nat → List (Nat × Nat)
  | gap :: length :: rest =>
    (last + gap, last + gap + length) :: decodeGaps (last + gap + length) rest
  | _ => []

/-- The ranges of a property. -/
def decodeRanges (written : String) : List (Nat × Nat) :=
  decodeGaps 0 (decodeNumbers 0 written.toList)

/-- The entry of a table under one of its names. -/
def findIn (table : List (String × String)) (name : String) : Option CharSet :=
  (table.find? fun entry => (entry.1.splitOn " ").contains name).map fun entry =>
    .ranges (decodeRanges entry.2)

/-- A name without case, blanks, hyphens and underscores, and without a leading `is`. -/
def plainName (name : List Char) : String :=
  let (prefixed, body) := match name with
    | first :: second :: rest =>
      if first.toLower = 'i' && second.toLower = 's' then (true, rest) else (false, name)
    | _ => (false, name)
  let kept := body.filterMap fun letter =>
    if letter = ' ' || letter = '_' || letter = '-' || 128 ≤ letter.toNat then none
    else some letter.toLower
  if prefixed && kept = ['c'] then "isc" else String.ofList kept

/-- The categories that stand for several others. -/
def categoryGroups : List (List String × List String) := [
  (["c", "other"], ["cc", "cf", "cn", "co", "cs"]),
  (["l", "letter"], ["lu", "ll", "lt", "lm", "lo"]),
  (["lc", "casedletter"], ["lu", "ll", "lt"]),
  (["m", "mark", "combiningmark"], ["mn", "mc", "me"]),
  (["n", "number"], ["nd", "nl", "no"]),
  (["p", "punctuation", "punct"], ["pc", "pd", "ps", "pe", "pi", "pf", "po"]),
  (["s", "symbol"], ["sm", "sc", "sk", "so"]),
  (["z", "separator"], ["zs", "zl", "zp"])]

/-- The union of categories. -/
def categories (names : List String) : CharSet :=
  (names.filterMap (findIn categoryTable)).foldl .union .none

/-- A general category by name. -/
def category? (name : String) : Option CharSet :=
  if name = "any" then some .all
  else if name = "ascii" then some (.ranges [(0, 127)])
  else if name = "assigned" then (findIn categoryTable "cn").map .complement
  else match categoryGroups.find? fun group => group.1.contains name with
    | some group => some (categories group.2)
    | none => findIn categoryTable name

/-- A property by its name alone: a yes-or-no property, a category or a script. -/
def property? (name : String) : Option CharSet :=
  let direct :=
    if name = "cf" || name = "sc" || name = "lc" then none else findIn propertyTable name
  direct <|> category? name <|> findIn scriptTable name

/-- A property by name and value. -/
def propertyValue? (name value : String) : Option CharSet :=
  if name = "gc" || name = "generalcategory" then category? value
  else if name = "sc" || name = "script" then findIn scriptTable value
  else if name = "scx" || name = "scriptextensions" then
    findIn scriptExtensionTable value <|> findIn scriptTable value
  else none

/-- All decimal digits. -/
def anyDigitSet : CharSet := categories ["nd"]

/-- Decimal digits. -/
def digitSet (unicode : Bool) : CharSet :=
  if unicode then anyDigitSet else .ranges [(48, 57)]

/-- White space. -/
def spaceSet (unicode : Bool) : CharSet :=
  if unicode then .ranges [(9, 13), (32, 32), (0x85, 0x85), (0xA0, 0xA0), (0x1680, 0x1680),
    (0x2000, 0x200A), (0x2028, 0x2029), (0x202F, 0x202F), (0x205F, 0x205F), (0x3000, 0x3000)]
  else .ranges [(9, 13), (32, 32)]

/-- ASCII letters, digits and the underscore. -/
def asciiWordSet : CharSet := .ranges [(48, 57), (65, 90), (95, 95), (97, 122)]

/-- Letters, marks, digits, connectors and join controls. -/
def anyWordSet : CharSet :=
  .union asciiWordSet (.union (.ranges Text.letterRanges)
    (.union (categories ["mn", "mc", "me", "nd", "pc"]) (.ranges [(0x200C, 0x200D)])))

/-- The characters of words. -/
def wordSet (unicode : Bool) : CharSet := if unicode then anyWordSet else asciiWordSet

/-- The ASCII classes that are written between brackets and colons. -/
def asciiClass? : String → Option CharSet
  | "alnum" => some (.ranges [(48, 57), (65, 90), (97, 122)])
  | "alpha" => some (.ranges [(65, 90), (97, 122)])
  | "ascii" => some (.ranges [(0, 127)])
  | "blank" => some (.ranges [(9, 9), (32, 32)])
  | "cntrl" => some (.ranges [(0, 31), (127, 127)])
  | "digit" => some (.ranges [(48, 57)])
  | "graph" => some (.ranges [(33, 126)])
  | "lower" => some (.ranges [(97, 122)])
  | "print" => some (.ranges [(32, 126)])
  | "punct" => some (.ranges [(33, 47), (58, 64), (91, 96), (123, 126)])
  | "space" => some (.ranges [(9, 13), (32, 32)])
  | "upper" => some (.ranges [(65, 90)])
  | "word" => some asciiWordSet
  | "xdigit" => some (.ranges [(48, 57), (65, 70), (97, 102)])
  | _ => none

end Stencil.Regex
