import Stencil.Number.Checked
import Stencil.Script.Program
import Stencil.Text.Search

/-!
# Operations of driving scripts

What operators and accesses compute. Integers are exact or fail, an integer that meets a float
becomes one, and a text joined with anything is a text. An operation on operands that do not fit
it fails; comparing values of different kinds does not, they are just not equal.
-/

namespace Stencil.Script

/-- An operation that has no result, in words. -/
abbrev Computed := Except String

namespace Value

/-- The number of an integer or a float as a float. -/
def toFloat? : Value → Option Binary64
  | integer number => some (Binary64.ofInt number.toInt)
  | float number => some number
  | _ => none

/-- An operation that does not fit its operands. -/
def noOperation {α : Type} (name : String) (left right : Value) : Computed α :=
  .error s!"Function not found: {name} ({left.typeName}, {right.typeName})"

/-- The result of an exact operation, which may not fit. -/
def exactly (name : String) : Option Int64 → Computed Value
  | some number => .ok (integer number)
  | none => .error s!"{name} has no result that fits an integer"

/-- A numeric operation. -/
def compute (name : String) (exact : Int64 → Int64 → Option Int64)
    (rounded : Binary64 → Binary64 → Binary64) (left right : Value) : Computed Value :=
  match left, right with
  | integer first, integer second => exactly name (exact first second)
  | _, _ =>
    match left.toFloat?, right.toFloat? with
    | some first, some second => .ok (float (rounded first second))
    | _, _ => noOperation name left right

/-- The sum of numbers, texts joined, or arrays in a row. -/
def add : Value → Value → Computed Value
  | string first, second => .ok (string (first ++ second.text))
  | first, string second => .ok (string (first.text ++ second))
  | character first, character second => .ok (string (String.ofList [first, second]))
  | array first, array second => .ok (array (first ++ second))
  | map first, map second => .ok (map (second.foldl (fun entries entry =>
      insertEntry entry.1 entry.2 entries) first))
  | first, second => compute "+" Checked.add? Binary64.add first second

mutual

/-- Whether two values are equal; none for two that cannot be compared. -/
def equal? : Value → Value → Option Bool
  | unit, unit => some true
  | boolean first, boolean second => some (first = second)
  | integer first, integer second => some (first = second)
  | integer first, float second => some ((Binary64.ofInt first.toInt).sameValue second)
  | float first, integer second => some (first.sameValue (Binary64.ofInt second.toInt))
  | float first, float second => some (first.sameValue second)
  | character first, character second => some (first = second)
  | character first, string second => some (String.singleton first = second)
  | string first, character second => some (first = String.singleton second)
  | string first, string second => some (first = second)
  | array first, array second =>
    if first.length = second.length then equalItems? first second else some false
  | map first, map second =>
    if first.length = second.length then equalEntries? first second else some false
  | range first last, range other bound => some (first = other && last = bound)
  | metadata _, metadata _ => none
  | _, _ => some false

/-- Whether values in a row are equal one by one. -/
def equalItems? : List Value → List Value → Option Bool
  | first :: rest, second :: others =>
    match equal? first second with
    | some true => equalItems? rest others
    | answer => answer
  | _, _ => some true

/-- Whether named values are equal one by one. -/
def equalEntries? : List (String × Value) → List (String × Value) → Option Bool
  | (name, first) :: rest, (other, second) :: others =>
    if name = other then
      match equal? first second with
      | some true => equalEntries? rest others
      | answer => answer
    else some false
  | _, _ => some true

end

/-- The order of two values of one kind that has an order. -/
def order? (left right : Value) : Option (Option Ordering) :=
  match left, right with
  | string first, string second => some (some (Ord.compare first second))
  | string first, character second => some (some (Ord.compare first (String.singleton second)))
  | character first, string second => some (some (Ord.compare (String.singleton first) second))
  | character first, character second => some (some (Ord.compare first.toNat second.toNat))
  | boolean first, boolean second => some (some (Ord.compare first second))
  | integer first, integer second => some (some (Ord.compare first.toInt second.toInt))
  | _, _ =>
    match left.toFloat?, right.toFloat? with
    | some first, some second => some (first.compare? second)
    | _, _ => none

/-- Whether two values are of one kind. -/
def sameKind : Value → Value → Bool
  | unit, unit => true
  | boolean _, boolean _ => true
  | integer _, integer _ => true
  | float _, float _ => true
  | character _, character _ => true
  | string _, string _ => true
  | array _, array _ => true
  | map _, map _ => true
  | metadata _, metadata _ => true
  | range _ _, range _ _ => true
  | _, _ => false

/-- A comparison. Values of different kinds compare as false, and so does nothing with itself;
other kinds without an order cannot be compared. -/
def compared (name : String) (test : Option Ordering → Bool) (left right : Value) :
    Computed Value :=
  match order? left right with
  | some answer => .ok (boolean (test answer))
  | none =>
    match left, right with
    | unit, unit => .ok (boolean false)
    | _, _ =>
      if sameKind left right then noOperation name left right else .ok (boolean false)

/-- An equality or its opposite. -/
def equality (name : String) (expected : Bool) (left right : Value) : Computed Value :=
  match equal? left right with
  | some answer => .ok (boolean (answer = expected))
  | none => noOperation name left right

/-- How many characters a text has, or how many parts an array or a map. -/
def length? : Value → Option Int64
  | string text => some (Int64.ofNat text.length)
  | array items => some (Int64.ofNat items.length)
  | map entries => some (Int64.ofNat entries.length)
  | _ => none

/-- The place that an index means among so many; one below zero counts from the end. -/
def index? (size : Nat) (number : Int64) : Option Nat :=
  let place := if number < 0 then number.toInt + size else number.toInt
  if 0 ≤ place && place < size then some place.toNat else none

/-- A property of a value. A map has nothing under a name it does not hold. -/
def property : Value → String → Computed Value
  | map entries, name => .ok ((entries.lookup name).getD unit)
  | metadata entry, "key" => .ok (string entry.key)
  | metadata entry, "value" => .ok (string entry.value)
  | range first _, "start" => .ok (integer first)
  | range _ last, "end" => .ok (integer last)
  | value, "len" =>
    match value.length? with
    | some size => .ok (integer size)
    | none => .error s!"Unknown property 'len' for {value.typeName}"
  | value, name => .error s!"Unknown property '{name}' for {value.typeName}"

/-- A value with a property put in. -/
def setProperty : Value → String → Value → Computed Value
  | map entries, name, value => .ok (map (insertEntry name value entries))
  | target, name, _ => .error s!"Cannot set property '{name}' of {target.typeName}"

/-- An element of a value. -/
def element : Value → Value → Computed Value
  | map entries, string name => .ok ((entries.lookup name).getD unit)
  | array items, integer number =>
    match (index? items.length number).bind fun place => items[place]? with
    | some item => .ok item
    | none => .error s!"Array index {integerText number} out of bounds"
  | string text, integer number =>
    match (index? text.length number).bind fun place => text.toList[place]? with
    | some letter => .ok (character letter)
    | none => .error s!"String index {integerText number} out of bounds"
  | target, index => .error s!"Cannot index {target.typeName} with {index.typeName}"

/-- A value with an element put in. -/
def setElement : Value → Value → Value → Computed Value
  | map entries, string name, value => .ok (map (insertEntry name value entries))
  | array items, integer number, value =>
    match index? items.length number with
    | some place => .ok (array (items.set place value))
    | none => .error s!"Array index {integerText number} out of bounds"
  | string text, integer number, character letter =>
    match index? text.length number with
    | some place => .ok (string (String.ofList (text.toList.set place letter)))
    | none => .error s!"String index {integerText number} out of bounds"
  | target, index, _ => .error s!"Cannot index {target.typeName} with {index.typeName}"

/-- The items that a loop walks over. -/
def items? : Value → Option (List Value)
  | array items => some items
  | string text => some (text.toList.map character)
  | range first last =>
    some ((List.range (last.toInt - first.toInt).toNat).map fun offset =>
      integer (first + Int64.ofNat offset))
  | _ => none

/-- An array or a text with a value put behind it, or a sum. -/
def extend : Value → Value → Computed Value
  | array items, array others => .ok (array (items ++ others))
  | array items, item => .ok (array (items ++ [item]))
  | target, value => add target value

end Value

/-- What a unary operator computes. -/
def UnaryOperator.apply : UnaryOperator → Value → Computed Value
  | .plus, .integer number => .ok (.integer number)
  | .plus, .float number => .ok (.float number)
  | .minus, .integer number => Value.exactly "-" (Checked.negate? number)
  | .minus, .float number => .ok (.float number.negate)
  | .not, .boolean truth => .ok (.boolean !truth)
  | _, operand => .error s!"Function not found: sign in front of {operand.typeName}"

/-- What a binary operator computes. -/
def BinaryOperator.apply : BinaryOperator → Value → Value → Computed Value
  | .equal => Value.equality "==" true
  | .notEqual => Value.equality "!=" false
  | .less => Value.compared "<" (· = some .lt)
  | .lessEqual => Value.compared "<=" fun order => order = some .lt || order = some .eq
  | .greater => Value.compared ">" (· = some .gt)
  | .greaterEqual => Value.compared ">=" fun order => order = some .gt || order = some .eq
  | .add => Value.add
  | .subtract => Value.compute "-" Checked.subtract? Binary64.subtract
  | .multiply => Value.compute "*" Checked.multiply? Binary64.multiply
  | .divide => Value.compute "/" Checked.divide? Binary64.divide
  | .remainder => Value.compute "%" Checked.remainder? Binary64.remainder
  | .range => fun left right =>
    match left, right with
    | .integer first, .integer last => .ok (.range first last)
    | _, _ => Value.noOperation ".." left right

/-- What an operator makes of the old value of a place. -/
def BinaryOperator.update : BinaryOperator → Value → Value → Computed Value
  | .add => Value.extend
  | other => other.apply

end Stencil.Script
