import Stencil.Value.Basic

/-!
# Hashing values

What a hash function is fed with for a value, piece by piece: its kind, and then what is in it. Of a
map it is only the number of its entries, because the order of the entries does not count.
-/

namespace Stencil

/-- A piece that a hash function is fed with. -/
inductive HashPiece where
  /-- The place of a kind among all kinds of values. -/
  | kind (place : Nat)
  /-- A truth value. -/
  | truth (truth : Bool)
  /-- A signed integer. -/
  | integer (number : Int64)
  /-- The bits of a floating-point number. -/
  | bits (bits : UInt64)
  /-- A text with a mark behind it. -/
  | text (text : String)
  /-- How much follows. -/
  | length (count : Nat)
  /-- Bytes in a row. -/
  | bytes (content : List UInt8)
deriving DecidableEq, Repr

namespace Value

mutual

/-- What a hash function is fed with for a value. -/
def hashPieces : Value → List HashPiece
  | null => [.kind 0]
  | boolean truth => [.kind 1, .truth truth]
  | integer number => [.kind 2, .integer number]
  | float number => [.kind 3, .bits number.bits]
  | string text => [.kind 4, .text text]
  | bytes content => [.kind 5, .length content.length, .bytes content]
  | array items => .kind 6 :: .length items.length :: hashPiecesAll items
  | map entries => [.kind 7, .length entries.length]

/-- What a hash function is fed with for values in a row. -/
def hashPiecesAll : List Value → List HashPiece
  | [] => []
  | item :: rest => hashPieces item ++ hashPiecesAll rest

end

/-- Whether a key is the same as one that is known, where only keys of the same hash are
compared. -/
def meets {Hash : Type} [DecidableEq Hash] (hash : List HashPiece → Hash) (key known : Value) :
    Bool :=
  hash (hashPieces key) == hash (hashPieces known) && same key known

end Value

end Stencil
