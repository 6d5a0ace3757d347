import Stencil.Proofs.Value.Entries
import Stencil.Value.Json

/-!
# Values and the documents they stand for

A JSON document is kept by its value when its integers are signed words, and a value is kept by its
document when it has no bytes, only finite floats and only strings as keys. The main statement is
that between such documents and such values the two conversions are inverse to each other, with the
kind of every number and the order of every object.
-/

namespace Stencil

/-- Whether a value can hold a number of a document: an integer that is a signed word and that is
marked as negative when it is, or a finite float. -/
def JsonNumber.isExact : JsonNumber → Bool
  | natural number => number.toNat < 9223372036854775808
  | negative number => number < 0
  | float number => number.isFinite

namespace Json

mutual

/-- Whether a value can hold a document: every number of it, and objects that hold each name
once. -/
def isExact : Json → Bool
  | null | boolean _ | string _ => true
  | number value => value.isExact
  | array items => itemsExact items
  | object members => decide (members.map Prod.fst).Nodup && membersExact members

/-- Whether values can hold documents in a row. -/
def itemsExact : List Json → Bool
  | [] => true
  | item :: rest => isExact item && itemsExact rest

/-- Whether values can hold the documents of members. -/
def membersExact : List (String × Json) → Bool
  | [] => true
  | (_, member) :: rest => isExact member && membersExact rest

end

/-- A member under a new name comes behind the others. -/
theorem insertMember_of_new {name : String} (member : Json) {members : List (String × Json)}
    (new : ∀ known ∈ members, known.1 ≠ name) :
    insertMember name member members = members ++ [(name, member)] := by
  induction members with
  | nil => rfl
  | cons first rest ih =>
    obtain ⟨known, old⟩ := first
    obtain ⟨here, others⟩ := List.forall_mem_cons.mp new
    rw [insertMember, if_neg (Ne.symm here), ih others, List.cons_append]

/-- Members whose names are apart are all kept when they are added one by one. -/
theorem membersOf_of_nodup {pairs : List (String × Json)}
    (distinct : (pairs.map Prod.fst).Nodup) : membersOf pairs = pairs :=
  foldl_eq_append (fun _ pair new => insertMember_of_new pair.2 new)
    (List.nil_append pairs ▸ List.pairwise_map.mp distinct)

end Json

namespace Value

mutual

/-- Whether JSON can say a value: it has no bytes, its floats are finite, and its keys are strings,
of which none stands twice in a map. -/
def isPlain : Value → Bool
  | null | boolean _ | integer _ | string _ => true
  | float number => number.isFinite
  | bytes _ => false
  | array items => itemsPlain items
  | map entries => decide (DistinctKeys entries) && entriesPlain entries

/-- Whether JSON can say values in a row. -/
def itemsPlain : List Value → Bool
  | [] => true
  | item :: rest => isPlain item && itemsPlain rest

/-- Whether JSON can say entries. -/
def entriesPlain : List (Value × Value) → Bool
  | [] => true
  | (string _, value) :: rest => isPlain value && entriesPlain rest
  | _ :: _ => false

end

/-! ## Integers -/

/-- A natural number that is a signed word is held as that word, from which it comes back. -/
theorem toJson_ofJson_natural {number : UInt64} (fits : number.toNat < 9223372036854775808) :
    ∃ word : Int64, ofJson (.number (.natural number)) = integer word ∧
      toJson (integer word) = .number (.natural number) := by
  have held : (Int64.ofInt number.toNat).toInt = number.toNat :=
    Int64.toInt_ofInt_of_le (by omega) (by omega)
  have nonnegative : ¬Int64.ofInt number.toNat < 0 := by
    rw [Int64.lt_iff_toInt_lt, held]
    simp
  refine ⟨Int64.ofInt number.toNat, ?_, ?_⟩
  · have word := Checked.ofInt?_toInt (Int64.ofInt number.toNat)
    rw [held] at word
    rw [ofJson, word]
  · rw [toJson, if_neg nonnegative, Int64.ofInt_eq_ofNat, Int64.toUInt64_ofNat',
      UInt64.ofNat_toNat]

/-- A signed word that is not negative is the unsigned word of the same number. -/
theorem toNat_toUInt64_of_not_neg {number : Int64} (nonnegative : ¬number < 0) :
    (number.toUInt64.toNat : Int) = number.toInt := by
  have least : 0 ≤ number := Int64.not_lt.mp nonnegative
  have positive : 0 ≤ number.toInt := Int64.le_iff_toInt_le.mp least
  rw [Int64.toNat_toUInt64_of_le least, Int64.toNatClampNeg]
  omega

/-- A signed word comes back from the number it becomes, which it can hold. -/
theorem ofJson_toJson_integer (number : Int64) :
    (toJson (integer number)).isExact = true ∧
      ofJson (toJson (integer number)) = integer number := by
  rw [toJson]
  split
  case isTrue below =>
    refine ⟨?_, by rw [ofJson]⟩
    rw [Json.isExact, JsonNumber.isExact]
    exact decide_eq_true below
  case isFalse nonnegative =>
    have most := number.toInt_lt
    have held := toNat_toUInt64_of_not_neg nonnegative
    refine ⟨?_, ?_⟩
    · rw [Json.isExact, JsonNumber.isExact]
      exact decide_eq_true (by omega)
    · rw [ofJson, held, Checked.ofInt?_toInt]

/-! ## Names and keys -/

/-- The names of members become the keys of entries. -/
theorem ofJsonMembers_eq_map (members : List (String × Json)) :
    ofJsonMembers members = members.map fun member => (string member.1, ofJson member.2) := by
  induction members with
  | nil => rfl
  | cons member rest ih => rw [ofJsonMembers, ih, List.map_cons]

/-- The texts of keys become the names of members. -/
theorem toJsonMembers_eq_map (entries : Entries) :
    toJsonMembers entries = entries.map fun entry => (text entry.1, toJson entry.2) := by
  induction entries with
  | nil => rfl
  | cons entry rest ih => rw [toJsonMembers, ih, List.map_cons]

/-- Names that are apart become keys that are apart. -/
theorem distinctKeys_ofJsonMembers {members : List (String × Json)}
    (distinct : (members.map Prod.fst).Nodup) : DistinctKeys (ofJsonMembers members) := by
  rw [ofJsonMembers_eq_map, DistinctKeys, List.pairwise_map]
  refine (List.pairwise_map.mp distinct).imp fun apart => ?_
  rw [same]
  exact beq_eq_false_iff_ne.mpr (Ne.symm apart)

/-- Keys of entries that JSON can say are strings. -/
theorem exists_string_of_entriesPlain {entries : Entries} (plain : entriesPlain entries = true) :
    ∀ entry ∈ entries, ∃ name, entry.1 = string name := by
  induction entries with
  | nil => exact List.forall_mem_nil _
  | cons entry rest ih =>
    obtain ⟨key, value⟩ := entry
    cases key with
    | string name =>
      rw [entriesPlain, Bool.and_eq_true] at plain
      exact List.forall_mem_cons.mpr ⟨⟨name, rfl⟩, ih plain.2⟩
    | null | boolean | integer | float | bytes | array | map => cases plain

/-- Strings that are apart become names that are apart. -/
theorem nodup_toJsonMembers {entries : Entries} (plain : entriesPlain entries = true)
    (distinct : DistinctKeys entries) : ((toJsonMembers entries).map Prod.fst).Nodup := by
  rw [toJsonMembers_eq_map, List.map_map, List.Nodup, List.pairwise_map]
  refine List.Pairwise.imp_of_mem (fun {first second} here there apart => ?_) distinct
  obtain ⟨name, isName⟩ := exists_string_of_entriesPlain plain first here
  obtain ⟨other, isOther⟩ := exists_string_of_entriesPlain plain second there
  rw [isName, isOther, same] at apart
  simp only [Function.comp_apply, isName, isOther]
  exact Ne.symm (beq_eq_false_iff_ne.mp apart)

/-! ## The conversions -/

mutual

/-- A document that values can hold becomes a value that JSON can say, from which it comes back. -/
theorem toJson_ofJson (document : Json) (fits : document.isExact = true) :
    (ofJson document).isPlain = true ∧ toJson (ofJson document) = document := by
  match document with
  | .null | .boolean truth | .string text => exact ⟨rfl, rfl⟩
  | .number (.natural number) =>
    rw [Json.isExact, JsonNumber.isExact] at fits
    obtain ⟨word, held, back⟩ := toJson_ofJson_natural (of_decide_eq_true fits)
    rw [held]
    exact ⟨rfl, back⟩
  | .number (.negative number) =>
    rw [Json.isExact, JsonNumber.isExact] at fits
    rw [ofJson, toJson, if_pos (of_decide_eq_true fits)]
    exact ⟨rfl, rfl⟩
  | .number (.float number) =>
    rw [Json.isExact, JsonNumber.isExact] at fits
    rw [ofJson, isPlain, toJson, if_pos fits]
    exact ⟨fits, rfl⟩
  | .array items =>
    rw [Json.isExact] at fits
    obtain ⟨plain, back⟩ := toJsonItems_ofJsonItems items fits
    rw [ofJson, isPlain, toJson, back]
    exact ⟨plain, rfl⟩
  | .object members =>
    rw [Json.isExact, Bool.and_eq_true, decide_eq_true_iff] at fits
    obtain ⟨plain, back⟩ := toJsonMembers_ofJsonMembers members fits.2
    have distinct := distinctKeys_ofJsonMembers fits.1
    rw [ofJson, entriesOf_of_distinctKeys distinct, isPlain, toJson, back,
      Json.membersOf_of_nodup fits.1, Bool.and_eq_true, decide_eq_true_iff]
    exact ⟨⟨distinct, plain⟩, rfl⟩

/-- Documents in a row come back from the values they become. -/
theorem toJsonItems_ofJsonItems (items : List Json) (fits : Json.itemsExact items = true) :
    itemsPlain (ofJsonItems items) = true ∧ toJsonItems (ofJsonItems items) = items := by
  match items with
  | [] => exact ⟨rfl, rfl⟩
  | item :: rest =>
    rw [Json.itemsExact, Bool.and_eq_true] at fits
    obtain ⟨plain, back⟩ := toJson_ofJson item fits.1
    obtain ⟨othersPlain, othersBack⟩ := toJsonItems_ofJsonItems rest fits.2
    rw [ofJsonItems, itemsPlain, plain, othersPlain, toJsonItems, back, othersBack]
    exact ⟨rfl, rfl⟩

/-- Members come back from the entries they become. -/
theorem toJsonMembers_ofJsonMembers (members : List (String × Json))
    (fits : Json.membersExact members = true) :
    entriesPlain (ofJsonMembers members) = true ∧
      toJsonMembers (ofJsonMembers members) = members := by
  match members with
  | [] => exact ⟨rfl, rfl⟩
  | (name, member) :: rest =>
    rw [Json.membersExact, Bool.and_eq_true] at fits
    obtain ⟨plain, back⟩ := toJson_ofJson member fits.1
    obtain ⟨othersPlain, othersBack⟩ := toJsonMembers_ofJsonMembers rest fits.2
    rw [ofJsonMembers, entriesPlain, plain, othersPlain, toJsonMembers, back, othersBack]
    exact ⟨rfl, rfl⟩

end

mutual

/-- A value that JSON can say becomes a document that values can hold, from which it comes back. -/
theorem ofJson_toJson (value : Value) (plain : value.isPlain = true) :
    (toJson value).isExact = true ∧ ofJson (toJson value) = value := by
  match value with
  | .null | .boolean truth | .string text => exact ⟨rfl, rfl⟩
  | .integer number => exact ofJson_toJson_integer number
  | .float number =>
    rw [isPlain] at plain
    rw [toJson, if_pos plain, Json.isExact, JsonNumber.isExact, ofJson]
    exact ⟨plain, rfl⟩
  | .bytes content => cases plain
  | .array items =>
    rw [isPlain] at plain
    obtain ⟨fits, back⟩ := ofJsonItems_toJsonItems items plain
    rw [toJson, Json.isExact, ofJson, back]
    exact ⟨fits, rfl⟩
  | .map entries =>
    rw [isPlain, Bool.and_eq_true, decide_eq_true_iff] at plain
    obtain ⟨fits, back⟩ := ofJsonMembers_toJsonMembers entries plain.2
    have distinct := nodup_toJsonMembers plain.2 plain.1
    rw [toJson, Json.membersOf_of_nodup distinct, Json.isExact, ofJson, back,
      entriesOf_of_distinctKeys plain.1, Bool.and_eq_true, decide_eq_true_iff]
    exact ⟨⟨distinct, fits⟩, rfl⟩

/-- Values in a row come back from the documents they become. -/
theorem ofJsonItems_toJsonItems (items : List Value) (plain : itemsPlain items = true) :
    Json.itemsExact (toJsonItems items) = true ∧ ofJsonItems (toJsonItems items) = items := by
  match items with
  | [] => exact ⟨rfl, rfl⟩
  | item :: rest =>
    rw [itemsPlain, Bool.and_eq_true] at plain
    obtain ⟨fits, back⟩ := ofJson_toJson item plain.1
    obtain ⟨othersFit, othersBack⟩ := ofJsonItems_toJsonItems rest plain.2
    rw [toJsonItems, Json.itemsExact, fits, othersFit, ofJsonItems, back, othersBack]
    exact ⟨rfl, rfl⟩

/-- Entries come back from the members they become. -/
theorem ofJsonMembers_toJsonMembers (entries : List (Value × Value))
    (plain : entriesPlain entries = true) :
    Json.membersExact (toJsonMembers entries) = true ∧
      ofJsonMembers (toJsonMembers entries) = entries := by
  match entries with
  | [] => exact ⟨rfl, rfl⟩
  | (.string name, value) :: rest =>
    rw [entriesPlain, Bool.and_eq_true] at plain
    obtain ⟨fits, back⟩ := ofJson_toJson value plain.1
    obtain ⟨othersFit, othersBack⟩ := ofJsonMembers_toJsonMembers rest plain.2
    rw [toJsonMembers, Json.membersExact, fits, othersFit, ofJsonMembers, back, othersBack]
    exact ⟨rfl, rfl⟩

end

/-- Values and JSON documents are converted into each other without a loss. A document whose
integers are signed words becomes a value that JSON can say, and comes back from it as it was: with
the order of its objects, and every number in its kind. And a value that JSON can say becomes such a
document, and comes back from it with the bits of its floats and the order of its maps. -/
theorem conversions_inverse :
    (∀ document : Json, document.isExact = true →
      (ofJson document).isPlain = true ∧ toJson (ofJson document) = document) ∧
    ∀ value : Value, value.isPlain = true →
      (toJson value).isExact = true ∧ ofJson (toJson value) = value :=
  ⟨toJson_ofJson, ofJson_toJson⟩

/-- The largest and the least integer, a zero with a sign, a whole float, and names that are not in
the order of the alphabet. -/
theorem conversions_inverse_sample :
    let document : Json := .object [("z", .array [.number (.natural 9223372036854775807),
      .number (.negative (-9223372036854775808)), .number (.float ⟨0x8000000000000000⟩)]),
      ("a", .object [("", .null), ("1", .number (.float ⟨0x3ff0000000000000⟩))])]
    let value : Value := .map [(.string "z", .array [.integer 9223372036854775807,
      .integer (-9223372036854775808), .float ⟨0x8000000000000000⟩]),
      (.string "a", .map [(.string "", .null), (.string "1", .float ⟨0x3ff0000000000000⟩)])]
    (document.isExact = true ∧ ofJson document = value ∧ toJson (ofJson document) = document) ∧
      value.isPlain = true ∧ toJson value = document ∧ ofJson (toJson value) = value := by
  intro document value
  have fits : document.isExact = true := by decide
  have plain : value.isPlain = true := by decide
  exact ⟨⟨fits, rfl, (conversions_inverse.1 document fits).2⟩, plain, rfl,
    (conversions_inverse.2 value plain).2⟩

end Value

end Stencil
