import Mathlib.Data.List.Induction
import Stencil.Proofs.Value.Json

/-!
# Two ways to a compact text

The compact text of a value is written straight from the value, in which a map says each of its
entries. The document of the value has a compact text as well, and an object of it says each name
once: of entries whose keys have one text only the last value is kept. The main statement is that
the two texts are the same exactly when the keys of every map have texts that are apart.
-/

namespace Stencil

/-! ## The length of texts in brackets -/

/-- The length of texts in a row when a comma stands behind each of them. -/
def spread : List String → Nat
  | [] => 0
  | part :: parts => part.length + 1 + spread parts

/-- Two rows of texts are as long as both together. -/
theorem spread_append (front back : List String) :
    spread (front ++ back) = spread front + spread back := by
  induction front with
  | nil => exact (Nat.zero_add _).symm
  | cons part front ih =>
    rw [List.cons_append, spread, spread, ih]
    exact (Nat.add_assoc _ _ _).symm

/-- There is no comma behind the last one of texts between brackets. -/
theorem Json.length_bracketed (opening closing : String) {parts : List String}
    (some : parts ≠ []) : (Json.bracketed opening closing parts).length + 1 =
      opening.length + spread parts + closing.length := by
  have joined : ∀ (part : String) (rest : List String),
      (String.intercalate "," (part :: rest)).length + 1 = spread (part :: rest) := by
    intro part rest
    induction rest generalizing part with
    | nil => rfl
    | cons next rest ih =>
      have comma : ",".length = 1 := rfl
      rw [String.intercalate_cons_cons, String.length_append, String.length_append, comma,
        spread, ← ih next]
      omega
  obtain ⟨part, rest, rfl⟩ := List.exists_cons_of_ne_nil some
  rw [Json.bracketed, String.length_append, String.length_append, ← joined part rest]
  omega

/-- Two things are the same if it is said so, and the first one measures less than the second one
if not. -/
def SameOrLess {α : Type} (measure : α → Nat) (same : Bool) (first second : α) : Prop :=
  same = true ∧ first = second ∨ same = false ∧ measure first < measure second

namespace SameOrLess

variable {same others : Bool} {first second : String} {front back : List String}

/-- Texts of which one is not shorter are the same. -/
theorem eq_iff (texts : SameOrLess String.length same first second) :
    first = second ↔ same = true := by
  rcases texts with ⟨isSame, equal⟩ | ⟨isNot, shorter⟩
  · exact iff_of_true equal isSame
  · refine iff_of_false (fun equal => ?_) (Bool.eq_false_iff.mp isNot)
    exact Nat.lt_irrefl _ (equal ▸ shorter)

/-- Texts may stand behind one text. -/
theorem behind (texts : SameOrLess String.length same first second) (lead : String) :
    SameOrLess String.length same (lead ++ first) (lead ++ second) := by
  refine texts.imp (And.imp_right (congrArg _)) (And.imp_right fun shorter => ?_)
  rw [String.length_append, String.length_append]
  exact Nat.add_lt_add_left shorter _

/-- Rows of texts are the same when the first ones are and the others are. -/
theorem cons (texts : SameOrLess String.length same first second)
    (rows : SameOrLess spread others front back) :
    SameOrLess spread (same && others) (first :: front) (second :: back) := by
  unfold SameOrLess
  rw [spread, spread]
  rcases texts with ⟨rfl, rfl⟩ | ⟨rfl, shorter⟩ <;> rcases rows with ⟨rfl, rfl⟩ | ⟨rfl, less⟩
  · exact .inl ⟨rfl, rfl⟩
  all_goals exact .inr ⟨rfl, by omega⟩

end SameOrLess

/-- Shorter texts are shorter between the same brackets. -/
theorem Json.length_bracketed_lt (opening closing : String) {front back : List String}
    (some : front ≠ []) (shorter : spread front < spread back) :
    (Json.bracketed opening closing front).length <
      (Json.bracketed opening closing back).length := by
  have other : back ≠ [] := by
    rintro rfl
    exact Nat.not_lt_zero _ shorter
  have first := Json.length_bracketed opening closing some
  have second := Json.length_bracketed opening closing other
  omega

namespace Json

/-! ## Objects say each name once -/

/-- Members are written one by one. -/
theorem compactMembers_eq_map (members : List (String × Json)) :
    compactMembers members =
      members.map fun member => quote member.1 ++ ":" ++ compact member.2 := by
  induction members with
  | nil => rfl
  | cons member rest ih => rw [compactMembers, ih, List.map_cons]

/-- The texts of members behind each other. -/
theorem spread_compactMembers_append (front back : List (String × Json)) :
    spread (compactMembers (front ++ back)) =
      spread (compactMembers front) + spread (compactMembers back) := by
  simp only [compactMembers_eq_map, List.map_append, spread_append]

/-- Adding a member leaves some. -/
theorem insertMember_ne_nil (name : String) (member : Json) (members : List (String × Json)) :
    insertMember name member members ≠ [] := by
  cases members with
  | nil => exact List.cons_ne_nil _ _
  | cons first rest =>
    rw [insertMember]
    split <;> exact List.cons_ne_nil _ _

/-- A member under a known name takes the place of another one, which is said no more. -/
theorem spread_insertMember_lt {name : String} (member : Json) {members : List (String × Json)}
    (known : name ∈ members.map Prod.fst) :
    spread (compactMembers (insertMember name member members)) <
      spread (compactMembers (members ++ [(name, member)])) := by
  rw [spread_compactMembers_append]
  induction members with
  | nil => cases known
  | cons first rest ih =>
    obtain ⟨other, old⟩ := first
    rw [insertMember]
    split
    case isTrue same =>
      simp only [compactMembers, spread, same]
      omega
    case isFalse different =>
      have later := ih ((List.mem_cons.mp known).resolve_left different)
      simp only [compactMembers, spread] at later ⊢
      omega

/-- An added member makes the text longer by no more than its own. -/
theorem spread_insertMember_le (name : String) (member : Json) (members : List (String × Json)) :
    spread (compactMembers (insertMember name member members)) ≤
      spread (compactMembers (members ++ [(name, member)])) := by
  by_cases known : name ∈ members.map Prod.fst
  · exact Nat.le_of_lt (spread_insertMember_lt member known)
  · have new : ∀ other ∈ members, other.1 ≠ name := fun other inside same =>
      known (List.mem_map.mpr ⟨other, inside, same⟩)
    exact Nat.le_of_eq (by rw [insertMember_of_new member new])

/-- Members added one by one are one more insertion when there is one more of them. -/
theorem membersOf_concat (pairs : List (String × Json)) (name : String) (member : Json) :
    membersOf (pairs ++ [(name, member)]) = insertMember name member (membersOf pairs) := by
  rw [membersOf, List.foldl_append, List.foldl_cons, List.foldl_nil, membersOf]

/-- Adding members one by one leaves some. -/
theorem membersOf_ne_nil {pairs : List (String × Json)} (some : pairs ≠ []) :
    membersOf pairs ≠ [] := by
  obtain ⟨front, last, rfl⟩ := (List.eq_nil_or_concat pairs).resolve_left some
  rw [List.concat_eq_append, membersOf_concat]
  exact insertMember_ne_nil _ _ _

/-- Where a name stands twice, the members that are kept have a shorter text. -/
theorem spread_membersOf_lt {pairs : List (String × Json)}
    (twice : ¬(pairs.map Prod.fst).Nodup) :
    spread (compactMembers (membersOf pairs)) < spread (compactMembers pairs) := by
  induction pairs using List.reverseRecOn with
  | nil => exact absurd List.nodup_nil twice
  | append_singleton front last ih =>
    obtain ⟨name, member⟩ := last
    rw [membersOf_concat]
    by_cases distinct : (front.map Prod.fst).Nodup
    · rw [membersOf_of_nodup distinct]
      refine spread_insertMember_lt member (by_contra fun new => twice ?_)
      rw [List.map_append, List.nodup_append]
      refine ⟨distinct, List.pairwise_singleton _ _, fun known inside other single same => new ?_⟩
      obtain rfl : other = name := List.mem_singleton.mp single
      exact same ▸ inside
    · have earlier := ih distinct
      have added := spread_insertMember_le name member (membersOf front)
      rw [spread_compactMembers_append] at added ⊢
      omega

end Json

namespace Value

/-! ## The texts of a value -/

mutual

/-- Whether the keys of every map in a value have texts that are apart. The maps in keys are not
among them: of a key both ways say the text. -/
def namesApart : Value → Bool
  | array items => itemsNamesApart items
  | map entries =>
    decide (entries.map fun entry => text entry.1).Nodup && entriesNamesApart entries
  | _ => true

/-- Whether the keys of every map in values in a row have texts that are apart. -/
def itemsNamesApart : List Value → Bool
  | [] => true
  | item :: rest => namesApart item && itemsNamesApart rest

/-- Whether the keys of every map in the values of entries have texts that are apart. -/
def entriesNamesApart : List (Value × Value) → Bool
  | [] => true
  | (_, value) :: rest => namesApart value && entriesNamesApart rest

end

/-- The number of a document that an integer becomes has the text of the integer. -/
theorem compact_toJson_integer (number : Int64) :
    (toJson (integer number)).compact = compact (integer number) := by
  rw [toJson]
  split
  case isTrue below => rfl
  case isFalse nonnegative =>
    rw [Json.compact, Json.numberText, compact, integerText,
      ← toNat_toUInt64_of_not_neg nonnegative]
    rfl

/-- A float that is not finite is `null` either way. -/
theorem compact_toJson_float (number : Binary64) :
    (toJson (float number)).compact = compact (float number) := by
  rw [toJson, compact]
  split
  case isTrue finite => rfl
  case isFalse infinite => rw [Json.compact, Json.floatText, if_neg infinite]

/-- Bytes are integers in an array either way. -/
theorem compact_toJson_bytes (content : List UInt8) :
    (toJson (bytes content)).compact = compact (bytes content) := by
  have texts : Json.compactItems
      (content.map fun byte => Json.number (.natural (UInt64.ofNat byte.toNat))) =
        content.map fun byte => toString byte.toNat := by
    induction content with
    | nil => rfl
    | cons byte rest ih =>
      have small : (UInt64.ofNat byte.toNat).toNat = byte.toNat :=
        UInt64.toNat_ofNat_of_lt' (Nat.lt_trans byte.toNat_lt (by decide))
      rw [List.map_cons, Json.compactItems, ih, Json.compact, Json.numberText, small,
        List.map_cons]
  rw [toJson, compact, Json.compact, texts]

/-- An entry is written under the text of its key. -/
theorem compactEntries_cons (key value : Value) (rest : Entries) :
    compactEntries ((key, value) :: rest) =
      (Json.quote (text key) ++ ":" ++ compact value) :: compactEntries rest := by
  rw [compactEntries, text]

/-- An object is shorter than the map that it is made of when its members are shorter than the
entries. -/
theorem length_compact_map_lt {entries : Entries}
    (shorter : spread (Json.compactMembers (Json.membersOf (toJsonMembers entries))) <
      spread (compactEntries entries)) :
    (toJson (map entries)).compact.length < (compact (map entries)).length := by
  rw [toJson, Json.compact, compact]
  refine Json.length_bracketed_lt _ _ ?_ shorter
  rw [Json.compactMembers_eq_map, Ne, List.map_eq_nil_iff]
  refine Json.membersOf_ne_nil ?_
  rw [toJsonMembers_eq_map, Ne, List.map_eq_nil_iff]
  rintro rfl
  exact Nat.not_lt_zero _ shorter

mutual

/-- The document of a value has the text of the value where the texts of keys are apart, and a
shorter one elsewhere. -/
theorem compact_toJson (value : Value) :
    SameOrLess String.length value.namesApart (toJson value).compact (compact value) := by
  match value with
  | null => exact .inl ⟨rfl, rfl⟩
  | boolean truth => exact .inl ⟨rfl, rfl⟩
  | string content => exact .inl ⟨rfl, rfl⟩
  | integer number => exact .inl ⟨rfl, compact_toJson_integer number⟩
  | float number => exact .inl ⟨rfl, compact_toJson_float number⟩
  | bytes content => exact .inl ⟨rfl, compact_toJson_bytes content⟩
  | array items =>
    rw [namesApart, toJson, Json.compact, compact]
    rcases compactItems_toJsonItems items with ⟨apart, same⟩ | ⟨mixed, shorter⟩
    · exact .inl ⟨apart, congrArg _ same⟩
    · refine .inr ⟨mixed, Json.length_bracketed_lt _ _ ?_ shorter⟩
      cases items with
      | nil => cases mixed
      | cons item rest => exact List.cons_ne_nil _ _
  | map entries =>
    have names : (toJsonMembers entries).map Prod.fst = entries.map fun entry => text entry.1 := by
      rw [toJsonMembers_eq_map, List.map_map]
      rfl
    have members := compactMembers_toJsonMembers entries
    rw [namesApart, ← names]
    by_cases distinct : ((toJsonMembers entries).map Prod.fst).Nodup
    · have kept := Json.membersOf_of_nodup distinct
      rw [decide_eq_true distinct, Bool.true_and]
      rcases members with ⟨apart, same⟩ | ⟨mixed, shorter⟩
      · exact .inl ⟨apart, by rw [toJson, Json.compact, compact, kept, same]⟩
      · exact .inr ⟨mixed, length_compact_map_lt (by rwa [kept])⟩
    · have fewer := Json.spread_membersOf_lt distinct
      rw [decide_eq_false distinct, Bool.false_and]
      refine .inr ⟨rfl, length_compact_map_lt (Nat.lt_of_lt_of_le fewer ?_)⟩
      rcases members with ⟨-, same⟩ | ⟨-, shorter⟩
      · exact Nat.le_of_eq (congrArg spread same)
      · exact Nat.le_of_lt shorter

/-- The documents of values in a row have the texts of the values where the texts of keys are apart,
and shorter ones elsewhere. -/
theorem compactItems_toJsonItems (items : List Value) :
    SameOrLess spread (itemsNamesApart items) (Json.compactItems (toJsonItems items))
      (compactItems items) := by
  match items with
  | [] => exact .inl ⟨rfl, rfl⟩
  | item :: rest => exact (compact_toJson item).cons (compactItems_toJsonItems rest)

/-- The members that entries become have the texts of the entries where the texts of keys in their
values are apart, and shorter ones elsewhere. -/
theorem compactMembers_toJsonMembers (entries : List (Value × Value)) :
    SameOrLess spread (entriesNamesApart entries) (Json.compactMembers (toJsonMembers entries))
      (compactEntries entries) := by
  match entries with
  | [] => exact .inl ⟨rfl, rfl⟩
  | (key, value) :: rest =>
    rw [compactEntries_cons]
    exact ((compact_toJson value).behind _).cons (compactMembers_toJsonMembers rest)

end

/-- The two ways to export a value agree: the text that is written straight from a value is the
compact text of its document, exactly when in every map in it no two keys have one text. The text
is what a container becomes in an output. -/
theorem compact_toJson_eq_iff (value : Value) :
    ((toJson value).compact = compact value ↔ value.namesApart = true) ∧
      (value.plainText? = none → value.namesApart = true →
        value.text = (toJson value).compact) := by
  have agree := (compact_toJson value).eq_iff
  refine ⟨agree, fun container apart => ?_⟩
  rw [agree.mpr apart, text, container]

/-- Maps, bytes, an array and a float as keys, an infinite and a negative float, bytes and a
negative integer as values, and names that are not in the order of the alphabet. -/
theorem compact_toJson_eq_iff_sample :
    let value : Value := .map [
      (.map [(.string "z", .bytes [0, 255]), (.integer 1, .null)], .array [.integer (-7)]),
      (.array [.boolean true, .string "q\""], .float ⟨0x7ff0000000000000⟩),
      (.float ⟨0x7ff8000000000000⟩, .bytes [1]), (.bytes [], .map [(.string "b", .string "\n"),
        (.string "a", .float ⟨0xbff8000000000000⟩)])]
    let mixed : Value := .map [(.integer 1, .null), (.string "1", .null)]
    (value.plainText? = none ∧ value.namesApart = true) ∧
      value.text = (toJson value).compact ∧ mixed.namesApart = false ∧
      (toJson mixed).compact ≠ compact mixed := by
  intro value mixed
  have container : value.plainText? = none := rfl
  have apart : value.namesApart = true := by decide +kernel
  have collapsed : mixed.namesApart = false := by decide +kernel
  refine ⟨⟨container, apart⟩, (compact_toJson_eq_iff value).2 container apart, collapsed, ?_⟩
  rw [Ne, (compact_toJson_eq_iff mixed).1, collapsed]
  exact Bool.false_ne_true

end Value

end Stencil
