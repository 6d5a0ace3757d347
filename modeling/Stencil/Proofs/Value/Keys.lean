import Mathlib.Data.List.Find
import Stencil.Value.Hash
import Stencil.Proofs.Value.Entries
import Stencil.Proofs.Value.Rearrangement

/-!
# Values as keys

In a well-formed value no map has a key twice, at any depth, in keys as well as in values. Among
well-formed values, those are the same that are rearrangements of each other: a comparison of two
maps only looks for the entries of the first one in the second, and since the keys of the first one
are apart, they meet all keys of the second. So sameness is an equivalence, the same values have the
same hash, and maps stay well-formed whatever is put into them.
-/

namespace Stencil

/-- When no two items pass a test, it finds the one that does. -/
theorem find?_eq_some_of_alone {α : Type} {passes : α → Bool} {items : List α} {item : α}
    (member : item ∈ items) (holds : passes item = true)
    (alone : items.Pairwise fun first second => ¬(passes first = true ∧ passes second = true)) :
    items.find? passes = some item := by
  induction items with
  | nil => cases member
  | cons first others ih =>
    obtain ⟨here, rest⟩ := List.pairwise_cons.mp alone
    rcases List.mem_cons.mp member with rfl | later
    · exact List.find?_cons_of_pos holds
    · rw [List.find?_cons_of_neg fun first => here item later ⟨first, holds⟩]
      exact ih later rest

namespace Value

/-! ## Well-formed values -/

mutual

/-- Whether no map in a value has a key twice, at any depth. -/
def isWellFormed : Value → Bool
  | array items => itemsWellFormed items
  | map entries => decide (DistinctKeys entries) && entriesWellFormed entries
  | _ => true

/-- Whether no map in values in a row has a key twice. -/
def itemsWellFormed : List Value → Bool
  | [] => true
  | item :: rest => isWellFormed item && itemsWellFormed rest

/-- Whether no map in the keys and values of entries has a key twice. -/
def entriesWellFormed : List (Value × Value) → Bool
  | [] => true
  | (key, value) :: rest => (isWellFormed key && isWellFormed value) && entriesWellFormed rest

end

/-- Values in a row are well-formed one by one. -/
theorem itemsWellFormed_iff {items : List Value} :
    itemsWellFormed items = true ↔ ∀ item ∈ items, item.isWellFormed = true := by
  induction items with
  | nil => simp [itemsWellFormed]
  | cons item rest ih => simp [itemsWellFormed, ih]

/-- Entries are well-formed one by one. -/
theorem entriesWellFormed_iff {entries : Entries} : entriesWellFormed entries = true ↔
    ∀ entry ∈ entries, entry.1.isWellFormed = true ∧ entry.2.isWellFormed = true := by
  induction entries with
  | nil => simp [entriesWellFormed]
  | cons entry rest ih => simp only [entriesWellFormed, Bool.and_eq_true, ih, List.forall_mem_cons]

/-- An array is well-formed when its items are. -/
theorem isWellFormed_array_iff {items : List Value} :
    (array items).isWellFormed = true ↔ ∀ item ∈ items, item.isWellFormed = true := by
  rw [isWellFormed, itemsWellFormed_iff]

/-- A map is well-formed when its keys are apart and it has well-formed keys and values. -/
theorem isWellFormed_map_iff {entries : Entries} : (map entries).isWellFormed = true ↔
    DistinctKeys entries ∧
      ∀ entry ∈ entries, entry.1.isWellFormed = true ∧ entry.2.isWellFormed = true := by
  rw [isWellFormed, Bool.and_eq_true, decide_eq_true_iff, entriesWellFormed_iff]

/-! ## The comparison, part by part -/

/-- A value without parts is the same as itself only. -/
theorem same_iff_of_isSimple {left : Value} (simple : left.isSimple = true) (right : Value) :
    same left right = true ↔ left = right := by
  cases left with
  | array items => cases simple
  | map entries => cases simple
  | null | boolean | integer | string | bytes => cases right <;> simp [same]
  | float number =>
    obtain ⟨bits⟩ := number
    rcases right with _ | _ | _ | ⟨⟨others⟩⟩ | _ | _ | _ | _ <;> simp [same]

/-- Rows are the same when the values at the same places are. -/
theorem sameItems_iff {lefts rights : List Value} : sameItems lefts rights = true ↔
    List.Forall₂ (fun left right => same left right = true) lefts rights := by
  induction lefts generalizing rights with
  | nil => cases rights <;> simp [sameItems]
  | cons left lefts ih => cases rights <;> simp [sameItems, ih]

/-- Entries have their keys in another map when each of them finds its key there, with the same
value. -/
theorem sameEntries_iff {lefts rights : Entries} : sameEntries lefts rights = true ↔
    ∀ left ∈ lefts, ∃ right, rights.find? (fun other => same left.1 other.1) = some right ∧
      same left.2 right.2 = true := by
  induction lefts with
  | nil => simp [sameEntries]
  | cons left lefts ih =>
    obtain ⟨key, value⟩ := left
    rw [sameEntries, Bool.and_eq_true, ih, List.forall_mem_cons]
    refine and_congr_left fun _ => ?_
    cases rights.find? fun other => same key other.1 <;> simp

/-! ## Sameness and rearrangement -/

section

variable {lefts rights : Entries}

/-- Where sameness of keys is rearrangement, no two keys that are apart are rearrangements of one
value. -/
theorem apart_of_distinctKeys {entries : Entries} (distinct : DistinctKeys entries)
    (agree : ∀ first ∈ entries, ∀ second ∈ entries,
      (same first.1 second.1 = true ↔ Rearranged first.1 second.1)) :
    entries.Pairwise fun first second =>
      ∀ key, ¬(Rearranged first.1 key ∧ Rearranged second.1 key) := by
  refine List.Pairwise.imp_of_mem (fun {first second} here there apart key both => ?_) distinct
  have met := (agree second there first here).mpr (both.2.trans both.1.symm)
  exact absurd met (Bool.eq_false_iff.mp apart)

/-- Where sameness of the parts of two maps is rearrangement, so is that of the maps, if the keys of
each are apart. -/
theorem same_map_iff_rearranged (distinct : DistinctKeys lefts) (distinctToo : DistinctKeys rights)
    (keys : ∀ first ∈ lefts ++ rights, ∀ second ∈ lefts ++ rights,
      (same first.1 second.1 = true ↔ Rearranged first.1 second.1))
    (values : ∀ left ∈ lefts, ∀ right ∈ rights,
      (same left.2 right.2 = true ↔ Rearranged left.2 right.2)) :
    same (map lefts) (map rights) = true ↔ Rearranged (map lefts) (map rights) := by
  have inLefts : ∀ left ∈ lefts, left ∈ lefts ++ rights := fun _ => List.mem_append_left rights
  have inRights : ∀ right ∈ rights, right ∈ lefts ++ rights := fun _ => List.mem_append_right lefts
  have leftsApart := apart_of_distinctKeys distinct fun first here second there =>
    keys first (inLefts first here) second (inLefts second there)
  have rightsApart := apart_of_distinctKeys distinctToo fun first here second there =>
    keys first (inRights first here) second (inRights second there)
  rw [same, Bool.and_eq_true, beq_iff_eq, sameEntries_iff, rearranged_map_iff]
  constructor
  · rintro ⟨lengths, found⟩
    have each : ∀ left ∈ lefts, ∃ right ∈ rights, EntryRearranged left right := by
      intro left member
      obtain ⟨right, first, content⟩ := found left member
      have inside := List.mem_of_find?_eq_some first
      have met := List.find?_some first
      exact ⟨right, inside, (keys left (inLefts left member) right (inRights right inside)).mp met,
        (values left member right inside).mp content⟩
    have alone : lefts.Pairwise fun first second =>
        ∀ right, ¬(EntryRearranged first right ∧ EntryRearranged second right) :=
      leftsApart.imp fun apart right both => apart right.1 ⟨both.1.1, both.2.1⟩
    obtain ⟨reordered, perm, all⟩ := exists_perm_forall₂ each alone lengths
    exact ⟨rights, reordered, rfl, perm, all⟩
  · rintro ⟨_, reordered, ⟨⟩, perm, all⟩
    refine ⟨all.length_eq.trans perm.length_eq, fun left member => ?_⟩
    obtain ⟨right, inside, key, value⟩ := exists_of_forall₂ all member
    have inside := perm.mem_iff.mp inside
    have met := fun other there =>
      keys left (inLefts left member) other (inRights other there)
    have alone : rights.Pairwise fun first second =>
        ¬(same left.1 first.1 = true ∧ same left.1 second.1 = true) :=
      List.Pairwise.imp_of_mem (fun {first second} here there apart both =>
        apart left.1 ⟨((met first here).mp both.1).symm, ((met second there).mp both.2).symm⟩)
        rightsApart
    exact ⟨right, find?_eq_some_of_alone inside ((met right inside).mpr key) alone,
      (values left member right inside).mpr value⟩

end

/-- The key and the value of an entry are smaller than the entries. -/
theorem sizeOf_lt_of_mem_entries {entries : Entries} {entry : Value × Value}
    (member : entry ∈ entries) :
    sizeOf entry.1 < sizeOf entries ∧ sizeOf entry.2 < sizeOf entries := by
  have smaller := List.sizeOf_lt_of_mem member
  obtain ⟨key, value⟩ := entry
  rw [Prod.mk.sizeOf_spec] at smaller
  constructor <;> dsimp only <;> omega

/-- Among well-formed values of a bounded size, those are the same that are rearrangements of each
other. -/
theorem same_iff_rearranged_of_lt {bound : Nat} : ∀ {left right : Value},
    sizeOf left < bound → sizeOf right < bound → left.isWellFormed = true →
    right.isWellFormed = true → (same left right = true ↔ Rearranged left right) := by
  -- The induction is on the size, because keys of one map are compared with each other.
  induction bound with
  | zero => exact fun small => absurd small (Nat.not_lt_zero _)
  | succ bound ih =>
    intro left right small smallToo formed formedToo
    cases left with
    | null | boolean | integer | float | string | bytes =>
      rw [same_iff_of_isSimple rfl, rearranged_of_isSimple rfl]
    | array lefts =>
      cases right with
      | null | boolean | integer | float | string | bytes | map => simp [same, Rearranged]
      | array rights =>
        rw [isWellFormed_array_iff] at formed formedToo
        rw [array.sizeOf_spec] at small smallToo
        rw [same, sameItems_iff, Rearranged, itemsRearranged_iff]
        refine forall₂_congr_of_mem fun left here right there => ?_
        have less := List.sizeOf_lt_of_mem here
        have lessToo := List.sizeOf_lt_of_mem there
        exact ih (by omega) (by omega) (formed left here) (formedToo right there)
    | map lefts =>
      cases right with
      | null | boolean | integer | float | string | bytes | array => simp [same, Rearranged]
      | map rights =>
        obtain ⟨distinct, parts⟩ := isWellFormed_map_iff.mp formed
        obtain ⟨distinctToo, partsToo⟩ := isWellFormed_map_iff.mp formedToo
        rw [map.sizeOf_spec] at small smallToo
        have formedAll := List.forall_mem_append.mpr ⟨parts, partsToo⟩
        have smallAll : ∀ entry ∈ lefts ++ rights,
            sizeOf entry.1 < bound ∧ sizeOf entry.2 < bound :=
          List.forall_mem_append.mpr
            ⟨fun _ here => (sizeOf_lt_of_mem_entries here).imp (by omega) (by omega),
              fun _ there => (sizeOf_lt_of_mem_entries there).imp (by omega) (by omega)⟩
        refine same_map_iff_rearranged distinct distinctToo ?keys ?values
        case keys =>
          intro first here second there
          exact ih (smallAll first here).1 (smallAll second there).1 (formedAll first here).1
            (formedAll second there).1
        case values =>
          intro left here right there
          have here := List.mem_append_left rights here
          have there := List.mem_append_right lefts there
          exact ih (smallAll left here).2 (smallAll right there).2 (formedAll left here).2
            (formedAll right there).2

/-- Among well-formed values, those are the same that are rearrangements of each other. -/
theorem same_iff_rearranged {left right : Value} (formed : left.isWellFormed = true)
    (formedToo : right.isWellFormed = true) : same left right = true ↔ Rearranged left right :=
  same_iff_rearranged_of_lt (Nat.lt_succ_of_le (Nat.le_max_left (sizeOf left) (sizeOf right)))
    (Nat.lt_succ_of_le (Nat.le_max_right (sizeOf left) (sizeOf right))) formed formedToo

/-! ## Sameness as an equivalence -/

/-- A value in which no map has a key twice. -/
abbrev WellFormed := {value : Value // value.isWellFormed = true}

/-- On well-formed values, sameness is an equivalence. -/
theorem same_equivalence :
    Equivalence fun left right : WellFormed => same left.1 right.1 = true where
  refl value := (same_iff_rearranged value.2 value.2).mpr (.refl value.1)
  symm {left right} met :=
    (same_iff_rearranged right.2 left.2).mpr ((same_iff_rearranged left.2 right.2).mp met).symm
  trans {left middle right} first second :=
    (same_iff_rearranged left.2 right.2).mpr <|
      ((same_iff_rearranged left.2 middle.2).mp first).trans
        ((same_iff_rearranged middle.2 right.2).mp second)

/-- Values that are the same are the same as the same values. -/
theorem same_congr {left right : WellFormed} (met : same left.1 right.1 = true)
    (other : WellFormed) : same left.1 other.1 = same right.1 other.1 :=
  Bool.eq_iff_iff.mpr
    ⟨same_equivalence.trans (same_equivalence.symm met), same_equivalence.trans met⟩

/-! ## Hashes -/

/-- Values in a row feed a hash function alike when they do so one by one. -/
theorem hashPiecesAll_congr {lefts rights : List Value}
    (alike : List.Forall₂ (fun left right => hashPieces left = hashPieces right) lefts rights) :
    hashPiecesAll lefts = hashPiecesAll rights := by
  induction alike with
  | nil => rfl
  | cons here _ ih => rw [hashPiecesAll, hashPiecesAll, here, ih]

/-- Rearranged values feed a hash function alike. -/
theorem Rearranged.hashPieces_eq {left right : Value} (rearranged : Rearranged left right) :
    hashPieces left = hashPieces right := by
  induction left using Value.induction generalizing right with
  | simple left simple => rw [(rearranged_of_isSimple simple right).mp rearranged]
  | array lefts each =>
    obtain ⟨rights, rfl, all⟩ := rearranged_array_iff.mp rearranged
    have alike := hashPiecesAll_congr
      (forall₂_imp_of_mem (fun left member _ => each left member) all)
    rw [hashPieces, hashPieces, all.length_eq, alike]
  | map lefts each =>
    obtain ⟨rights, reordered, rfl, perm, all⟩ := rearranged_map_iff.mp rearranged
    rw [hashPieces, hashPieces, all.length_eq, perm.length_eq]

/-- The same values feed a hash function alike. -/
theorem hashPieces_congr {left right : WellFormed} (met : same left.1 right.1 = true) :
    hashPieces left.1 = hashPieces right.1 :=
  ((same_iff_rearranged left.2 right.2).mp met).hashPieces_eq

/-- Comparing keys of the same hash only misses no key. -/
theorem meets_eq_same {Hash : Type} [DecidableEq Hash] (hash : List HashPiece → Hash)
    (key known : WellFormed) : meets hash key.1 known.1 = same key.1 known.1 := by
  rw [meets, Bool.and_eq_right_iff_imp]
  exact fun met => beq_iff_eq.mpr (congrArg hash (hashPieces_congr met))

/-! ## Maps -/

/-- The same keys find the same entry. -/
theorem lookup?_congr {left right : WellFormed} (met : same left.1 right.1 = true)
    {entries : Entries} (formed : (map entries).isWellFormed = true) :
    lookup? left.1 entries = lookup? right.1 entries := by
  have alike : ∀ entry ∈ entries, same left.1 entry.1 = same right.1 entry.1 :=
    fun entry member =>
      same_congr met ⟨entry.1, ((isWellFormed_map_iff.mp formed).2 entry member).1⟩
  rw [lookup?, lookup?, List.find?_congr alike]

/-- A key with parts only reaches an entry of a map, by itself. -/
theorem get?_of_not_isSimple {key : Value} (composite : ¬key.isSimple = true) (whole : Value) :
    get? whole key = match whole with
      | map entries => lookup? key entries
      | _ => none := by
  cases key with
  | null | boolean | integer | float | string | bytes => exact absurd rfl composite
  | array | map =>
    cases whole with
    | null | boolean | integer | float | string | bytes | array => simp only [get?]
    | map entries =>
      dsimp only [get?]
      split <;> simp_all

/-- The same keys reach the same part of a value. -/
theorem get?_congr {left right : WellFormed} (met : same left.1 right.1 = true)
    (whole : WellFormed) : get? whole.1 left.1 = get? whole.1 right.1 := by
  by_cases simple : left.1.isSimple = true
  · rw [(same_iff_of_isSimple simple right.1).mp met]
  by_cases simpleToo : right.1.isSimple = true
  · rw [(same_iff_of_isSimple simpleToo left.1).mp (same_equivalence.symm met)]
  rw [get?_of_not_isSimple simple, get?_of_not_isSimple simpleToo]
  obtain ⟨whole, formed⟩ := whole
  cases whole with
  | null | boolean | integer | float | string | bytes | array => rfl
  | map entries => exact lookup?_congr met formed

/-- A well-formed map stays so when a well-formed value is put under a well-formed key. -/
theorem isWellFormed_insert {entries : Entries} (formed : (map entries).isWellFormed = true)
    (key value : WellFormed) : (map (insert key.1 value.1 entries)).isWellFormed = true := by
  obtain ⟨distinct, parts⟩ := isWellFormed_map_iff.mp formed
  refine isWellFormed_map_iff.mpr ⟨distinct.insert key.1 value.1, fun entry member => ?_⟩
  rcases mem_insert member with kept | ⟨content, new | ⟨old, inside⟩⟩
  · exact parts entry kept
  · exact ⟨new ▸ key.2, content ▸ value.2⟩
  · exact ⟨(parts (entry.1, old) inside).1, content ▸ value.2⟩

/-- Entries with well-formed values put under well-formed keys, one after the other. -/
def insertAll (pairs : List (WellFormed × WellFormed)) (entries : Entries) : Entries :=
  pairs.foldl (fun entries pair => insert pair.1.1 pair.2.1 entries) entries

/-- A well-formed map stays so whatever is put into it. -/
theorem isWellFormed_insertAll (pairs : List (WellFormed × WellFormed)) {entries : Entries}
    (formed : (map entries).isWellFormed = true) :
    (map (insertAll pairs entries)).isWellFormed = true := by
  induction pairs generalizing entries with
  | nil => exact formed
  | cons pair rest ih => exact ih (isWellFormed_insert formed pair.1 pair.2)

/-- No two keys of a well-formed map are the same, whichever is asked for first. -/
theorem pairwise_same_eq_false {entries : Entries} (formed : (map entries).isWellFormed = true) :
    entries.Pairwise fun first second =>
      same first.1 second.1 = false ∧ same second.1 first.1 = false := by
  obtain ⟨distinct, parts⟩ := isWellFormed_map_iff.mp formed
  refine List.Pairwise.imp_of_mem (fun {first second} here there apart => ⟨?_, apart⟩) distinct
  rw [Bool.eq_false_iff] at apart ⊢
  exact fun met => apart <| same_equivalence.symm (x := ⟨first.1, (parts first here).1⟩)
    (y := ⟨second.1, (parts second there).1⟩) met

/-- Values are fit for keys. Sameness is an equivalence that overlooks the order of the entries of
maps, at every depth, and nothing else. The same values have the same hash, so that nothing is
missed when only keys of the same hash are compared, and they reach the same parts. A map holds no
two keys that are the same, whatever was put into it. -/
theorem same_fits_keys :
    (Equivalence fun left right : WellFormed => same left.1 right.1 = true) ∧
    (∀ left right : WellFormed,
      (same left.1 right.1 = true ↔ Rearranged left.1 right.1) ∧
      (∀ {Hash : Type} [DecidableEq Hash] (hash : List HashPiece → Hash),
        meets hash left.1 right.1 = same left.1 right.1) ∧
      (same left.1 right.1 = true →
        hashPieces left.1 = hashPieces right.1 ∧
        (∀ whole : WellFormed, get? whole.1 left.1 = get? whole.1 right.1) ∧
        ∀ entries : Entries, (map entries).isWellFormed = true →
          lookup? left.1 entries = lookup? right.1 entries)) ∧
    (∀ (pairs : List (WellFormed × WellFormed)) (entries : Entries),
      (map entries).isWellFormed = true →
      (map (insertAll pairs entries)).isWellFormed = true ∧
      (insertAll pairs entries).Pairwise fun first second =>
        same first.1 second.1 = false ∧ same second.1 first.1 = false) := by
  refine ⟨same_equivalence, fun left right => ⟨same_iff_rearranged left.2 right.2,
    fun hash => meets_eq_same hash left right, fun met => ?_⟩, fun pairs entries formed => ?_⟩
  · exact ⟨hashPieces_congr met, get?_congr met, fun entries formed => lookup?_congr met formed⟩
  · have after := isWellFormed_insertAll pairs formed
    exact ⟨after, pairwise_same_eq_false after⟩

/-- A map with a map as a key, one of whose keys is not a number, and the same with everything in
another order: they are the same, reach the same part, and make one key when both are put in. -/
theorem same_fits_keys_sample :
    let nan := float ⟨0x7ff8000000000000⟩
    let inner : Entries := [(nan, null), (string "name", boolean true)]
    let turned : Entries := [(string "name", boolean true), (nan, null)]
    let left := map [(map inner, integer 1), (string "other", array [])]
    let right := map [(string "other", array []), (map turned, integer 1)]
    let whole := map [(right, string "found")]
    same left right = true ∧ Rearranged left right ∧ hashPieces left = hashPieces right ∧
      get? whole left = get? whole right ∧ get? whole left = some (string "found") ∧
      ∃ formed formedToo,
        (insertAll [(⟨left, formed⟩, ⟨null, rfl⟩), (⟨right, formedToo⟩, ⟨null, rfl⟩)] []).Pairwise
          fun first second => same first.1 second.1 = false ∧ same second.1 first.1 = false := by
  intro nan inner turned left right whole
  have formed : left.isWellFormed = true := by decide +kernel
  have formedToo : right.isWellFormed = true := by decide +kernel
  have met : same left right = true := by decide +kernel
  obtain ⟨-, fits, unmixed⟩ := same_fits_keys
  obtain ⟨rearranged, -, alike⟩ := fits ⟨left, formed⟩ ⟨right, formedToo⟩
  obtain ⟨hashed, reached, -⟩ := alike met
  exact ⟨met, rearranged.mp met, hashed, reached ⟨whole, by decide +kernel⟩, by rfl, formed,
    formedToo, (unmixed _ [] (by decide +kernel)).2⟩

end Value

end Stencil
