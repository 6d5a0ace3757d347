import Stencil.Proofs.Evaluation.Concatenation

/-!
# Slicing

A part of a string or of an array is found by computing with words. The main statement is that this
never shows: the bounds are those that natural numbers give, no sum of them is cut off, and the part
is what is left when some elements are dropped and so many are taken. Its size follows, and so does
that the parts in front of some bounds, between them and behind them are the whole row.
-/

namespace Stencil

namespace Bounds

variable {α : Type} {length : Nat} {row : List α}

/-! ## Bounds as natural numbers -/

/-- The start is an index of the row or its length. -/
theorem toNat_start_startingAt (fits : length < UInt64.size) (index : UInt64) :
    (startingAt length index).start.toNat = min index.toNat length := by
  show (min index (.ofNat length)).toNat = _
  rw [toNat_min, UInt64.toNat_ofNat_of_lt' fits]

/-- Without a limit a part stops at the end of the row. -/
theorem toNat_stop_startingAt (fits : length < UInt64.size) (index : UInt64) :
    (startingAt length index).stop.toNat = length :=
  UInt64.toNat_ofNat_of_lt' fits

/-- A limit stops a part at the exact sum: where that does not fit a word, it is behind the row. -/
theorem toNat_stop_limit (bounds : Bounds length) (most : UInt64) :
    (bounds.limit most).stop.toNat = min (bounds.start.toNat + most.toNat) bounds.stop.toNat := by
  show (min (saturatingAdd bounds.start most) bounds.stop).toNat = _
  have fits := bounds.stop.toNat_lt
  rw [toNat_min, toNat_saturatingAdd]
  omega

/-! ## Parts -/

/-- The number of selected elements is computed without a borrow. -/
theorem select_eq (bounds : Bounds length) (row : List α) : bounds.select row =
    (row.drop bounds.start.toNat).take (bounds.stop.toNat - bounds.start.toNat) := by
  rw [select, UInt64.toNat_sub_of_le _ _ bounds.ordered]

/-- What starts at an index is what is left when the elements in front of it are dropped. -/
theorem select_startingAt (covers : row.length = length) (fits : length < UInt64.size)
    (index : UInt64) : (startingAt length index).select row = row.drop index.toNat := by
  rw [select_eq, toNat_start_startingAt fits, toNat_stop_startingAt fits]
  by_cases inside : index.toNat ≤ length
  · have left : (row.drop index.toNat).length = length - index.toNat := by
      rw [List.length_drop, covers]
    rw [Nat.min_eq_left inside]
    exact List.take_of_length_le (Nat.le_of_eq left)
  · have outside : row.length ≤ index.toNat := by omega
    rw [List.drop_eq_nil_of_le outside, List.drop_eq_nil_of_le (by omega), List.take_nil]

/-- A limit takes so many of the elements. -/
theorem select_limit (bounds : Bounds length) (most : UInt64) (row : List α) :
    (bounds.limit most).select row = (bounds.select row).take most.toNat := by
  have start : (bounds.limit most).start = bounds.start := rfl
  have taken : min (bounds.start.toNat + most.toNat) bounds.stop.toNat - bounds.start.toNat =
      min most.toNat (bounds.stop.toNat - bounds.start.toNat) := by omega
  rw [select_eq, select_eq, List.take_take, toNat_stop_limit, start, taken]

end Bounds

namespace Value

variable {α : Type} {make : List α → Value} {row : List α} {start count : Int64}

/-! ## Rows of characters and of elements -/

/-- A way to make values of rows, which are measured, cut and put together as their rows are. -/
structure MakesRows (make : List α → Value) : Prop where
  /-- A value is as long as its row. -/
  size_eq : ∀ row, (make row).size = row.length
  /-- What is between bounds of a value is what is between them in its row. -/
  slice_of_bounds : ∀ row {start count bounds}, bounds? (make row).size start count = some bounds →
    (make row).slice start count = make (bounds.select row)
  /-- Two values are put in a row by their rows. -/
  concatenate_eq : ∀ left right, concatenate [make left, make right] = make (left ++ right)

/-- Strings are rows of characters. -/
theorem makesRows_characters : MakesRows fun row => string (String.ofList row) where
  size_eq _ := String.length_ofList
  slice_of_bounds row _ _ bounds found := by
    simp only [slice, found, String.toList_ofList]
  concatenate_eq left right := by
    have other : ∀ items, string (String.ofList left) ≠ array items := nofun
    rw [concatenate_of_not_array ⟨_, List.mem_cons_self, other⟩, String.ofList_append]
    simp [text, plainText?]

/-- Arrays are rows of their elements. -/
theorem makesRows_elements : MakesRows array where
  size_eq _ := rfl
  slice_of_bounds row _ _ bounds found := by
    simp only [slice, found]
  concatenate_eq left right := by
    have joined := concatenate_arrays [left, right]
    rwa [List.flatten_cons, List.flatten_singleton] at joined

/-! ## Slices in natural numbers -/

/-- The word of an integer that is not negative holds its natural number. -/
theorem toNat_toUInt64_of_nonnegative {number : Int64} (nonnegative : 0 ≤ number) :
    number.toUInt64.toNat = number.toInt.toNat :=
  Int64.toNat_toUInt64_of_le nonnegative

/-- An integer that is not negative is an index. -/
theorem index?_of_nonnegative {number : Int64} (nonnegative : 0 ≤ number) :
    (integer number).index? = some number.toUInt64 :=
  if_neg (Int64.not_lt.mpr nonnegative)

/-- A negative integer is no index. -/
theorem index?_of_negative {number : Int64} (negative : number < 0) :
    (integer number).index? = none :=
  if_pos negative

/-- The bounds behind an index. -/
theorem bounds?_startingAt (length : Nat) (starts : 0 ≤ start) :
    bounds? length (integer start) none = some (.startingAt length start.toUInt64) := by
  rw [bounds?, index?_of_nonnegative starts]
  rfl

/-- The bounds behind an index with a limit. -/
theorem bounds?_limit (length : Nat) (starts : 0 ≤ start) (counts : 0 ≤ count) :
    bounds? length (integer start) (some (integer count)) =
      some ((Bounds.startingAt length start.toUInt64).limit count.toUInt64) := by
  rw [bounds?, index?_of_nonnegative starts]
  show (integer count).index? >>= _ = _
  rw [index?_of_nonnegative counts]
  rfl

/-- The bounds behind an index are those of natural numbers. -/
theorem exists_bounds_startingAt {length : Nat} (fits : length < UInt64.size)
    (starts : 0 ≤ start) :
    ∃ bounds, bounds? length (integer start) none = some bounds ∧
      bounds.start.toNat = min start.toInt.toNat length ∧ bounds.stop.toNat = length := by
  refine ⟨_, bounds?_startingAt length starts, ?_, Bounds.toNat_stop_startingAt fits _⟩
  rw [Bounds.toNat_start_startingAt fits, toNat_toUInt64_of_nonnegative starts]

/-- The bounds behind an index with a limit are those of natural numbers. Their sum fits a word, as
neither of two signed words is more than half of the greatest word. -/
theorem exists_bounds_limit {length : Nat} (fits : length < UInt64.size)
    (starts : 0 ≤ start) (counts : 0 ≤ count) :
    ∃ bounds, bounds? length (integer start) (some (integer count)) = some bounds ∧
      bounds.start.toNat = min start.toInt.toNat length ∧
      bounds.start.toNat + count.toInt.toNat < UInt64.size ∧
      bounds.stop.toNat = min (bounds.start.toNat + count.toInt.toNat) length := by
  let bounds := (Bounds.startingAt length start.toUInt64).limit count.toUInt64
  have starting : bounds.start.toNat = min start.toInt.toNat length := by
    rw [← toNat_toUInt64_of_nonnegative starts]
    exact Bounds.toNat_start_startingAt fits _
  have sum : bounds.start.toNat + count.toInt.toNat < UInt64.size := by
    have size : UInt64.size = 18446744073709551616 := rfl
    have startFits := start.toInt_lt
    have countFits := count.toInt_lt
    omega
  refine ⟨bounds, bounds?_limit length starts counts, starting, sum, ?_⟩
  rw [Bounds.toNat_stop_limit, Bounds.toNat_stop_startingAt fits,
    toNat_toUInt64_of_nonnegative counts]
  rfl

/-- A negative index or limit has no bounds. -/
theorem bounds?_of_negative (length : Nat) (negative : start < 0 ∨ count < 0) :
    bounds? length (integer start) (some (integer count)) = none := by
  by_cases starts : start < 0
  · rw [bounds?, index?_of_negative starts]
    rfl
  · have counts : count < 0 := negative.resolve_left starts
    rw [bounds?, index?_of_nonnegative (Int64.not_lt.mp starts)]
    show (integer count).index? >>= _ = _
    rw [index?_of_negative counts]
    rfl

/-- A negative index or limit has no slice. -/
theorem slice_of_negative (subject : Value) (negative : start < 0 ∨ count < 0) :
    subject.slice (integer start) (some (integer count)) = null := by
  unfold slice
  rw [bounds?_of_negative _ negative]

namespace MakesRows

/-- A slice without a limit drops what is in front of it. -/
theorem slice_startingAt (makes : MakesRows make) (fits : row.length < UInt64.size)
    (starts : 0 ≤ start) :
    (make row).slice (integer start) none = make (row.drop start.toInt.toNat) := by
  have size := makes.size_eq row
  rw [makes.slice_of_bounds row (bounds?_startingAt _ starts),
    Bounds.select_startingAt size.symm (size ▸ fits), toNat_toUInt64_of_nonnegative starts]

/-- A slice with a limit takes so many of the elements that are left. -/
theorem slice_limit (makes : MakesRows make) (fits : row.length < UInt64.size)
    (starts : 0 ≤ start) (counts : 0 ≤ count) :
    (make row).slice (integer start) (some (integer count)) =
      make ((row.drop start.toInt.toNat).take count.toInt.toNat) := by
  have size := makes.size_eq row
  rw [makes.slice_of_bounds row (bounds?_limit _ starts counts), Bounds.select_limit,
    Bounds.select_startingAt size.symm (size ▸ fits), toNat_toUInt64_of_nonnegative starts,
    toNat_toUInt64_of_nonnegative counts]

/-- A slice with a limit has so many elements, or as many as are left when these are fewer. -/
theorem exists_sizes (makes : MakesRows make) (countable : row.length < 9223372036854775808)
    (starts : 0 ≤ start) (counts : 0 ≤ count) :
    ∃ whole part, Builtin.len.call [make row] = integer whole ∧
      Builtin.len.call [(make row).slice (integer start) (some (integer count))] = integer part ∧
      whole.toInt = row.length ∧
      part.toInt = min count.toInt (whole.toInt - min start.toInt whole.toInt) := by
  have size : UInt64.size = 18446744073709551616 := rfl
  have measured (items : List α) : Builtin.len.call [make items] =
      integer (Int64.ofNat items.length) :=
    congrArg (fun count => integer (Int64.ofNat count)) (makes.size_eq items)
  have whole : (Int64.ofNat row.length).toInt = row.length := Int64.toInt_ofNat_of_lt countable
  rw [makes.slice_limit (by omega) starts counts]
  refine ⟨_, _, measured row, measured _, whole, ?_⟩
  have fewer : min count.toInt.toNat (row.length - start.toInt.toNat) < 2 ^ 63 := by omega
  rw [whole, List.length_take, List.length_drop, Int64.toInt_ofNat_of_lt fewer]
  have startPositive : 0 ≤ start.toInt := Int64.le_iff_toInt_le.mp starts
  have countPositive : 0 ≤ count.toInt := Int64.le_iff_toInt_le.mp counts
  omega

/-- The slices in front of an index, from there on with a limit, and behind that limit are the whole
row. -/
theorem concatenate_slices (makes : MakesRows make) (fits : row.length < UInt64.size)
    (starts : 0 ≤ start) (counts : 0 ≤ count) :
    concatenate [concatenate [(make row).slice (integer 0) (some (integer start)),
      (make row).slice (integer start) (some (integer count))],
      ((make row).slice (integer start) none).slice (integer count) none] = make row := by
  have dropped : (row.drop start.toInt.toNat).length < UInt64.size := by
    rw [List.length_drop]
    omega
  have front : row.drop (0 : Int64).toInt.toNat = row := List.drop_zero
  rw [makes.slice_limit fits (Int64.le_refl 0) starts, makes.slice_limit fits starts counts,
    makes.slice_startingAt fits starts, makes.slice_startingAt dropped counts,
    makes.concatenate_eq, makes.concatenate_eq, front, List.append_assoc, List.take_append_drop,
    List.take_append_drop]

end MakesRows

/-- A string or an array whose characters or elements can be counted by integers. -/
structure IsRow (value : Value) : Prop where
  /-- It is a string or an array. -/
  kind : (∃ text, value = string text) ∨ ∃ items, value = array items
  /-- Its size is an integer, as the size of everything is that fits a memory. -/
  countable : value.size < 9223372036854775808

/-- A string or an array is made of a row of characters or of elements. -/
theorem IsRow.exists_row {value : Value} (formed : value.IsRow) :
    ∃ (α : Type) (make : List α → Value) (row : List α), MakesRows make ∧ value = make row := by
  rcases formed.kind with ⟨text, rfl⟩ | ⟨items, rfl⟩
  · exact ⟨Char, _, text.toList, makesRows_characters, by rw [String.ofList_toList]⟩
  · exact ⟨Value, array, items, makesRows_elements, rfl⟩

/-- A slice of a string or of an array is null when the index or the limit is negative. Otherwise
its bounds are those that natural numbers give: they lie in the row, and the sum of the index and
the limit fits a word, whatever the two are. The slice has the characters or elements from the index
on, as many of them as the limit and the end of the row leave, and its size is their number. The
slices in front of the index, from there on with the limit, and behind the limit are put in a row to
what they were cut from. -/
theorem slices_tile {subject : Value} (formed : subject.IsRow) (start count : Int64) :
    (start < 0 ∨ count < 0 →
      Builtin.slice.call [subject, integer start, integer count] = null) ∧
    (0 ≤ start → 0 ≤ count →
      (∃ bounds, bounds? subject.size (integer start) (some (integer count)) = some bounds ∧
        bounds.start.toNat = min start.toInt.toNat subject.size ∧
        bounds.start.toNat + count.toInt.toNat < UInt64.size ∧
        bounds.stop.toNat = min (bounds.start.toNat + count.toInt.toNat) subject.size) ∧
      (∃ bounds, bounds? subject.size (integer start) none = some bounds ∧
        bounds.start.toNat = min start.toInt.toNat subject.size ∧
        bounds.stop.toNat = subject.size) ∧
      (∀ text, subject = string text →
        Builtin.slice.call [subject, integer start, integer count] =
          string (String.ofList ((text.toList.drop start.toInt.toNat).take count.toInt.toNat))) ∧
      (∀ items, subject = array items →
        Builtin.slice.call [subject, integer start, integer count] =
          array ((items.drop start.toInt.toNat).take count.toInt.toNat)) ∧
      (∃ whole part, Builtin.len.call [subject] = integer whole ∧
        Builtin.len.call [Builtin.slice.call [subject, integer start, integer count]] =
          integer part ∧
        whole.toInt = subject.size ∧
        part.toInt = min count.toInt (whole.toInt - min start.toInt whole.toInt)) ∧
      Builtin.cat.call [Builtin.cat.call [Builtin.slice.call [subject, integer 0, integer start],
          Builtin.slice.call [subject, integer start, integer count]],
        Builtin.slice.call [Builtin.slice.call [subject, integer start], integer count]] =
          subject) := by
  have countable := formed.countable
  have fits : subject.size < UInt64.size := Nat.lt_trans countable (by decide)
  refine ⟨slice_of_negative subject, fun starts counts =>
    ⟨exists_bounds_limit fits starts counts, exists_bounds_startingAt fits starts, ?characters,
      ?elements, ?measured, ?tiled⟩⟩
  case characters =>
    rintro text rfl
    have length : text.toList.length < UInt64.size := String.length_toList ▸ fits
    have made := makesRows_characters.slice_limit length starts counts
    rw [String.ofList_toList] at made
    exact made
  case elements =>
    rintro items rfl
    exact makesRows_elements.slice_limit fits starts counts
  case measured =>
    obtain ⟨α, make, row, makes, rfl⟩ := formed.exists_row
    rw [makes.size_eq] at countable ⊢
    exact makes.exists_sizes countable starts counts
  case tiled =>
    obtain ⟨α, make, row, makes, rfl⟩ := formed.exists_row
    exact makes.concatenate_slices (makes.size_eq row ▸ fits) starts counts

/-- Characters and not bytes are cut, also with the greatest limit, and an index may be behind the
end of an array. -/
theorem slices_tile_sample :
    let subject := string "aé🙂"
    let items := array [null, boolean true]
    let greatest := integer 9223372036854775807
    (subject.IsRow ∧ items.IsRow) ∧
      Builtin.slice.call [subject, integer (-1), integer 2] = null ∧
      Builtin.slice.call [subject, integer 1, greatest] = string "é🙂" ∧
      Builtin.cat.call [Builtin.cat.call [Builtin.slice.call [subject, integer 0, integer 1],
          Builtin.slice.call [subject, integer 1, greatest]],
        Builtin.slice.call [Builtin.slice.call [subject, integer 1], greatest]] = subject ∧
      Builtin.slice.call [items, greatest, integer 1] = array [] := by
  intro subject items greatest
  have text : subject.IsRow := ⟨.inl ⟨_, rfl⟩, by decide⟩
  have row : items.IsRow := ⟨.inr ⟨_, rfl⟩, by decide⟩
  have refused := (slices_tile text (-1) 2).1 (.inl (by decide))
  obtain ⟨-, -, cut, -, -, tiled⟩ :=
    (slices_tile text 1 9223372036854775807).2 (by decide) (by decide)
  obtain ⟨-, -, -, behind, -, -⟩ :=
    (slices_tile row 9223372036854775807 1).2 (by decide) (by decide)
  exact ⟨⟨text, row⟩, refused, cut _ rfl, tiled, behind _ rfl⟩

end Value

end Stencil
