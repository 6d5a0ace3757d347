import Stencil.Evaluation.Eval

/-!
# Concatenation

Values are put together in three ways: by a function of any number of arguments, by joining the
elements of an array, and by a sum that is taken from left to right. The main statement is that the
three agree. Arrays are put in a row by the function and by the sum, and as soon as one value is no
array the function and the joining without a separator write the texts of all values.
-/

namespace Stencil

/-- A text in front of others that a separator stands between: the separator is in front of each of
the others. -/
theorem intercalate_cons_eq_join (separator first : String) (rest : List String) :
    String.intercalate separator (first :: rest) =
      first ++ String.join (rest.map fun text => separator ++ text) := by
  induction rest generalizing first with
  | nil => rw [String.intercalate_singleton, List.map_nil, String.join_nil, String.append_empty]
  | cons second rest ih =>
    rw [String.intercalate_cons_cons, ih, List.map_cons, String.join_cons]
    simp only [String.append_assoc]

/-- The sum of expressions, taken from left to right. -/
def Expr.sum (first : Expr) (rest : List Expr) : Expr := rest.foldl (Expr.binary .add) first

/-- The value of a sum is the sum of the values, taken from left to right. -/
theorem Expr.eval_sum (store : Store) (first : Expr) (rest : List Expr) :
    (first.sum rest).eval store = (evalAll store rest).foldl Value.add (first.eval store) := by
  induction rest generalizing first with
  | nil =>
    rw [evalAll]
    rfl
  | cons item rest ih =>
    have taken : (Expr.binary .add first item).eval store =
        (first.eval store).add (item.eval store) := by
      rw [eval]
      rfl
    rw [evalAll, List.foldl_cons, ← taken]
    exact ih (.binary .add first item)

namespace Value

/-! ## Arrays in a row -/

/-- The elements of a value are those of the array it is. -/
theorem items?_eq_some_iff {value : Value} {items : List Value} :
    value.items? = some items ↔ value = array items := by
  cases value <;> simp [items?]

/-- Values have elements, each of them, when they are arrays. -/
theorem mapM_items?_eq_some_iff {values : List Value} {rows : List (List Value)} :
    values.mapM items? = some rows ↔ values = rows.map array := by
  induction values generalizing rows with
  | nil => cases rows <;> simp
  | cons value rest ih =>
    rw [List.mapM_cons]
    cases rows <;> simp [Option.bind_eq_some_iff, items?_eq_some_iff, ih]

/-- Arrays are put in a row. -/
theorem concatenate_arrays (rows : List (List Value)) :
    concatenate (rows.map array) = array rows.flatten := by
  rw [concatenate, mapM_items?_eq_some_iff.mpr rfl]

/-- Arrays are added up to one row. -/
theorem foldl_add_arrays (items : List Value) (rows : List (List Value)) :
    (rows.map array).foldl add (array items) = array (items ++ rows.flatten) := by
  induction rows generalizing items with
  | nil => simp
  | cons row rest ih =>
    rw [List.map_cons, List.foldl_cons, add, ih, List.flatten_cons, List.append_assoc]

/-- Arrays are made of rows. -/
theorem exists_eq_map_array {values : List Value}
    (arrays : ∀ value ∈ values, ∃ items, value = array items) :
    ∃ rows : List (List Value), values = rows.map array := by
  induction values with
  | nil => exact ⟨[], rfl⟩
  | cons value rest ih =>
    obtain ⟨⟨row, here⟩, others⟩ := List.forall_mem_cons.mp arrays
    obtain ⟨rows, behind⟩ := ih others
    exact ⟨row :: rows, List.cons_eq_cons.mpr ⟨here, behind⟩⟩

/-! ## Texts in a row -/

/-- Values of which one is no array are joined as texts. -/
theorem concatenate_of_not_array {values : List Value}
    (other : ∃ value ∈ values, ∀ items, value ≠ array items) :
    concatenate values = string (String.join (values.map text)) := by
  have missing : values.mapM items? = none := by
    refine Option.eq_none_iff_forall_ne_some.mpr fun rows found => ?_
    obtain ⟨value, member, differs⟩ := other
    rw [mapM_items?_eq_some_iff.mp found] at member
    obtain ⟨items, -, same⟩ := List.mem_map.mp member
    exact differs items same.symm
  rw [concatenate, missing]

/-- Values are added to a string as texts. -/
theorem foldl_add_string (whole : String) (values : List Value) :
    values.foldl add (string whole) = string (whole ++ String.join (values.map text)) := by
  induction values generalizing whole with
  | nil => simp
  | cons value rest ih =>
    rw [List.foldl_cons, add, ih, List.map_cons, String.join_cons, String.append_assoc]

/-- A sum that starts with a string, or a sum of arrays, is the row of all values. -/
theorem foldl_add_eq_concatenate {first : Value} {rest : List Value}
    (starts : (∃ whole, first = string whole) ∨
      ∀ value ∈ first :: rest, ∃ items, value = array items) :
    rest.foldl add first = concatenate (first :: rest) := by
  rcases starts with ⟨whole, rfl⟩ | arrays
  · have plain : (string whole).text = whole := rfl
    have other : ∀ items, string whole ≠ array items := nofun
    rw [foldl_add_string, concatenate_of_not_array ⟨_, List.mem_cons_self, other⟩, List.map_cons,
      String.join_cons, plain]
  · obtain ⟨⟨items, rfl⟩, others⟩ := List.forall_mem_cons.mp arrays
    obtain ⟨rows, rfl⟩ := exists_eq_map_array others
    rw [foldl_add_arrays]
    exact (concatenate_arrays (items :: rows)).symm

/-- The ways to put values together agree. When one of them is no array, the function that puts them
in a row joins their texts with nothing in between. When the first is a string, or when all are
arrays, it gives their sum, taken from left to right, whichever expressions have these values. The
joined text is the text of the first and then, for each other one, the separator and its text; and
so it is put together from the texts of any two parts with the separator between them. -/
theorem concatenations_agree (first : Value) (rest : List Value) :
    ((∃ value ∈ first :: rest, ∀ items, value ≠ array items) →
      Builtin.cat.call (first :: rest) = Builtin.join.call [array (first :: rest), string ""]) ∧
    (((∃ whole, first = string whole) ∨ ∀ value ∈ first :: rest, ∃ items, value = array items) →
      ∀ (store : Store) (head : Expr) (tail : List Expr), head.eval store = first →
        Expr.evalAll store tail = rest →
        (head.sum tail).eval store = Builtin.cat.call (first :: rest)) ∧
    (∀ separator, Builtin.join.call [array (first :: rest), separator] =
      string (first.text ++ String.join (rest.map fun value => separator.text ++ value.text))) ∧
    ∀ left right separator, left ≠ [] → right ≠ [] → first :: rest = left ++ right →
      Builtin.join.call [array (first :: rest), separator] =
        ((Builtin.join.call [array left, separator]).add separator).add
          (Builtin.join.call [array right, separator]) := by
  have joined (values : List Value) (separator : Value) :
      Builtin.join.call [array values, separator] =
        string (String.intercalate separator.text (values.map text)) := rfl
  have concatenated (values : List Value) : Builtin.cat.call values = concatenate values := rfl
  refine ⟨fun other => ?unseparated, fun starts => ?added, fun separator => ?separated, ?split⟩
  case unseparated =>
    have nothing : (string "").text = "" := rfl
    have bare : (fun text => "" ++ text) = id := funext fun text => String.empty_append
    rw [concatenated, concatenate_of_not_array other, joined, nothing, List.map_cons,
      intercalate_cons_eq_join, bare, List.map_id, String.join_cons]
  case added =>
    rintro store head tail rfl rfl
    rw [Expr.eval_sum, concatenated]
    exact foldl_add_eq_concatenate starts
  case separated =>
    rw [joined, List.map_cons, intercalate_cons_eq_join, List.map_map]
    rfl
  case split =>
    intro left right separator leftFilled rightFilled same
    rw [same, joined, List.map_append, String.intercalate_append_of_ne_nil
      (mt List.map_eq_nil_iff.mp leftFilled) (mt List.map_eq_nil_iff.mp rightFilled)]
    rfl

/-- A string, a number and an array are joined as texts in all three ways, also when the separator
stands between two parts; arrays, an empty one among them, are put in a row. -/
theorem concatenations_agree_sample :
    let others := [integer 1, array [null, boolean true]]
    let rows := [array [], array [integer 3, null]]
    let sum (first : Value) (rest : List Value) :=
      (Expr.sum (.literal first) (rest.map .literal)).eval .empty
    (∀ items, string "a" ≠ array items) ∧
      Builtin.cat.call (string "a" :: others) = string "a1[null,true]" ∧
      Builtin.join.call [array (string "a" :: others), string ""] = string "a1[null,true]" ∧
      sum (string "a") others = string "a1[null,true]" ∧
      Builtin.join.call [array (string "a" :: others), string ", "] =
        string "a, 1, [null,true]" ∧
      ((Builtin.join.call [array [string "a"], string ", "]).add (string ", ")).add
        (Builtin.join.call [array others, string ", "]) = string "a, 1, [null,true]" ∧
      (∀ value ∈ array [null] :: rows, ∃ items, value = array items) ∧
      sum (array [null]) rows = array [null, integer 3, null] := by
  intro others rows sum
  have other : ∀ items, string "a" ≠ array items := nofun
  have arrays : ∀ value ∈ array [null] :: rows, ∃ items, value = array items := by
    simp [rows]
  have written : Builtin.cat.call (string "a" :: others) = string "a1[null,true]" := by rfl
  have separated : Builtin.join.call [array (string "a" :: others), string ", "] =
      string "a, 1, [null,true]" := by rfl
  obtain ⟨unseparated, added, -, split⟩ := concatenations_agree (string "a") others
  obtain ⟨-, row, -⟩ := concatenations_agree (array [null]) rows
  refine ⟨other, written, ?_, ?_, separated, ?_, arrays, ?_⟩
  · exact (unseparated ⟨_, List.mem_cons_self, other⟩).symm.trans written
  · exact (added (.inl ⟨_, rfl⟩) _ _ _ rfl rfl).trans written
  · exact (split [string "a"] others _ nofun nofun rfl).symm.trans separated
  · exact row (.inr arrays) _ _ _ rfl rfl

end Value

end Stencil
