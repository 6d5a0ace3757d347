import Stencil.Proofs.Evaluation.Depth
import Stencil.Proofs.Value.Keys

/-!
# Iteration

A map and an array are seen in several ways: a loop walks over their entries, functions give their
size, their keys, their values and their ends, and a key reaches a part of them. The main statement
is that all of these see the same entries in the same order. Behind it stands that no two keys of a
map are the same, so that a key reaches the one entry it belongs to.
-/

namespace Stencil

/-- Computations in a row succeed with the values that each of them gives. -/
theorem mapM_eq_ok_iff {error α β : Type} {computation : α → Except error β} {items : List α}
    {values : List β} : items.mapM computation = .ok values ↔
      List.Forall₂ (fun item value => computation item = .ok value) items values := by
  induction items generalizing values with
  | nil =>
    rw [List.mapM_nil, List.forall₂_nil_left_iff]
    exact ⟨fun given => (Except.ok.inj given).symm, fun given => congrArg Except.ok given.symm⟩
  | cons item rest ih =>
    rw [List.mapM_cons, List.forall₂_cons_left_iff]
    constructor
    · intro succeeds
      obtain ⟨value, here, others⟩ := bind_eq_ok_iff.mp succeeds
      obtain ⟨later, found, ⟨⟩⟩ := bind_eq_ok_iff.mp others
      exact ⟨value, later, here, ih.mp found, rfl⟩
    · rintro ⟨value, later, here, found, rfl⟩
      exact bind_eq_ok_iff.mpr ⟨value, here, bind_eq_ok_iff.mpr ⟨later, ih.mpr found, rfl⟩⟩

namespace Value

/-- A map without a repeated key, or an array, in which entries can be counted by integers. -/
structure IsCollection (value : Value) : Prop where
  /-- It is a map or an array. -/
  kind : (∃ entries, value = map entries) ∨ ∃ items, value = array items
  /-- No map in it has a key twice. -/
  wellFormed : value.isWellFormed = true
  /-- Its size is an integer, as the size of everything is that fits a memory. -/
  countable : value.size < 9223372036854775808

/-! ## Indices -/

/-- The entries of an array are its items by their indices. -/
theorem mem_entries_array_iff {items : List Value} {entry : Value × Value} :
    entry ∈ (array items).entries ↔
      ∃ index, items[index]? = some entry.2 ∧ entry.1 = integer (Int64.ofNat index) := by
  rw [entries, List.mem_map]
  constructor
  · rintro ⟨⟨item, index⟩, member, rfl⟩
    exact ⟨index, List.mem_zipIdx_iff_getElem?.mp member, rfl⟩
  · rintro ⟨index, inside, same⟩
    exact ⟨(entry.2, index), List.mem_zipIdx_iff_getElem?.mpr inside, Prod.ext same.symm rfl⟩

/-- An integer reaches an item of an array as its index. -/
theorem get?_array_eq_some_iff {items : List Value} (countable : items.length < 9223372036854775808)
    {key value : Value} : (array items).get? key = some value ↔
      ∃ index, items[index]? = some value ∧ key = integer (Int64.ofNat index) := by
  constructor
  · intro reached
    cases key with
    | null | boolean | float | string | bytes | array | map => cases reached
    | integer number =>
      rw [get?] at reached
      split at reached
      · cases reached
      next nonnegative =>
        refine ⟨number.toInt.toNat, reached, congrArg integer (Int64.toInt_inj.mp ?_)⟩
        obtain ⟨inside, -⟩ := List.getElem?_eq_some_iff.mp reached
        rw [Int64.toInt_ofNat_of_lt (by omega)]
        rw [Int64.lt_iff_toInt_lt] at nonnegative
        have zero : (0 : Int64).toInt = 0 := rfl
        omega
  · rintro ⟨index, inside, rfl⟩
    obtain ⟨bound, -⟩ := List.getElem?_eq_some_iff.mp inside
    have back : (Int64.ofNat index).toInt = index := Int64.toInt_ofNat_of_lt (by omega)
    have nonnegative : ¬Int64.ofNat index < 0 := by
      rw [Int64.lt_iff_toInt_lt, back]
      exact Int.not_lt.mpr (Int.natCast_nonneg index)
    rw [get?, if_neg nonnegative, back, Int.toNat_natCast]
    exact inside

/-! ## Keys -/

/-- The keys and values that are given are those of the entries. -/
theorem keys_and_values_eq (value : Value) :
    value.keys = array (value.entries.map Prod.fst) ∧
      value.values = array (value.entries.map Prod.snd) := by
  cases value with
  | null | boolean | integer | float | string | bytes | map => exact ⟨rfl, rfl⟩
  | array items =>
    constructor
    · rw [keys, entries, List.map_map, List.range_eq_range',
        ← List.zipIdx_map_snd 0 items, List.map_map]
      rfl
    · rw [values, entries, List.map_map]
      exact congrArg array (List.zipIdx_map_fst 0 items).symm

/-- A collection has as many entries as it says. -/
theorem length_entries {value : Value} (collection : value.IsCollection) :
    value.entries.length = value.size := by
  rcases collection.kind with ⟨entries, rfl⟩ | ⟨items, rfl⟩
  · rfl
  · simp [entries, size]

/-- No two keys of a collection are the same. -/
theorem pairwise_entries {value : Value} (collection : value.IsCollection) :
    value.entries.Pairwise fun first second =>
      same first.1 second.1 = false ∧ same second.1 first.1 = false := by
  rcases collection.kind with ⟨entries, rfl⟩ | ⟨items, rfl⟩
  · exact pairwise_same_eq_false collection.wellFormed
  · refine List.pairwise_iff_getElem.mpr fun first second firstInside secondInside before => ?_
    have counted : (array items).entries.length = items.length := length_entries collection
    have countable : items.length < 9223372036854775808 := collection.countable
    have apart : Int64.ofNat first ≠ Int64.ofNat second := by
      intro equal
      have same := congrArg Int64.toInt equal
      rw [Int64.toInt_ofNat_of_lt (by omega), Int64.toInt_ofNat_of_lt (by omega)] at same
      omega
    simp [entries, same, apart, apart.symm]

/-! ## What a key reaches -/

/-- A key finds the entry that has the same key, as there is no other one. -/
theorem lookup?_of_mem {entries : Entries} (formed : (map entries).isWellFormed = true)
    {key : Value} (keyFormed : key.isWellFormed = true) {entry : Value × Value}
    (member : entry ∈ entries) (met : same key entry.1 = true) :
    lookup? key entries = some entry.2 := by
  obtain ⟨distinct, parts⟩ := isWellFormed_map_iff.mp formed
  have alone : entries.Pairwise fun first second =>
      ¬(same key first.1 = true ∧ same key second.1 = true) := by
    refine List.Pairwise.imp_of_mem (fun {first second} here there apart both => ?_) distinct
    have met : same key second.1 = true := both.2
    have meet : same key first.1 = same second.1 first.1 :=
      @same_congr ⟨key, keyFormed⟩ ⟨second.1, (parts second there).1⟩ met
        ⟨first.1, (parts first here).1⟩
    rw [both.1, apart] at meet
    cases meet
  rw [lookup?, find?_eq_some_of_alone member met alone]
  rfl

/-- A text finds the value of an entry with that text as its key. -/
theorem lookup?_string_eq_some_iff {entries : Entries}
    (formed : (map entries).isWellFormed = true) {text : String} {value : Value} :
    lookup? (string text) entries = some value ↔ (string text, value) ∈ entries := by
  constructor
  · intro found
    obtain ⟨⟨key, other⟩, first, same⟩ := Option.map_eq_some_iff.mp found
    have met := List.find?_some first
    obtain rfl : string text = key := (same_iff_of_isSimple rfl key).mp met
    cases same
    exact List.mem_of_find?_eq_some first
  · intro member
    exact lookup?_of_mem formed rfl member ((same_iff_of_isSimple rfl _).mpr rfl)

/-- A key reaches what it finds in a map, and an integer that finds nothing what its text finds. -/
theorem get?_map (entries : Entries) (key : Value) : (map entries).get? key =
    (lookup? key entries).or (match key with
      | integer number => lookup? (string (integerText number)) entries
      | _ => none) := by
  cases found : lookup? key entries <;> cases key <;> simp [get?, found]

/-- The key of an entry reaches its value. -/
theorem get?_of_mem_entries {value : Value} (collection : value.IsCollection)
    {entry : Value × Value} (member : entry ∈ value.entries) :
    value.get? entry.1 = some entry.2 := by
  rcases collection.kind with ⟨entries, rfl⟩ | ⟨items, rfl⟩
  · have formed := collection.wellFormed
    have keyFormed := ((isWellFormed_map_iff.mp formed).2 entry member).1
    have met := same_equivalence.refl ⟨entry.1, keyFormed⟩
    rw [get?_map, lookup?_of_mem formed keyFormed member met, Option.some_or]
  · obtain ⟨index, inside, same⟩ := mem_entries_array_iff.mp member
    exact (get?_array_eq_some_iff collection.countable).mpr ⟨index, inside, same⟩

/-- A key of no entry reaches nothing, but for an integer whose text is a key. -/
theorem get?_eq_some_iff_of_new {whole key value : Value} (collection : whole.IsCollection)
    (new : ∀ entry ∈ whole.entries, same key entry.1 = false) :
    whole.get? key = some value ↔ ∃ number, key = integer number ∧
      (string (integerText number), value) ∈ whole.entries := by
  rcases collection.kind with ⟨entries, rfl⟩ | ⟨items, rfl⟩
  · have missing : lookup? key entries = none := by
      rw [lookup?, Option.map_eq_none_iff, List.find?_eq_none]
      exact fun entry member => Bool.eq_false_iff.mp (new entry member)
    rw [get?_map, missing, Option.none_or]
    constructor
    · intro reached
      cases key with
      | integer number =>
        exact ⟨number, rfl, (lookup?_string_eq_some_iff collection.wellFormed).mp reached⟩
      | null | boolean | float | string | bytes | array | map => cases reached
    · rintro ⟨number, rfl, member⟩
      exact (lookup?_string_eq_some_iff collection.wellFormed).mpr member
  · rw [get?_array_eq_some_iff collection.countable]
    constructor
    · rintro ⟨index, inside, rfl⟩
      have apart := new (integer (Int64.ofNat index), value)
        (mem_entries_array_iff.mpr ⟨index, inside, rfl⟩)
      rw [(same_iff_of_isSimple rfl _).mpr rfl] at apart
      cases apart
    · rintro ⟨number, -, member⟩
      obtain ⟨index, -, same⟩ := mem_entries_array_iff.mp member
      cases same

end Value

/-! ## Loops -/

/-- In the body of a loop the names of the loop mean the entry, and other names what they mean
outside. -/
theorem Store.get?_enter (store : Store) (key : Option String) (name : String)
    (entry : Value × Value) :
    (store.enter key name entry).get? name = some entry.2 ∧
      (∀ keyName, key = some keyName → keyName ≠ name →
        (store.enter key name entry).get? keyName = some entry.1) ∧
      ∀ other, other ≠ name → key ≠ some other →
        (store.enter key name entry).get? other = store.get? other := by
  cases key with
  | none =>
    exact ⟨get?_set_self _ _ _, nofun, fun other differs _ => get?_set_of_ne _ _ differs⟩
  | some keyName =>
    refine ⟨get?_set_self _ _ _, ?_, fun other differs unnamed => ?_⟩
    · rintro _ ⟨⟩ differs
      rw [enter, get?_set_of_ne _ _ differs, get?_set_self]
    · have apart : other ≠ keyName := fun same => unnamed (congrArg some same.symm)
      rw [enter, get?_set_of_ne _ _ differs, get?_set_of_ne _ _ apart, get?_push]

namespace Node

variable {limit depth : Nat} {store : Store} {key : Option String} {name : String} {source : Expr}
  {body empty : List Node}

/-- A loop that is nested too deep is not entered. -/
theorem render_loop_of_le (deep : limit ≤ depth) :
    (loop key name source body empty).render limit depth store =
      .error (.renderDepthExceeded limit) := by
  rw [render, enter, if_neg (Nat.not_lt.mpr deep)]
  rfl

/-- A loop over no entries is its other branch. -/
theorem render_loop_of_nil (inside : depth < limit) (nothing : (source.eval store).entries = []) :
    (loop key name source body empty).render limit depth store =
      renderAll limit (depth + 1) store.push empty := by
  rw [render, enter, if_pos inside, nothing]
  rfl

/-- A loop over entries is its body for each of them. -/
theorem render_loop_of_ne_nil (inside : depth < limit)
    (filled : (source.eval store).entries ≠ []) :
    (loop key name source body empty).render limit depth store =
      ((source.eval store).entries.mapM (fun entry =>
        renderAll limit (depth + 1) (store.enter key name entry) body) >>= fun texts =>
          .ok (String.join texts)) := by
  rw [render, enter, if_pos inside]
  cases walked : (source.eval store).entries with
  | nil => exact absurd walked filled
  | cons first rest => rfl

/-- The text of a loop over entries: it may be entered, and is the text of the other branch when
there are no entries, and else the texts of the body for all entries in their order. -/
theorem render_loop_eq_ok_iff {text : String} :
    (loop key name source body empty).render limit depth store = .ok text ↔
      depth < limit ∧
        (((source.eval store).entries = [] ∧
            renderAll limit (depth + 1) store.push empty = .ok text) ∨
          ((source.eval store).entries ≠ [] ∧ ∃ texts, List.Forall₂ (fun entry bodyText =>
            renderAll limit (depth + 1) (store.enter key name entry) body = .ok bodyText)
              (source.eval store).entries texts ∧ text = String.join texts)) := by
  by_cases inside : depth < limit
  · rw [and_iff_right inside]
    by_cases nothing : (source.eval store).entries = []
    · rw [render_loop_of_nil inside nothing]
      simp only [nothing, true_and, ne_eq, not_true_eq_false, false_and, or_false]
    · rw [render_loop_of_ne_nil inside nothing, bind_eq_ok_iff]
      simp only [mapM_eq_ok_iff, nothing, false_and, ne_eq, not_false_eq_true, true_and, false_or]
      refine exists_congr fun texts => and_congr_right fun _ => ?_
      rw [Except.ok.injEq]
      exact eq_comm
  · rw [render_loop_of_le (Nat.not_lt.mp inside)]
    exact ⟨nofun, fun given => absurd given.1 inside⟩

/-- A loop over entries fails when it is nested too deep, when there are no entries and the other
branch fails, and when the body fails for an entry. -/
theorem render_loop_eq_error_iff {failure : Failure} :
    (loop key name source body empty).render limit depth store = .error failure ↔
      (limit ≤ depth ∧ failure = .renderDepthExceeded limit) ∨
        (depth < limit ∧ (source.eval store).entries = [] ∧
          renderAll limit (depth + 1) store.push empty = .error failure) ∨
        (depth < limit ∧ ∃ entry ∈ (source.eval store).entries,
          renderAll limit (depth + 1) (store.enter key name entry) body = .error failure) := by
  by_cases inside : depth < limit
  · simp only [Nat.not_le.mpr inside, inside, false_and, true_and, false_or]
    by_cases nothing : (source.eval store).entries = []
    · rw [render_loop_of_nil inside nothing]
      simp [nothing]
    · rw [render_loop_of_ne_nil inside nothing, bind_eq_error_iff]
      have only (entry : Value × Value) (other : Failure)
          (fails : renderAll limit (depth + 1) (store.enter key name entry) body = .error other) :
          other = .renderDepthExceeded limit := renderAll_eq_error body fails
      simp only [nothing, false_and, false_or, reduceCtorEq, and_false, exists_const, or_false]
      constructor
      · exact mapM_eq_error
      · rintro ⟨entry, member, fails⟩
        obtain rfl := only entry failure fails
        exact (mapM_eq_error_iff only).mpr ⟨entry, member, fails⟩
  · have deep := Nat.not_lt.mp inside
    rw [render_loop_of_le deep, Except.error.injEq]
    simp only [inside, deep, false_and, true_and, or_false]
    exact eq_comm

end Node

/-- A map or an array shows the same entries in the same order in every way it is seen: in its
size, its keys, its values and its ends, and in a loop, which has its body once for each entry, with
the entry's key and value, and its other branch exactly when the size is zero. No two keys are the
same. The key of an entry reaches the value of this entry, also where an integer and its text are
both keys; and a key of no entry reaches nothing, but for an integer whose text is a key. -/
theorem Value.seen_alike {collection : Value} (formed : collection.IsCollection) :
    (∃ count, Builtin.len.call [collection] = integer count ∧
      count.toInt = collection.entries.length) ∧
    Builtin.keys.call [collection] = array (collection.entries.map Prod.fst) ∧
    Builtin.values.call [collection] = array (collection.entries.map Prod.snd) ∧
    Builtin.first.call [collection] = (collection.entries.head?.map Prod.snd).getD null ∧
    Builtin.last.call [collection] = (collection.entries.getLast?.map Prod.snd).getD null ∧
    (collection.entries.Pairwise fun first second =>
      same first.1 second.1 = false ∧ same second.1 first.1 = false) ∧
    (∀ entry ∈ collection.entries, collection.get? entry.1 = some entry.2 ∧
      ((∃ entries, collection = map entries) →
        Builtin.has.call [collection, entry.1] = boolean true)) ∧
    (∀ key, (∀ entry ∈ collection.entries, same key entry.1 = false) →
      ∀ value, collection.get? key = some value ↔ ∃ number, key = integer number ∧
        (string (integerText number), value) ∈ collection.entries) ∧
    ∀ (limit depth : Nat) (store : Store) (key : Option String) (name : String) (source : Expr)
      (body empty : List Node), source.eval store = collection →
      (∀ entry, (store.enter key name entry).get? name = some entry.2 ∧
        (∀ keyName, key = some keyName → keyName ≠ name →
          (store.enter key name entry).get? keyName = some entry.1) ∧
        ∀ other, other ≠ name → key ≠ some other →
          (store.enter key name entry).get? other = store.get? other) ∧
      (∀ text, (Node.loop key name source body empty).render limit depth store = .ok text ↔
        depth < limit ∧
          ((Builtin.len.call [collection] = integer 0 ∧
              Node.renderAll limit (depth + 1) store.push empty = .ok text) ∨
            (Builtin.len.call [collection] ≠ integer 0 ∧ ∃ texts,
              List.Forall₂ (fun entry bodyText =>
                Node.renderAll limit (depth + 1) (store.enter key name entry) body = .ok bodyText)
                collection.entries texts ∧ text = String.join texts))) ∧
      (∀ failure, (Node.loop key name source body empty).render limit depth store =
          .error failure ↔
        (limit ≤ depth ∧ failure = .renderDepthExceeded limit) ∨
          (depth < limit ∧ Builtin.len.call [collection] = integer 0 ∧
            Node.renderAll limit (depth + 1) store.push empty = .error failure) ∨
          (depth < limit ∧ ∃ entry ∈ collection.entries,
            Node.renderAll limit (depth + 1) (store.enter key name entry) body =
              .error failure)) := by
  have length := length_entries formed
  have countable := formed.countable
  have counted : (Int64.ofNat collection.size).toInt = collection.entries.length := by
    rw [length, Int64.toInt_ofNat_of_lt (by omega)]
  have zero : Builtin.len.call [collection] = integer 0 ↔ collection.entries = [] := by
    have called : Builtin.len.call [collection] = integer (Int64.ofNat collection.size) := rfl
    rw [called, integer.injEq, ← Int64.toInt_inj, counted, ← List.length_eq_zero_iff]
    exact Int.natCast_eq_zero
  refine ⟨⟨_, rfl, counted⟩, (keys_and_values_eq collection).1, (keys_and_values_eq collection).2,
    ?first, ?last, pairwise_entries formed, fun entry member =>
      ⟨get?_of_mem_entries formed member, ?has⟩, fun key new value =>
        get?_eq_some_iff_of_new formed new, ?loops⟩
  case first =>
    have called : Builtin.first.call [collection] = collection.first := rfl
    rw [called, first]
    cases collection.entries.head? <;> rfl
  case last =>
    have called : Builtin.last.call [collection] = collection.last := rfl
    rw [called, last]
    cases collection.entries.getLast? <;> rfl
  case has =>
    rintro ⟨entries, rfl⟩
    have called : Builtin.has.call [map entries, entry.1] =
        boolean ((map entries).contains entry.1) := rfl
    rw [called, contains, get?_of_mem_entries formed member, Option.isSome_some, Bool.or_true]
  case loops =>
    rintro limit depth store key name source body empty rfl
    simp only [ne_eq, zero]
    exact ⟨store.get?_enter key name, fun text => Node.render_loop_eq_ok_iff,
      fun failure => Node.render_loop_eq_error_iff⟩

/-- A map with an integer and its text as keys, and an array: a loop over the map writes its entries
in order, with its other branch left out. -/
theorem Value.seen_alike_sample :
    let collection := map [(integer 1, string "a"), (string "1", string "b"),
      (string "2", string "c")]
    let body := [Node.output (.name "k"), .literal "=", .output (.name "v"), .literal ";"]
    collection.IsCollection ∧ (∀ entry ∈ collection.entries, same (integer 2) entry.1 = false) ∧
      collection.get? (integer 1) = some (string "a") ∧
      collection.get? (string "1") = some (string "b") ∧
      collection.get? (integer 2) = some (string "c") ∧
      Builtin.keys.call [collection] = array [integer 1, string "1", string "2"] ∧
      Builtin.has.call [collection, string "1"] = boolean true ∧
      Builtin.last.call [collection] = string "c" ∧
      (Node.loop (some "k") "v" (.literal collection) body [.literal "none"]).render 1 0 .empty =
        .ok "1=a;1=b;2=c;" := by
  intro collection body
  have formed : collection.IsCollection := ⟨.inl ⟨_, rfl⟩, by decide +kernel, by decide⟩
  have new : ∀ entry ∈ collection.entries, same (integer 2) entry.1 = false := by decide +kernel
  obtain ⟨-, keys, -, -, last, -, reached, fallback, loops⟩ := seen_alike formed
  obtain ⟨-, written, -⟩ := loops 1 0 .empty (some "k") "v" (.literal collection) body
    [.literal "none"] rfl
  have first := reached (integer 1, string "a") (.head _)
  have second := reached (string "1", string "b") (.tail _ (.head _))
  have text : integerText 2 = "2" := by decide +kernel
  have filled : Builtin.len.call [collection] ≠ integer 0 :=
    fun same => absurd (integer.inj same) (by decide)
  refine ⟨formed, new, first.1, second.1, ?_, keys, second.2 ⟨_, rfl⟩, last, ?_⟩
  · exact (fallback (integer 2) new (string "c")).mpr
      ⟨2, rfl, text ▸ .tail _ (.tail _ (.head _))⟩
  · refine (written _).mpr ⟨Nat.one_pos, .inr ⟨filled, ["1=a;", "1=b;", "2=c;"], ?_, by decide⟩⟩
    exact .cons (by rfl) (.cons (by rfl) (.cons (by rfl) .nil))

end Stencil
