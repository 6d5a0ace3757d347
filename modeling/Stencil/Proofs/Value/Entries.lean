import Mathlib.Data.List.Basic
import Stencil.Value.Basic

/-!
# Entries of maps

Putting a value under a key keeps the keys of a map apart. Keys that are apart already are all
kept, in their order, when their entries are added one by one.
-/

namespace Stencil

/-- A fold that puts every new item at the end puts all items in their order, when each is new to
the ones in front of it. -/
theorem foldl_eq_append {α : Type} {Apart : α → α → Prop} {step : List α → α → List α}
    (appends : ∀ items item, (∀ earlier ∈ items, Apart earlier item) →
      step items item = items ++ [item]) {front items : List α}
    (apart : (front ++ items).Pairwise Apart) : items.foldl step front = front ++ items := by
  induction items generalizing front with
  | nil => exact (List.append_nil front).symm
  | cons item rest ih =>
    have new : ∀ earlier ∈ front, Apart earlier item := fun earlier member =>
      (List.pairwise_append.mp apart).2.2 earlier member item List.mem_cons_self
    rw [List.append_cons] at apart ⊢
    rw [List.foldl_cons, appends front item new]
    exact ih apart

namespace Value

/-- Whether the keys of entries are apart: none is the same as one in front of it. -/
def DistinctKeys (entries : Entries) : Prop :=
  entries.Pairwise fun earlier later => same later.1 earlier.1 = false

instance (entries : Entries) : Decidable (DistinctKeys entries) :=
  inferInstanceAs (Decidable (List.Pairwise _ entries))

/-- A new key comes behind the others. -/
theorem insert_of_new {key : Value} (value : Value) {entries : Entries}
    (new : ∀ entry ∈ entries, same key entry.1 = false) :
    insert key value entries = entries ++ [(key, value)] := by
  induction entries with
  | nil => rfl
  | cons entry rest ih =>
    obtain ⟨known, old⟩ := entry
    obtain ⟨here, others⟩ := List.forall_mem_cons.mp new
    rw [insert, if_neg (Bool.eq_false_iff.mp here), ih others, List.cons_append]

/-- An entry that is there after a value was put under a key was there before, or it has the value,
and as its key the given one or one that was there before. -/
theorem mem_insert {key value : Value} {entries : Entries} {entry : Value × Value}
    (member : entry ∈ insert key value entries) : entry ∈ entries ∨
      entry.2 = value ∧ (entry.1 = key ∨ ∃ old, (entry.1, old) ∈ entries) := by
  induction entries with
  | nil =>
    obtain rfl := List.mem_singleton.mp member
    exact .inr ⟨rfl, .inl rfl⟩
  | cons first rest ih =>
    obtain ⟨known, old⟩ := first
    rw [insert] at member
    split at member <;> rcases List.mem_cons.mp member with rfl | later
    · exact .inr ⟨rfl, .inr ⟨old, List.mem_cons_self⟩⟩
    · exact .inl (List.mem_cons_of_mem _ later)
    · exact .inl List.mem_cons_self
    · rcases ih later with kept | ⟨content, new | ⟨before, inside⟩⟩
      · exact .inl (List.mem_cons_of_mem _ kept)
      · exact .inr ⟨content, .inl new⟩
      · exact .inr ⟨content, .inr ⟨before, List.mem_cons_of_mem _ inside⟩⟩

/-- Keys that are apart stay so when a value is put under a key. -/
theorem DistinctKeys.insert {entries : Entries} (distinct : DistinctKeys entries)
    (key value : Value) : DistinctKeys (insert key value entries) := by
  induction entries with
  | nil => exact List.pairwise_singleton _ _
  | cons first rest ih =>
    obtain ⟨known, old⟩ := first
    obtain ⟨apart, others⟩ := List.pairwise_cons.mp distinct
    rw [Value.insert]
    split
    · exact List.pairwise_cons.mpr ⟨apart, others⟩
    next differs =>
      refine List.pairwise_cons.mpr ⟨fun later member => ?_, ih others⟩
      rcases mem_insert member with kept | ⟨-, new | ⟨before, inside⟩⟩
      · exact apart later kept
      · exact new ▸ Bool.eq_false_iff.mpr differs
      · exact apart (later.1, before) inside

/-- Entries whose keys are apart are all kept when they are added one by one. -/
theorem entriesOf_of_distinctKeys {pairs : Entries} (distinct : DistinctKeys pairs) :
    entriesOf pairs = pairs :=
  foldl_eq_append (fun _ pair new => insert_of_new pair.2 new) (List.nil_append pairs ▸ distinct)

end Value

end Stencil
