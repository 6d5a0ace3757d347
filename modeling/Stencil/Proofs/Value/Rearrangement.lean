import Mathlib.Data.List.Forall2
import Mathlib.Data.List.Perm.Basic
import Stencil.Value.Basic

/-!
# Rearranged maps

Two values may differ in nothing but the order of the entries of maps, in themselves or at any
depth, keys included. This relation is said here by itself, and it is an equivalence on all values.
-/

namespace Stencil

/-! ## Rows of related items -/

section

variable {α β γ : Type}

/-- Related rows hold for every item of the first an item of the second that is related to it. -/
theorem exists_of_forall₂ {Related : α → β → Prop} {lefts : List α} {rights : List β}
    (related : List.Forall₂ Related lefts rights) {left : α} (member : left ∈ lefts) :
    ∃ right ∈ rights, Related left right := by
  induction related with
  | nil => cases member
  | @cons first second firsts seconds here others ih =>
    rcases List.mem_cons.mp member with rfl | later
    · exact ⟨second, List.mem_cons_self, here⟩
    · obtain ⟨right, inside, also⟩ := ih later
      exact ⟨right, List.mem_cons_of_mem second inside, also⟩

/-- Rows are related item by item to those that the items of a related row are related to. -/
theorem forall₂_trans {Related : β → γ → Prop} {Composed : α → γ → Prop} {lefts : List α}
    {middles : List β} {rights : List γ}
    (first : List.Forall₂ (fun left middle => ∀ right, Related middle right → Composed left right)
      lefts middles) (second : List.Forall₂ Related middles rights) :
    List.Forall₂ Composed lefts rights := by
  induction first generalizing rights with
  | nil =>
    cases second
    exact .nil
  | cons here others ih =>
    cases second with
    | cons there later => exact .cons (here _ there) (ih later)

/-- Two relations that agree on the items of two rows relate the rows alike. -/
theorem forall₂_congr_of_mem {First Second : α → β → Prop} {lefts : List α} {rights : List β}
    (agree : ∀ left ∈ lefts, ∀ right ∈ rights, (First left right ↔ Second left right)) :
    List.Forall₂ First lefts rights ↔ List.Forall₂ Second lefts rights := by
  rw [List.forall₂_iff_zip, List.forall₂_iff_zip]
  refine and_congr_right fun _ => ⟨fun all left right pair => ?_, fun all left right pair => ?_⟩
  · obtain ⟨here, there⟩ := List.of_mem_zip pair
    exact (agree left here right there).mp (all pair)
  · obtain ⟨here, there⟩ := List.of_mem_zip pair
    exact (agree left here right there).mpr (all pair)

/-- Rows related item by item are related as well by what follows for each item of the first. -/
theorem forall₂_imp_of_mem {First Second : α → β → Prop} {lefts : List α} {rights : List β}
    (follows : ∀ left ∈ lefts, ∀ right, First left right → Second left right)
    (related : List.Forall₂ First lefts rights) : List.Forall₂ Second lefts rights :=
  ((List.forall₂_and_left lefts rights).mpr ⟨follows, related⟩).imp
    fun _ right both => both.1 right both.2

/-- When every item of a row has a related one in a row of the same length, and no two items have
the same one, the second row can be put in the order of the first. -/
theorem exists_perm_forall₂ {Related : α → β → Prop} {lefts : List α} {rights : List β}
    (each : ∀ left ∈ lefts, ∃ right ∈ rights, Related left right)
    (apart : lefts.Pairwise fun first second =>
      ∀ right, ¬(Related first right ∧ Related second right))
    (lengths : lefts.length = rights.length) :
    ∃ reordered, reordered.Perm rights ∧ List.Forall₂ Related lefts reordered := by
  induction lefts generalizing rights with
  | nil =>
    obtain rfl := List.length_eq_zero_iff.mp lengths.symm
    exact ⟨[], .refl _, .nil⟩
  | cons first others ih =>
    obtain ⟨here, rest⟩ := List.forall_mem_cons.mp each
    obtain ⟨alone, othersApart⟩ := List.pairwise_cons.mp apart
    obtain ⟨right, member, related⟩ := here
    obtain ⟨front, back, rfl⟩ := List.append_of_mem member
    have moved : (front ++ right :: back).Perm (right :: (front ++ back)) := List.perm_middle
    have remaining : ∀ left ∈ others, ∃ other ∈ front ++ back, Related left other := by
      intro left inside
      obtain ⟨other, found, also⟩ := rest left inside
      rcases List.mem_cons.mp (moved.mem_iff.mp found) with rfl | kept
      · exact absurd ⟨related, also⟩ (alone left inside other)
      · exact ⟨other, kept, also⟩
    have shorter : others.length = (front ++ back).length := by
      simpa using lengths.trans moved.length_eq
    obtain ⟨reordered, perm, all⟩ := ih remaining othersApart shorter
    exact ⟨right :: reordered, (perm.cons right).trans moved.symm, .cons related all⟩

end

namespace Value

/-! ## Induction on values -/

/-- Whether a value has no parts. -/
def isSimple : Value → Bool
  | array _ | map _ => false
  | _ => true

/-- To prove something of all values, prove it of values without parts, of arrays from their items
and of maps from their keys and values. -/
@[elab_as_elim]
theorem induction {motive : Value → Prop} (simple : ∀ value, value.isSimple = true → motive value)
    (array : ∀ items, (∀ item ∈ items, motive item) → motive (array items))
    (map : ∀ entries : Entries, (∀ entry ∈ entries, motive entry.1 ∧ motive entry.2) →
      motive (map entries)) (value : Value) : motive value :=
  @Value.rec motive (fun items => ∀ item ∈ items, motive item)
    (fun entries => ∀ entry ∈ entries, motive entry.1 ∧ motive entry.2)
    (fun entry => motive entry.1 ∧ motive entry.2)
    (simple _ rfl) (fun _ => simple _ rfl) (fun _ => simple _ rfl) (fun _ => simple _ rfl)
    (fun _ => simple _ rfl) (fun _ => simple _ rfl) array map
    (List.forall_mem_nil _) (fun _ _ first others => List.forall_mem_cons.mpr ⟨first, others⟩)
    (List.forall_mem_nil _) (fun _ _ first others => List.forall_mem_cons.mpr ⟨first, others⟩)
    (fun _ _ key value => ⟨key, value⟩) value

/-! ## The relation -/

mutual

/-- Whether two values differ at most in the order of the entries of maps, at any depth. -/
def Rearranged : Value → Value → Prop
  | array lefts, array rights => ItemsRearranged lefts rights
  | map lefts, map rights => ∃ reordered, reordered.Perm rights ∧ EntriesRearranged lefts reordered
  | left, right => left = right

/-- Whether values in a row differ at most in the order of the entries of maps. -/
def ItemsRearranged : List Value → List Value → Prop
  | [], [] => True
  | left :: lefts, right :: rights => Rearranged left right ∧ ItemsRearranged lefts rights
  | _, _ => False

/-- Whether entries in a row differ at most in the order of the entries of maps in them. -/
def EntriesRearranged : List (Value × Value) → List (Value × Value) → Prop
  | [], [] => True
  | (key, value) :: lefts, (other, content) :: rights =>
    (Rearranged key other ∧ Rearranged value content) ∧ EntriesRearranged lefts rights
  | _, _ => False

end

/-- Whether two entries differ at most in the order of the entries of maps in them. -/
def EntryRearranged (left right : Value × Value) : Prop :=
  Rearranged left.1 right.1 ∧ Rearranged left.2 right.2

/-- A value without parts is rearranged only as itself. -/
theorem rearranged_of_isSimple {left : Value} (simple : left.isSimple = true) (right : Value) :
    Rearranged left right ↔ left = right := by
  cases left with
  | array items => cases simple
  | map entries => cases simple
  | null | boolean | integer | float | string | bytes => rw [Rearranged] <;> nofun

/-- Values in a row are rearranged one by one. -/
theorem itemsRearranged_iff {lefts rights : List Value} :
    ItemsRearranged lefts rights ↔ List.Forall₂ Rearranged lefts rights := by
  induction lefts generalizing rights with
  | nil => cases rights <;> simp [ItemsRearranged]
  | cons left lefts ih => cases rights <;> simp [ItemsRearranged, ih]

/-- Entries in a row are rearranged one by one. -/
theorem entriesRearranged_iff {lefts rights : Entries} :
    EntriesRearranged lefts rights ↔ List.Forall₂ EntryRearranged lefts rights := by
  induction lefts generalizing rights with
  | nil => cases rights <;> simp [EntriesRearranged]
  | cons left lefts ih => cases rights <;> simp [EntriesRearranged, EntryRearranged, ih]

/-- An array is rearranged as an array, item by item. -/
theorem rearranged_array_iff {lefts : List Value} {right : Value} :
    Rearranged (array lefts) right ↔
      ∃ rights, right = array rights ∧ List.Forall₂ Rearranged lefts rights := by
  cases right with
  | array rights => simp [Rearranged, itemsRearranged_iff]
  | null | boolean | integer | float | string | bytes | map => simp [Rearranged]

/-- A map is rearranged as a map, whose entries are those of the first one in another order. -/
theorem rearranged_map_iff {lefts : Entries} {right : Value} :
    Rearranged (map lefts) right ↔ ∃ rights reordered, right = map rights ∧
      reordered.Perm rights ∧ List.Forall₂ EntryRearranged lefts reordered := by
  cases right with
  | map rights => simp [Rearranged, entriesRearranged_iff]
  | null | boolean | integer | float | string | bytes | array => simp [Rearranged]

namespace Rearranged

/-- Every value is a rearrangement of itself. -/
theorem refl (value : Value) : Rearranged value value := by
  induction value using Value.induction with
  | simple value simple => exact (rearranged_of_isSimple simple value).mpr rfl
  | array items each => exact rearranged_array_iff.mpr ⟨items, rfl, List.forall₂_same.mpr each⟩
  | map entries each =>
    exact rearranged_map_iff.mpr ⟨entries, entries, rfl, .refl entries, List.forall₂_same.mpr each⟩

/-- A value is a rearrangement of its rearrangements. -/
theorem symm {left right : Value} (rearranged : Rearranged left right) :
    Rearranged right left := by
  induction left using Value.induction generalizing right with
  | simple left simple =>
    obtain rfl := (rearranged_of_isSimple simple right).mp rearranged
    exact rearranged
  | array lefts each =>
    obtain ⟨rights, rfl, all⟩ := rearranged_array_iff.mp rearranged
    have reversed : List.Forall₂ (flip Rearranged) lefts rights :=
      forall₂_imp_of_mem (fun left member _ => each left member) all
    exact rearranged_array_iff.mpr ⟨lefts, rfl, reversed.flip⟩
  | map lefts each =>
    obtain ⟨rights, reordered, rfl, perm, all⟩ := rearranged_map_iff.mp rearranged
    have reversed : List.Forall₂ (flip EntryRearranged) lefts reordered :=
      forall₂_imp_of_mem (fun left member _ both =>
        ⟨(each left member).1 both.1, (each left member).2 both.2⟩) all
    -- the entries of the first map are brought into the order of the second one
    obtain ⟨moved, same, back⟩ := List.perm_comp_forall₂ perm.symm reversed.flip
    exact rearranged_map_iff.mpr ⟨lefts, moved, rfl, back, same⟩

/-- A rearrangement of a rearrangement of a value is one of the value. -/
theorem trans {left middle right : Value} (first : Rearranged left middle)
    (second : Rearranged middle right) : Rearranged left right := by
  induction left using Value.induction generalizing middle right with
  | simple left simple =>
    obtain rfl := (rearranged_of_isSimple simple middle).mp first
    exact second
  | array lefts each =>
    obtain ⟨middles, rfl, here⟩ := rearranged_array_iff.mp first
    obtain ⟨rights, rfl, there⟩ := rearranged_array_iff.mp second
    have onwards : List.Forall₂ (fun left middle => ∀ right, Rearranged middle right →
        Rearranged left right) lefts middles :=
      forall₂_imp_of_mem (fun left member _ related _ => each left member related) here
    exact rearranged_array_iff.mpr ⟨rights, rfl, forall₂_trans onwards there⟩
  | map lefts each =>
    obtain ⟨middles, reordered, rfl, perm, here⟩ := rearranged_map_iff.mp first
    obtain ⟨rights, other, rfl, otherPerm, there⟩ := rearranged_map_iff.mp second
    have onwards : List.Forall₂ (fun left middle => ∀ right, EntryRearranged middle right →
        EntryRearranged left right) lefts reordered :=
      forall₂_imp_of_mem (fun left member _ both _ after =>
        ⟨(each left member).1 both.1 after.1, (each left member).2 both.2 after.2⟩) here
    -- the order of the second step is taken over before the two steps are joined
    obtain ⟨moved, later, back⟩ := List.perm_comp_forall₂ perm there
    exact rearranged_map_iff.mpr
      ⟨rights, moved, rfl, back.trans otherPerm, forall₂_trans onwards later⟩

end Rearranged

end Value

end Stencil
