/-!
# Bounds

Where a part of a row starts and where it stops. Indices are words of sixty-four bits. Both bounds
are cut off at the end of the row, and so no index of a part lies outside of the row, whatever
index and number of elements the part is asked for with.
-/

namespace Stencil

/-- The sum of two words, or the greatest word when the sum does not fit one. -/
def saturatingAdd (left right : UInt64) : UInt64 :=
  if left.toNat + right.toNat < UInt64.size then left + right else 18446744073709551615

/-- A sum is cut off at the greatest word. -/
theorem toNat_saturatingAdd (left right : UInt64) :
    (saturatingAdd left right).toNat = min (left.toNat + right.toNat) 18446744073709551615 := by
  have size : UInt64.size = 18446744073709551616 := rfl
  unfold saturatingAdd
  split
  next fits =>
    rw [UInt64.toNat_add, Nat.mod_eq_of_lt fits]
    omega
  next =>
    have greatest : (18446744073709551615 : UInt64).toNat = 18446744073709551615 := rfl
    omega

/-- The lesser of two words is the lesser one as a natural number. -/
theorem toNat_min (left right : UInt64) :
    (min left right).toNat = min left.toNat right.toNat := by
  show (if left ≤ right then left else right).toNat = _
  by_cases order : left ≤ right
  · have lesser : left.toNat ≤ right.toNat := UInt64.le_iff_toNat_le.mp order
    rw [if_pos order, Nat.min_eq_left lesser]
  · have greater : ¬left.toNat ≤ right.toNat := fun lesser =>
      order (UInt64.le_iff_toNat_le.mpr lesser)
    rw [if_neg order]
    omega

/-- Two indices in a row of some length: where a part of the row starts and where it stops. -/
structure Bounds (length : Nat) where
  /-- The index of the first element. -/
  start : UInt64
  /-- The index behind the last element. -/
  stop : UInt64
  /-- The part does not stop in front of its start. -/
  ordered : start ≤ stop
  /-- The part stops in the row. -/
  inside : stop.toNat ≤ length

namespace Bounds

variable {length : Nat}

/-- The bounds of the elements from an index on. -/
def startingAt (length : Nat) (index : UInt64) : Bounds length where
  start := min index (.ofNat length)
  stop := .ofNat length
  ordered := by
    rw [UInt64.le_iff_toNat_le, toNat_min]
    exact Nat.min_le_right _ _
  inside := by
    rw [UInt64.toNat_ofNat']
    exact Nat.mod_le _ _

/-- The bounds of at most so many of the elements. -/
def limit (bounds : Bounds length) (most : UInt64) : Bounds length where
  start := bounds.start
  stop := min (saturatingAdd bounds.start most) bounds.stop
  ordered := by
    have ordered : bounds.start.toNat ≤ bounds.stop.toNat :=
      UInt64.le_iff_toNat_le.mp bounds.ordered
    have fits := bounds.start.toNat_lt
    rw [UInt64.le_iff_toNat_le, toNat_min, toNat_saturatingAdd]
    omega
  inside := by
    have inside := bounds.inside
    rw [toNat_min]
    omega

/-- The elements of a row between the bounds. -/
def select {α : Type} (bounds : Bounds length) (row : List α) : List α :=
  (row.drop bounds.start.toNat).take (bounds.stop - bounds.start).toNat

end Bounds

end Stencil
