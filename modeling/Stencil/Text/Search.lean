/-!
# Searching a text

Finding, splitting at and replacing a fixed piece of text. The first occurrence always wins, and
an empty piece occurs before every character and at the end.
-/

namespace Stencil.Text

/-- What follows a piece, when the text starts with it. -/
def dropPrefix? : List Char → List Char → Option (List Char)
  | [], text => some text
  | _ :: _, [] => none
  | first :: piece, character :: text =>
    if first = character then dropPrefix? piece text else none

/-- What stands before the first occurrence of a piece and what stands after it. -/
def splitFirst? (piece : List Char) : List Char → Option (List Char × List Char)
  | [] => if piece.isEmpty then some ([], []) else none
  | character :: rest =>
    match dropPrefix? piece (character :: rest) with
    | some after => some ([], after)
    | none => (splitFirst? piece rest).map fun (before, after) => (character :: before, after)

/-- Whether a piece occurs in a text. -/
def occursIn (piece text : List Char) : Bool := (splitFirst? piece text).isSome

/-- The text without a piece at its end, when it ends in that piece. -/
def dropSuffix? (piece text : List Char) : Option (List Char) :=
  (dropPrefix? piece.reverse text.reverse).map List.reverse

/-- Replace every occurrence of a nonempty piece, from the left and without overlap; `skip`
counts the characters of an occurrence that are still to be passed over. -/
def replaceFrom (piece replacement : List Char) : Nat → List Char → List Char
  | _, [] => []
  | skip + 1, _ :: rest => replaceFrom piece replacement skip rest
  | 0, character :: rest =>
    if (dropPrefix? piece (character :: rest)).isSome then
      replacement ++ replaceFrom piece replacement (piece.length - 1) rest
    else character :: replaceFrom piece replacement 0 rest

/-- Replace every occurrence of a piece; an empty piece stands before every character and at the
end. -/
def replaceAll (piece replacement text : List Char) : List Char :=
  if piece.isEmpty then replacement ++ text.flatMap fun character => character :: replacement
  else replaceFrom piece replacement 0 text

/-- A text starts with a piece exactly when it is the piece and what follows it. -/
theorem dropPrefix?_eq_some_iff {piece text after : List Char} :
    dropPrefix? piece text = some after ↔ text = piece ++ after := by
  induction piece generalizing text with
  | nil => simp [dropPrefix?]
  | cons first piece ih =>
    cases text with
    | nil => simp [dropPrefix?]
    | cons character text =>
      simp only [dropPrefix?, List.cons_append, List.cons.injEq]
      split
      · rename_i same
        simp [ih, same]
      · rename_i other
        simp [Ne.symm other]

/-- A split gives back its text around the piece. -/
theorem eq_of_splitFirst? {piece text before after : List Char}
    (found : splitFirst? piece text = some (before, after)) :
    text = before ++ piece ++ after := by
  induction text generalizing before with
  | nil =>
    unfold splitFirst? at found
    split at found
    · rename_i empty
      simp_all
    · cases found
  | cons character rest ih =>
    unfold splitFirst? at found
    split at found
    · rename_i tail matched
      cases found
      simpa using dropPrefix?_eq_some_iff.mp matched
    · cases later : splitFirst? piece rest with
      | none => simp [later] at found
      | some split =>
        obtain ⟨earlier, tail⟩ := split
        simp only [later, Option.map_some, Option.some.injEq, Prod.mk.injEq] at found
        obtain ⟨rfl, rfl⟩ := found
        rw [ih later]
        simp

/-- What follows a nonempty piece is shorter than the text. -/
theorem length_of_splitFirst? {piece text before after : List Char} (nonempty : piece ≠ [])
    (found : splitFirst? piece text = some (before, after)) : after.length < text.length := by
  have whole := eq_of_splitFirst? found
  have positive := List.length_pos_iff.mpr nonempty
  have lengths := congrArg List.length whole
  simp only [List.length_append] at lengths
  omega

end Stencil.Text
