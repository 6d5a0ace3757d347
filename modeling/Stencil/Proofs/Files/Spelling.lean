import Stencil.Files.Tree
import Stencil.Proofs.Outcome

/-!
# Spellings of paths

Paths with the same components are spelled differently where they have idle pieces: doubled slashes
and dots between slashes, which lead nowhere. An idle piece in front of another piece makes no
difference to a file tree, but behind the last name it asks for a folder. So of the spellings of a
path to a file, exactly those can be read that end in their last name and are not too long.
-/

namespace Stencil

namespace Path

/-- The pieces that lead somewhere. -/
def steps (path : Path) : List (List Char) :=
  (splitSlashes path.text.toList).filter fun piece => !isIdle piece

/-- Whether a path ends in a slash or in a dot between slashes, so that it names no file. -/
def endsIdle (path : Path) : Bool := (splitSlashes path.text.toList).getLast?.any isIdle

/-- The piece that a component is written as, apart from the start of a path. -/
def pieceOf : PathComponent → Option (List Char)
  | .root => none
  | .here => none
  | .parent => some ['.', '.']
  | .name text => some text.toList

/-- The component of a piece is written as that piece. -/
theorem pieceOf_pieceComponent (piece : List Char) :
    pieceOf (pieceComponent piece) = some piece := by
  unfold pieceComponent
  split
  · rename_i dots
    rw [dots, pieceOf]
  · rw [pieceOf, String.toList_ofList]

/-- The components of pieces are written as those pieces. -/
theorem filterMap_pieceOf (pieces : List (List Char)) :
    (pieces.map pieceComponent).filterMap pieceOf = pieces := by
  induction pieces with
  | nil => rfl
  | cons piece rest ih =>
    rw [List.map_cons, List.filterMap_cons_some (pieceOf_pieceComponent piece), ih]

/-- A piece is no root. -/
theorem pieceComponent_ne_root (piece : List Char) : pieceComponent piece ≠ .root := by
  unfold pieceComponent
  split <;> nofun

/-- A slash in front of a text sets an empty piece off. -/
theorem splitSlashes_slash (rest : List Char) :
    splitSlashes ('/' :: rest) = [] :: splitSlashes rest := if_pos rfl

/-- A dot in front of a slash is a piece. -/
theorem splitSlashes_dot (rest : List Char) :
    splitSlashes ('.' :: '/' :: rest) = ['.'] :: splitSlashes rest := by
  rw [splitSlashes, if_neg (by decide), splitSlashes_slash]

/-- The components of a path are those of its start and those of the pieces that lead somewhere. -/
theorem components_eq (path : Path) :
    path.components =
      startComponents (splitStart path.text.toList).1 ++ path.steps.map pieceComponent := by
  rw [components, steps]
  generalize path.text.toList = text
  fun_cases splitStart text with
  | case1 rest => simp [splitSlashes_slash, isIdle]
  | case2 => rfl
  | case3 rest => simp [splitSlashes_slash, splitSlashes_dot, isIdle]
  | case4 text => rfl

/-- The pieces that lead somewhere can be told from the components. -/
theorem steps_eq (path : Path) : path.steps = path.components.filterMap pieceOf := by
  rw [components_eq, List.filterMap_append, filterMap_pieceOf]
  unfold startComponents
  split <;> rfl

/-- Whether a path starts at the root can be told from the components. -/
theorem isAbsolute_iff (path : Path) : path.isAbsolute = true ↔ .root ∈ path.components := by
  have fromStart : .root ∈ path.components ↔
      .root ∈ startComponents (splitStart path.text.toList).1 := by
    rw [components_eq, List.mem_append, or_iff_left]
    simp only [List.mem_map, not_exists, not_and]
    exact fun piece _ => pieceComponent_ne_root piece
  rw [fromStart, isAbsolute, decide_eq_true_iff]
  generalize path.text.toList = text
  fun_cases splitStart text with
  | case1 rest => simp [startComponents]
  | case2 => simp [startComponents]
  | case3 rest => simp [startComponents]
  | case4 text noSlash =>
    refine iff_of_false (fun starts => ?_) (List.not_mem_nil)
    obtain ⟨rest, rfl⟩ := List.head?_eq_some_iff.mp starts
    exact noSlash rest rfl

/-- Paths with the same components have the same pieces that lead somewhere and start alike. -/
theorem same_of_components_eq {path other : Path} (same : other.components = path.components) :
    other.steps = path.steps ∧ other.isAbsolute = path.isAbsolute := by
  constructor
  · rw [steps_eq, steps_eq, same]
  · rw [Bool.eq_iff_iff, isAbsolute_iff, isAbsolute_iff, same]

/-- The pieces of a text hold all its characters other than slashes. -/
theorem flatten_splitSlashes (text : List Char) :
    (splitSlashes text).flatten = text.filter fun character => character ≠ '/' := by
  induction text with
  | nil => rfl
  | cons first rest ih =>
    by_cases slash : first = '/'
    · rw [slash, splitSlashes_slash, List.flatten_cons, ih]
      rfl
    · obtain ⟨piece, pieces, split⟩ := List.exists_cons_of_ne_nil (splitSlashes_ne_nil rest)
      rw [split, List.flatten_cons] at ih
      rw [splitSlashes, if_neg slash, split, List.flatten_cons, List.cons_append, ih,
        List.filter_cons_of_pos (by simpa using slash)]

/-- A character of code zero stands in a piece that leads somewhere. -/
theorem zero_mem_iff (path : Path) :
    '\x00' ∈ path.text.toList ↔ ∃ piece ∈ path.steps, '\x00' ∈ piece := by
  have inPieces : '\x00' ∈ path.text.toList ↔
      '\x00' ∈ (splitSlashes path.text.toList).flatten := by
    rw [flatten_splitSlashes, List.mem_filter]
    exact (and_iff_left (by decide)).symm
  rw [inPieces, List.mem_flatten]
  constructor
  · rintro ⟨piece, member, inside⟩
    refine ⟨piece, List.mem_filter.mpr ⟨member, ?_⟩, inside⟩
    have notEmpty : piece ≠ [] := List.ne_nil_of_mem inside
    have notDot : piece ≠ ['.'] := by
      rintro rfl
      exact absurd (List.mem_singleton.mp inside) (by decide)
    simp [isIdle, notEmpty, notDot]
  · rintro ⟨piece, member, inside⟩
    exact ⟨piece, (List.mem_filter.mp member).1, inside⟩

end Path

namespace FileTree

/-- An idle piece stays where it is, and that must be a folder. -/
theorem follow_idle (tree : FileTree) (location : Location) {piece : List Char}
    (idle : Path.isIdle piece = true) (rest : List String) :
    tree.follow location (String.ofList piece :: rest) =
      match tree.item? location with
      | none => .error .missing
      | some (.file _) => .error .notFolder
      | some .folder => tree.follow location rest := by
  have named : (String.ofList piece = "" || String.ofList piece = ".") = true := by
    rw [Path.isIdle, Bool.or_eq_true, decide_eq_true_iff, decide_eq_true_iff] at idle
    rcases idle with rfl | rfl <;> rfl
  rw [follow]
  cases tree.item? location with
  | none => rfl
  | some item =>
    cases item with
    | file content => rfl
    | folder => exact if_pos named

/-- An idle piece in front of another piece makes no difference. -/
theorem follow_idle_cons (tree : FileTree) (location : Location) {piece : List Char}
    (idle : Path.isIdle piece = true) (next : String) (rest : List String) :
    tree.follow location (String.ofList piece :: next :: rest) =
      tree.follow location (next :: rest) := by
  rw [follow_idle tree location idle]
  cases known : tree.item? location with
  | none => rw [follow, known]
  | some item =>
    cases item with
    | file content => rw [follow, known]
    | folder => rfl

/-- Two ways on from everywhere alike are alike behind one more piece. -/
theorem follow_cons_congr (tree : FileTree) (location : Location) (piece : String)
    {rest other : List String}
    (same : ∀ location, tree.follow location rest = tree.follow location other) :
    tree.follow location (piece :: rest) = tree.follow location (piece :: other) := by
  rw [follow, follow]
  simp only [same]

/-- Pieces lead where those of them lead that are not idle, unless the last one is idle. -/
theorem follow_filter (tree : FileTree) (location : Location) (pieces : List (List Char))
    (named : pieces.getLast?.any Path.isIdle = false) :
    tree.follow location (pieces.map String.ofList) =
      tree.follow location ((pieces.filter fun piece => !Path.isIdle piece).map String.ofList) := by
  induction pieces generalizing location with
  | nil => rfl
  | cons piece rest ih =>
    cases rest with
    | nil =>
      have busy : Path.isIdle piece = false := named
      rw [List.filter_cons_of_pos (by simpa using busy)]
      rfl
    | cons next others =>
      have later (location : Location) := ih location named
      by_cases idle : Path.isIdle piece = true
      · rw [List.filter_cons_of_neg (by simpa using idle), List.map_cons, List.map_cons,
          follow_idle_cons tree location idle, ← List.map_cons]
        exact later location
      · rw [List.filter_cons_of_pos (by simpa using idle), List.map_cons, List.map_cons]
        exact follow_cons_congr tree location _ later

/-- Pieces behind a first one lead on from some location. -/
theorem follow_of_follow_cons {tree : FileTree} {location found : Location} {piece : String}
    {rest : List String} (leads : tree.follow location (piece :: rest) = .ok found) :
    ∃ next, tree.follow next rest = .ok found := by
  rw [follow] at leads
  split at leads
  · cases leads
  · cases leads
  · split at leads
    · exact ⟨_, leads⟩
    · split at leads
      · exact ⟨_, leads⟩
      · split at leads
        · cases leads
        · cases leads
        · exact ⟨_, leads⟩

/-- Pieces of which the last one is idle lead to nothing but folders. -/
theorem item?_of_follow_idle {tree : FileTree} {location found : Location}
    {pieces : List (List Char)} (idle : pieces.getLast?.any Path.isIdle = true)
    (leads : tree.follow location (pieces.map String.ofList) = .ok found) :
    tree.item? found = some .folder := by
  induction pieces generalizing location with
  | nil => cases idle
  | cons piece rest ih =>
    cases rest with
    | nil =>
      have stays : Path.isIdle piece = true := idle
      rw [List.map_singleton, follow_idle tree location stays] at leads
      split at leads
      · cases leads
      · cases leads
      · rename_i folder
        cases leads
        exact folder
    | cons next others =>
      obtain ⟨middle, leads⟩ := follow_of_follow_cons leads
      exact ih idle leads

/-- A path can name a file when it ends in its last name and is not too long. -/
def canNameFile (path : Path) : Bool := !path.endsIdle && path.text.utf8ByteSize < pathLimit

/-- A path can be followed when it is not empty, not too long and has no character of code zero. -/
theorem checkPath_eq_ok_iff (path : Path) :
    checkPath path = .ok () ↔ '\x00' ∉ path.text.toList ∧ path.text ≠ "" ∧
      path.text.utf8ByteSize < pathLimit := by
  rw [checkPath]
  by_cases zero : '\x00' ∈ path.text.toList
  · rw [if_pos (List.contains_iff_mem.mpr zero)]
    simp [zero]
  · rw [if_neg (fun found => zero (List.contains_iff_mem.mp found))]
    by_cases empty : path.text = ""
    · rw [empty]
      simp
    · rw [if_neg (fun found => empty (String.isEmpty_iff.mp found))]
      by_cases long : pathLimit ≤ path.text.utf8ByteSize
      · rw [if_pos long]
        simp [Nat.not_lt.mpr long]
      · rw [if_neg long]
        simp [zero, empty, Nat.not_le.mp long]

/-- A path that can be read can name a file. -/
theorem canNameFile_of_read {tree : FileTree} {path : Path} {content : ByteArray}
    (read : tree.read path = .ok content) : canNameFile path = true := by
  obtain ⟨location, located, holds⟩ := bind_eq_ok_iff.mp read
  obtain ⟨⟨⟩, checked, leads⟩ := bind_eq_ok_iff.mp located
  have short := ((checkPath_eq_ok_iff path).mp checked).2.2
  have named : path.endsIdle = false := by
    cases idle : path.endsIdle with
    | false => rfl
    | true =>
      rw [item?_of_follow_idle idle leads] at holds
      cases holds
  rw [canNameFile, named, decide_eq_true short]
  rfl

/-- Of the spellings of a path to a file, those can be read that can name a file. -/
theorem read_eq_ok_iff_of_components_eq {tree : FileTree} {path other : Path}
    {content : ByteArray} (same : other.components = path.components)
    (read : tree.read path = .ok content) :
    tree.read other = .ok content ↔ canNameFile other = true := by
  refine ⟨canNameFile_of_read, fun can => ?_⟩
  have pathNamed := (Bool.and_eq_true_iff.mp (canNameFile_of_read read)).1
  rw [Bool.not_eq_true'] at pathNamed
  rw [canNameFile, Bool.and_eq_true, Bool.not_eq_true', decide_eq_true_iff] at can
  obtain ⟨named, short⟩ := can
  obtain ⟨steps, absolute⟩ := Path.same_of_components_eq same
  obtain ⟨location, located, holds⟩ := bind_eq_ok_iff.mp read
  obtain ⟨⟨⟩, checked, leads⟩ := bind_eq_ok_iff.mp located
  have noZero : '\x00' ∉ other.text.toList := by
    rw [Path.zero_mem_iff, steps, ← Path.zero_mem_iff]
    exact ((checkPath_eq_ok_iff path).mp checked).1
  have notEmpty : other.text ≠ "" := by
    intro empty
    rw [Path.endsIdle, empty] at named
    cases named
  have otherChecked : checkPath other = .ok () :=
    (checkPath_eq_ok_iff other).mpr ⟨noZero, notEmpty, short⟩
  have otherLeads : tree.follow (tree.start other) other.pieces = .ok location := by
    rw [Path.pieces, follow_filter tree _ _ named]
    rw [Path.pieces, follow_filter tree _ _ pathNamed] at leads
    rw [start, absolute]
    rw [start] at leads
    exact (congrArg (fun pieces => tree.follow _ (pieces.map String.ofList)) steps).trans leads
  have otherLocated : tree.locate other = .ok location :=
    bind_eq_ok_iff.mpr ⟨(), otherChecked, otherLeads⟩
  exact bind_eq_ok_iff.mpr ⟨location, otherLocated, holds⟩

end FileTree

end Stencil
