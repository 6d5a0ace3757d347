import Mathlib.Data.List.Basic
import Mathlib.Data.List.TakeWhile
import Mathlib.Logic.Relation
import Stencil.Proofs.Files.Spelling

/-!
# How file trees grow

A request that changes a file tree puts one thing where no folder stands, so every path leads where
it has led before. Making folders adds nothing but folders, which the path or one around it names.
Writing a file adds that file or takes the place of one, and changes nothing else.
-/

namespace Stencil

/-- Whether a path is the one around another, without its last component. -/
def Path.IsAround (outer inner : Path) : Prop := inner.parent? = some outer

/-- Whether a path names one of the folders around another. -/
def Path.Encloses : Path → Path → Prop := Relation.TransGen Path.IsAround

namespace FileTree

/-- Pieces in a row are followed one part after the other. -/
theorem follow_append (tree : FileTree) (location : Location) (first second : List String) :
    tree.follow location (first ++ second) =
      tree.follow location first >>= fun middle => tree.follow middle second := by
  induction first generalizing location with
  | nil => rfl
  | cons piece rest ih =>
    rw [List.cons_append, follow, follow]
    split
    · rfl
    · rfl
    · split
      · exact ih location
      · split
        · exact ih location.tail
        · split
          · rfl
          · rfl
          · exact ih (piece :: location)

/-- Empty pieces stay in a folder. -/
theorem follow_empty {tree : FileTree} {location : Location} {pieces : List String}
    (folder : tree.item? location = some .folder) (empty : ∀ piece ∈ pieces, piece = "") :
    tree.follow location pieces = .ok location := by
  induction pieces with
  | nil => rfl
  | cons piece rest ih =>
    rw [follow, folder, empty piece List.mem_cons_self]
    exact ih fun other member => empty other (List.mem_cons_of_mem piece member)

/-- An empty piece leads to a folder, which is where it starts. -/
theorem follow_empty_eq_ok_iff {tree : FileTree} {location found : Location} :
    tree.follow location [""] = .ok found ↔
      found = location ∧ tree.item? location = some .folder := by
  rw [follow]
  split
  · rename_i nothing
    simp [nothing]
  · rename_i content file
    simp [file]
  · rename_i folder
    rw [if_pos (by decide), follow, folder, and_iff_left rfl]
    exact ⟨fun same => (Except.ok.inj same).symm, fun same => congrArg Except.ok same.symm⟩

/-- A name leads from a folder to what has that name inside, if anything has. -/
theorem follow_name {tree : FileTree} {folder : Location} {name : String}
    (inFolder : tree.item? folder = some .folder)
    (leadsDown : name ≠ "" ∧ name ≠ "." ∧ name ≠ "..") (short : checkName name = .ok ())
    (rest : List String) :
    tree.follow folder (name :: rest) =
      match tree.item? (name :: folder) with
      | none => .error .missing
      | some _ => tree.follow (name :: folder) rest := by
  obtain ⟨filled, noDot, noDots⟩ := leadsDown
  rw [follow, inFolder]
  simp only [filled, noDot, noDots, short, decide_false, Bool.or_self, Bool.false_eq_true, if_false]
  cases tree.item? (name :: folder) <;> rfl

/-- Whether every path that leads somewhere in one tree leads there in another: relative paths
start from the same folder, folders are folders again, and where something stood something
stands. -/
structure KeepsWays (before after : FileTree) : Prop where
  /-- Relative paths start from the same folder. -/
  here : after.here = before.here
  /-- Folders stay folders. -/
  folders : ∀ location, before.item? location = some .folder →
    after.item? location = some .folder
  /-- Nothing goes away. -/
  stays : ∀ location, (before.item? location).isSome → (after.item? location).isSome

namespace KeepsWays

variable {before after : FileTree}

/-- A tree keeps its own ways. -/
theorem refl (tree : FileTree) : KeepsWays tree tree := ⟨rfl, fun _ => id, fun _ => id⟩

/-- Putting something where no folder stands keeps all ways. -/
theorem put {tree : FileTree} {target : Location} (item : FileItem)
    (noFolder : tree.item? target ≠ some .folder) : KeepsWays tree (tree.put target item) := by
  have inside : target ≠ [] := by
    rintro rfl
    exact noFolder rfl
  refine ⟨rfl, fun location folder => ?_, fun location stands => ?_⟩
  · have different : location ≠ target := by
      rintro rfl
      exact noFolder folder
    rw [item?_put_of_ne tree item different, folder]
  · by_cases same : location = target
    · rw [same, item?_put_self tree item inside]
      rfl
    · rwa [item?_put_of_ne tree item same]

/-- Pieces lead where they have led. -/
theorem follow (keeps : KeepsWays before after) {location found : Location}
    {pieces : List String} (leads : before.follow location pieces = .ok found) :
    after.follow location pieces = .ok found := by
  induction pieces generalizing location with
  | nil => exact leads
  | cons piece rest ih =>
    rw [FileTree.follow] at leads ⊢
    split at leads
    · cases leads
    · cases leads
    · rename_i folder
      rw [keeps.folders location folder]
      dsimp only
      split at leads
      · rename_i idle
        rw [if_pos idle]
        exact ih leads
      · rename_i busy
        rw [if_neg busy]
        split at leads
        · rename_i up
          rw [if_pos up]
          exact ih leads
        · rename_i down
          rw [if_neg down]
          split at leads
          · cases leads
          · cases leads
          · rename_i short item
            obtain ⟨other, there⟩ := Option.isSome_iff_exists.mp
              (keeps.stays (piece :: location) (by rw [item]; rfl))
            rw [short, there]
            exact ih leads

/-- A path leads where it has led. -/
theorem locate (keeps : KeepsWays before after) {path : Path} {location : Location}
    (located : before.locate path = .ok location) : after.locate path = .ok location := by
  obtain ⟨⟨⟩, checked, leads⟩ := bind_eq_ok_iff.mp located
  refine bind_eq_ok_iff.mpr ⟨(), checked, ?_⟩
  rw [start, keeps.here]
  exact keeps.follow leads

end KeepsWays

/-- Pieces are those without the empty ones at their end, and empty ones. -/
theorem exists_trimEmpty_append (pieces : List String) :
    ∃ empty, pieces = trimEmpty pieces ++ empty ∧ ∀ piece ∈ empty, piece = "" := by
  refine ⟨(pieces.reverse.takeWhile String.isEmpty).reverse, ?_, fun piece member => ?_⟩
  · rw [trimEmpty, ← List.reverse_append, List.takeWhile_append_dropWhile, List.reverse_reverse]
  · exact String.isEmpty_iff.mp (List.mem_takeWhile_imp (List.mem_reverse.mp member))

/-- The last piece is not empty when those at the end are left out. -/
theorem ne_empty_of_getLast?_trimEmpty {pieces : List String} {name : String}
    (last : (trimEmpty pieces).getLast? = some name) : name ≠ "" := by
  rw [trimEmpty, List.getLast?_reverse] at last
  have filled := List.head?_dropWhile_not String.isEmpty pieces.reverse
  rw [last] at filled
  rintro rfl
  cases filled

/-- How a path names a place for something new: its pieces lead to a folder, on to a name, and no
further. -/
structure Names (tree : FileTree) (path : Path) (place : Place) (outer empty : List String) :
    Prop where
  /-- The path can be followed. -/
  checked : checkPath path = .ok ()
  /-- The folder around the place is there. -/
  inFolder : tree.item? place.folder = some .folder
  /-- The name leads down. -/
  leadsDown : place.name ≠ "" ∧ place.name ≠ "." ∧ place.name ≠ ".."
  /-- The name is not too long. -/
  short : checkName place.name = .ok ()
  /-- The path is spelled with the name. -/
  whole : path.pieces = outer ++ place.name :: empty
  /-- The pieces in front of the name lead to the folder. -/
  leads : tree.follow (tree.start path) outer = .ok place.folder
  /-- The pieces behind the name are empty. -/
  blank : ∀ piece ∈ empty, piece = ""
  /-- Without a slash behind the name there are none. -/
  ends : place.slashed = false → empty = []

/-- A place is one that its path names. -/
theorem exists_names_of_place {tree : FileTree} {path : Path} {place : Place}
    (found : tree.place path = .ok (some place)) :
    ∃ outer empty, tree.Names path place outer empty := by
  obtain ⟨⟨⟩, checked, found⟩ := bind_eq_ok_iff.mp found
  dsimp only at found
  split at found
  · cases found
  · rename_i name last
    obtain ⟨folder, leads, found⟩ := bind_eq_ok_iff.mp found
    split at found
    · cases found
    · rename_i noDots
      obtain ⟨⟨⟩, short, same⟩ := bind_eq_ok_iff.mp found
      cases same
      rw [follow_append] at leads
      obtain ⟨middle, outward, idle⟩ := bind_eq_ok_iff.mp leads
      obtain ⟨rfl, stands⟩ := follow_empty_eq_ok_iff.mp idle
      obtain ⟨empty, whole, blank⟩ := exists_trimEmpty_append path.pieces
      have ending := List.dropLast_append_getLast? name last
      have plain : name ≠ "." ∧ name ≠ ".." := by simpa using noDots
      refine ⟨(trimEmpty path.pieces).dropLast, empty, checked, stands,
        ⟨ne_empty_of_getLast?_trimEmpty last, plain⟩, short, ?_, outward, blank, fun noSlash => ?_⟩
      · rw [← List.singleton_append, ← List.append_assoc, ending]
        exact whole
      · have lengths := congrArg List.length whole
        have noMore : ¬(trimEmpty path.pieces).length < path.pieces.length := by simpa using noSlash
        rw [List.length_append] at lengths
        exact List.eq_nil_of_length_eq_zero (by omega)

/-- Whether a name may stand in a folder. -/
structure IsName (name : String) : Prop where
  /-- It is a piece that leads down. -/
  leadsDown : name ≠ "" ∧ name ≠ "." ∧ name ≠ ".."
  /-- It has no slash. -/
  noSlash : '/' ∉ name.toList
  /-- It has no character of code zero. -/
  noZero : '\x00' ∉ name.toList
  /-- It is not too long. -/
  short : checkName name = .ok ()

instance (name : String) : Decidable (IsName name) :=
  decidable_of_iff ((name ≠ "" ∧ name ≠ "." ∧ name ≠ "..") ∧ '/' ∉ name.toList ∧
      '\x00' ∉ name.toList ∧ checkName name = .ok ())
    ⟨fun ⟨leadsDown, noSlash, noZero, short⟩ => ⟨leadsDown, noSlash, noZero, short⟩,
      fun ⟨leadsDown, noSlash, noZero, short⟩ => ⟨leadsDown, noSlash, noZero, short⟩⟩

/-- The name of a place may stand in a folder. -/
theorem isName_of_place {tree : FileTree} {path : Path} {place : Place}
    (found : tree.place path = .ok (some place)) : IsName place.name := by
  obtain ⟨outer, empty, names⟩ := exists_names_of_place found
  have member : place.name ∈ path.pieces := by
    rw [names.whole]
    exact List.mem_append_right outer List.mem_cons_self
  obtain ⟨piece, split, same⟩ := List.mem_map.mp member
  have inText (character : Char) (inside : character ∈ place.name.toList) :
      character ∈ path.text.toList ∧ character ≠ '/' := by
    rw [← same, String.toList_ofList] at inside
    have inPieces := List.mem_flatten.mpr ⟨piece, split, inside⟩
    rw [Path.flatten_splitSlashes, List.mem_filter] at inPieces
    exact ⟨inPieces.1, by simpa using inPieces.2⟩
  have noZero := ((checkPath_eq_ok_iff path).mp names.checked).1
  exact ⟨names.leadsDown, fun slash => (inText '/' slash).2 rfl,
    fun zero => noZero (inText '\x00' zero).1, names.short⟩

/-- A path leads to the place that it named, once something stands there: anything at all when no
slash follows the name, and else a folder. -/
theorem locate_of_place {before after : FileTree} {path : Path} {place : Place} {item : FileItem}
    (keeps : KeepsWays before after) (found : before.place path = .ok (some place))
    (there : after.item? (place.name :: place.folder) = some item)
    (fits : place.slashed = true → item = .folder) :
    after.locate path = .ok (place.name :: place.folder) := by
  obtain ⟨outer, empty, names⟩ := exists_names_of_place found
  refine bind_eq_ok_iff.mpr ⟨(), names.checked, ?_⟩
  rw [names.whole, follow_append, start, keeps.here]
  refine bind_eq_ok_iff.mpr ⟨place.folder, keeps.follow names.leads, ?_⟩
  rw [follow_name (keeps.folders _ names.inFolder) names.leadsDown names.short, there]
  dsimp only
  cases slashed : place.slashed with
  | false => rw [names.ends slashed, FileTree.follow]
  | true =>
    rw [fits slashed] at there
    exact follow_empty there names.blank

/-- A file that is written stands at the place its path names, where no folder stands. -/
theorem write_eq_ok {tree after : FileTree} {path : Path} {content : ByteArray}
    (written : tree.write path content = .ok after) :
    ∃ place, tree.place path = .ok (some place) ∧ place.slashed = false ∧
      tree.item? (place.name :: place.folder) ≠ some .folder ∧
      after = tree.put (place.name :: place.folder) (.file content) := by
  obtain ⟨place?, found, written⟩ := bind_eq_ok_iff.mp written
  cases place? with
  | none => cases written
  | some place =>
    dsimp only at written
    split at written
    · cases written
    · rename_i noSlash
      split at written
      · cases written
      · rename_i noFolder
        cases written
        exact ⟨place, found, by simpa using noSlash, noFolder, rfl⟩

/-- A folder that is made stands at the place its path names, where nothing stands. -/
theorem makeFolder_eq_ok {tree after : FileTree} {path : Path}
    (made : tree.makeFolder path = .ok after) :
    ∃ place, tree.place path = .ok (some place) ∧
      tree.item? (place.name :: place.folder) = none ∧
      after = tree.put (place.name :: place.folder) .folder := by
  obtain ⟨place?, found, made⟩ := bind_eq_ok_iff.mp made
  cases place? with
  | none => cases made
  | some place =>
    dsimp only at made
    split at made
    · cases made
    · rename_i free
      cases made
      exact ⟨place, found, free, rfl⟩

/-- Something stands in a folder when it is listed there. -/
theorem isSome_item?_iff {tree : FileTree} {name : String} {folder : Location} :
    (tree.item? (name :: folder)).isSome ↔ ∃ entry ∈ tree.items, entry.1 = name :: folder := by
  rw [item?, if_neg (List.cons_ne_nil name folder), List.lookup_isSome_iff]
  refine exists_congr fun entry => and_congr_right fun _ => ?_
  rw [beq_iff_eq, eq_comm]

/-- Whether everything in a tree has a name that may stand in a folder. -/
def Named (tree : FileTree) : Prop :=
  ∀ name folder, (tree.item? (name :: folder)).isSome → IsName name

/-- Everything in a tree has such a name when everything in its list has. -/
theorem named_iff {tree : FileTree} :
    tree.Named ↔ ∀ entry ∈ tree.items, ∀ name ∈ entry.1.head?, IsName name := by
  constructor
  · intro named entry member name first
    obtain ⟨folder, same⟩ := List.head?_eq_some_iff.mp first
    exact named name folder (isSome_item?_iff.mpr ⟨entry, member, same⟩)
  · intro proper name folder stands
    obtain ⟨entry, member, same⟩ := isSome_item?_iff.mp stands
    exact proper entry member name (by rw [same]; rfl)

instance (tree : FileTree) : Decidable tree.Named := decidable_of_iff _ named_iff.symm

/-- Something that is put under a proper name keeps all names proper. -/
theorem Named.put {tree : FileTree} (named : tree.Named) {name : String} (proper : IsName name)
    (folder : Location) (item : FileItem) : (tree.put (name :: folder) item).Named := by
  intro other outer stands
  by_cases same : other :: outer = name :: folder
  · cases same
    exact proper
  · rw [item?_put_of_ne tree item same] at stands
    exact named other outer stands

/-- Whether a tree has all that another one has, and besides that only folders, which some paths
lead to. -/
structure Extends (named : Path → Prop) (before after : FileTree) : Prop where
  /-- Relative paths start from the same folder. -/
  here : after.here = before.here
  /-- What stood somewhere stands there. -/
  kept : ∀ location item, before.item? location = some item → after.item? location = some item
  /-- What is new is a folder. -/
  new : ∀ location, before.item? location = none → after.item? location = none ∨
    after.item? location = some .folder ∧ ∃ path, named path ∧ after.locate path = .ok location
  /-- What is new has a proper name. -/
  proper : before.Named → after.Named

namespace Extends

variable {named other : Path → Prop} {before middle after : FileTree}

/-- A tree has all that it has. -/
theorem refl (named : Path → Prop) (tree : FileTree) : Extends named tree tree :=
  ⟨rfl, fun _ _ => id, fun _ => Or.inl, id⟩

/-- All ways of a tree are kept. -/
theorem keepsWays (grown : Extends named before after) : KeepsWays before after := by
  refine ⟨grown.here, fun location => grown.kept location .folder, fun location stands => ?_⟩
  obtain ⟨item, found⟩ := Option.isSome_iff_exists.mp stands
  rw [grown.kept location item found]
  rfl

/-- Folders that are added one after the other are added. -/
theorem trans (first : Extends named before middle) (second : Extends named middle after) :
    Extends named before after := by
  refine ⟨second.here.trans first.here, fun location item found =>
    second.kept location item (first.kept location item found), fun location free => ?_,
    fun named => second.proper (first.proper named)⟩
  rcases first.new location free with free | ⟨folder, path, names, located⟩
  · exact second.new location free
  · exact Or.inr ⟨second.kept location _ folder, path, names, second.keepsWays.locate located⟩

/-- More paths may be allowed to name folders. -/
theorem mono (grown : Extends named before after) (more : ∀ path, named path → other path) :
    Extends other before after := by
  refine ⟨grown.here, grown.kept, fun location free => ?_, grown.proper⟩
  rcases grown.new location free with free | ⟨folder, path, names, located⟩
  · exact Or.inl free
  · exact Or.inr ⟨folder, path, more path names, located⟩

/-- A folder that is made is the one that its path names. -/
theorem of_makeFolder {path : Path} (made : before.makeFolder path = .ok after) :
    Extends (fun outer => outer = path) before after := by
  obtain ⟨place, found, free, rfl⟩ := makeFolder_eq_ok made
  have ways : KeepsWays before (before.put (place.name :: place.folder) .folder) :=
    KeepsWays.put _ (by rw [free]; nofun)
  have stands := item?_put_self before .folder (List.cons_ne_nil place.name place.folder)
  refine ⟨rfl, fun location item there => ?_, fun location nothing => ?_,
    fun named => named.put (isName_of_place found) place.folder .folder⟩
  · have different : location ≠ place.name :: place.folder := by
      rintro rfl
      rw [free] at there
      cases there
    rw [item?_put_of_ne before .folder different, there]
  · by_cases same : location = place.name :: place.folder
    · subst same
      exact Or.inr ⟨stands, path, rfl, locate_of_place ways found stands fun _ => rfl⟩
    · rw [item?_put_of_ne before .folder same]
      exact Or.inl nothing

end Extends

/-- Whether a tree has, apart from some locations, all that another one has and besides that only
folders, which some paths lead to. -/
structure ExtendsApart (named : Path → Prop) (changed : Location → Prop)
    (before after : FileTree) : Prop where
  /-- Relative paths start from the same folder. -/
  here : after.here = before.here
  /-- What stood elsewhere stands there. -/
  kept : ∀ location item, ¬changed location → before.item? location = some item →
    after.item? location = some item
  /-- What is new elsewhere is a folder. -/
  new : ∀ location, ¬changed location → before.item? location = none →
    after.item? location = none ∨ after.item? location = some .folder ∧
      ∃ path, named path ∧ after.locate path = .ok location
  /-- What is new has a proper name. -/
  proper : before.Named → after.Named

/-- New folders stay when something is changed apart from them. -/
theorem Extends.apart {named : Path → Prop} {changed : Location → Prop}
    {before made after : FileTree} (grown : Extends named before made) (ways : KeepsWays made after)
    (proper : made.Named → after.Named)
    (frame : ∀ location, ¬changed location → after.item? location = made.item? location) :
    ExtendsApart named changed before after := by
  refine ⟨ways.here.trans grown.here, fun location item elsewhere there => ?_,
    fun location elsewhere nothing => ?_, fun named => proper (grown.proper named)⟩
  · rw [frame location elsewhere, grown.kept location item there]
  · rw [frame location elsewhere]
    rcases grown.new location nothing with free | ⟨folder, outer, names, located⟩
    · exact Or.inl free
    · exact Or.inr ⟨folder, outer, names, ways.locate located⟩

/-- Whether a tree has a file with some bytes where another one has no folder, and besides that
only new folders, which some paths lead to. -/
structure Gains (named : Path → Prop) (target : Location) (content : ByteArray)
    (before after : FileTree) : Prop where
  /-- No folder stood where the file stands. -/
  free : before.item? target ≠ some .folder
  /-- The file has the bytes and nothing else. -/
  written : after.item? target = some (.file content)
  /-- Nothing else has changed. -/
  apart : ExtendsApart named (fun location => location = target) before after

/-- A file that is written behind new folders is gained, at the location its path leads to. -/
theorem Extends.write {named : Path → Prop} {before made after : FileTree} {path : Path}
    {content : ByteArray} (grown : Extends named before made)
    (written : made.write path content = .ok after) :
    ∃ target, after.locate path = .ok target ∧ Gains named target content before after := by
  obtain ⟨place, found, noSlash, noFolder, rfl⟩ := write_eq_ok written
  have ways := KeepsWays.put (.file content) noFolder
  have stands := item?_put_self made (.file content) (List.cons_ne_nil place.name place.folder)
  exact ⟨_, locate_of_place ways found stands (by rw [noSlash]; nofun),
    fun folder => noFolder (grown.kept _ _ folder), stands,
    grown.apart ways (fun named => named.put (isName_of_place found) place.folder _)
      fun location different => item?_put_of_ne made (.file content) different⟩

/-- The bytes of a file are read through a path that leads to it. -/
theorem read_of_locate {tree : FileTree} {path : Path} {location : Location}
    {content : ByteArray} (located : tree.locate path = .ok location)
    (file : tree.item? location = some (.file content)) : tree.read path = .ok content := by
  refine bind_eq_ok_iff.mpr ⟨location, located, ?_⟩
  rw [file]
  rfl

end FileTree

end Stencil
