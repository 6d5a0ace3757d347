import Stencil.Files.Access

/-!
# File trees

Files and folders as a value, with the folder that relative paths start from. A path is followed
piece by piece: an empty piece and a dot stay where they are, two dots lead to the folder around,
and everything that is passed through must be a folder.
-/

namespace Stencil

/-- Where something is: the names from the inside out, none for the root. -/
abbrev Location := List String

/-- What stands at a location. -/
inductive FileItem where
  /-- A folder. -/
  | folder
  /-- A file with its bytes. -/
  | file (content : ByteArray)

/-- Whether two items are the same. -/
def FileItem.same : FileItem → FileItem → Bool
  | folder, folder => true
  | file first, file second => first.data = second.data
  | _, _ => false

/-- Files and folders. -/
structure FileTree where
  /-- Where relative paths start. -/
  here : Location
  /-- What stands where; the root, which is always a folder, is not listed. -/
  items : List (Location × FileItem)

namespace FileTree

/-- A tree of empty folders down to the one that relative paths start from. -/
def empty : Location → FileTree
  | [] => ⟨[], []⟩
  | name :: outer => ⟨name :: outer, (name :: outer, .folder) :: (empty outer).items⟩

/-- What stands at a location. -/
def item? (tree : FileTree) (location : Location) : Option FileItem :=
  if location = [] then some .folder else tree.items.lookup location

/-- The tree with something put at a location, in the place of what stood there. -/
def put (tree : FileTree) (location : Location) (item : FileItem) : FileTree :=
  { tree with items := (location, item) :: tree.items.filter fun other => other.1 ≠ location }

/-- How many bytes a name may have. -/
def nameLimit : Nat := 255

/-- How many bytes a path has to stay below. -/
def pathLimit : Nat := 4096

/-- Whether a path can be followed at all. -/
def checkPath (path : Path) : Except FileError Unit :=
  if path.text.toList.contains '\x00' then .error .zeroInPath
  else if path.text.isEmpty then .error .missing
  else if pathLimit ≤ path.text.utf8ByteSize then .error .longName
  else .ok ()

/-- Whether a name may stand in a folder. -/
def checkName (name : String) : Except FileError Unit :=
  if nameLimit < name.utf8ByteSize then .error .longName else .ok ()

/-- Where a path starts. -/
def start (tree : FileTree) (path : Path) : Location := if path.isAbsolute then [] else tree.here

/-- The location that pieces lead to from another one. -/
def follow (tree : FileTree) (location : Location) : List String → Except FileError Location
  | [] => .ok location
  | piece :: rest =>
    match tree.item? location with
    | none => .error .missing
    | some (.file _) => .error .notFolder
    | some .folder =>
      if piece = "" || piece = "." then tree.follow location rest
      else if piece = ".." then tree.follow location.tail rest
      else match checkName piece, tree.item? (piece :: location) with
        | .error error, _ => .error error
        | .ok (), none => .error .missing
        | .ok (), some _ => tree.follow (piece :: location) rest

/-- The location of what a path leads to. -/
def locate (tree : FileTree) (path : Path) : Except FileError Location := do
  checkPath path
  tree.follow (tree.start path) path.pieces

/-- A place for something new: the folder around it, its name, and whether a slash follows. A
path that ends in no name has none. -/
structure Place where
  /-- The folder around it. -/
  folder : Location
  /-- Its name. -/
  name : String
  /-- Whether a slash follows the name. -/
  slashed : Bool

/-- Pieces without the empty ones at the end. -/
def trimEmpty (pieces : List String) : List String :=
  (pieces.reverse.dropWhile String.isEmpty).reverse

/-- The place that a path names, whether or not something stands there. -/
def place (tree : FileTree) (path : Path) : Except FileError (Option Place) := do
  checkPath path
  let pieces := trimEmpty path.pieces
  match pieces.getLast? with
  | none => return none
  | some name =>
    let folder ← tree.follow (tree.start path) (pieces.dropLast ++ [""])
    if name = "." || name = ".." then return none
    checkName name
    return some ⟨folder, name, pieces.length < path.pieces.length⟩

/-- What a path leads to. -/
def kind? (tree : FileTree) (path : Path) : Option FileKind :=
  match tree.locate path with
  | .error _ => none
  | .ok location =>
    match tree.item? location with
    | some .folder => some .folder
    | some (.file _) => some .file
    | none => none

/-- The bytes of a file. -/
def read (tree : FileTree) (path : Path) : Except FileError ByteArray := do
  let location ← tree.locate path
  match tree.item? location with
  | some (.file content) => return content
  | some .folder => .error .isFolder
  | none => .error .missing

/-- The tree in which a file holds some bytes and nothing else. -/
def write (tree : FileTree) (path : Path) (content : ByteArray) : Except FileError FileTree := do
  match ← tree.place path with
  | none => .error .isFolder
  | some place =>
    if place.slashed then .error .isFolder
    else
      let target := place.name :: place.folder
      match tree.item? target with
      | some .folder => .error .isFolder
      | _ => return tree.put target (.file content)

/-- The tree with one new folder. -/
def makeFolder (tree : FileTree) (path : Path) : Except FileError FileTree := do
  match ← tree.place path with
  | none => .error .taken
  | some place =>
    let target := place.name :: place.folder
    match tree.item? target with
    | some _ => .error .taken
    | none => return tree.put target .folder

/-- The names inside a folder, in order. -/
def namesIn (tree : FileTree) (folder : Location) : List String :=
  let inside := tree.items.filterMap fun item =>
    match item.1 with
    | name :: outer => if outer = folder then some name else none
    | [] => none
  inside.mergeSort fun first second => first ≤ second

/-- The names inside the folder a path leads to, in order. -/
def names (tree : FileTree) (path : Path) : Except FileError (List String) := do
  let folder ← tree.locate path
  match tree.item? folder with
  | some .folder => return tree.namesIn folder
  | some (.file _) => .error .notFolder
  | none => .error .missing

/-- The state after a request that may change the tree. -/
def update (change : FileTree → Except FileError FileTree) :
    StateM FileTree (Except FileError Unit) := fun tree =>
  match change tree with
  | .ok changed => (.ok (), changed)
  | .error error => (.error error, tree)

instance : FileAccess (StateM FileTree) where
  kind? path := return (← get).kind? path
  read path := return (← get).read path
  write path content := update fun tree => tree.write path content
  makeFolder path := update fun tree => tree.makeFolder path
  names path := return ((← get).names path).map fun found => found.map .ok

/-- The path of a location as it is seen from a folder around it. -/
def pathFrom? (folder location : Location) : Option String :=
  if folder.isSuffixOf location then
    some (String.intercalate "/" (location.take (location.length - folder.length)).reverse)
  else none

/-- What is new or different below the working folder, by path. -/
def changes (before after : FileTree) : List (String × FileItem) :=
  let changed := after.items.filterMap fun (location, item) =>
    if (before.item? location).any item.same then none
    else (pathFrom? after.here location).map fun path => (path, item)
  changed.mergeSort fun first second => first.1 ≤ second.1

/-- What was put at a location stands there. -/
theorem item?_put_self (tree : FileTree) {location : Location} (item : FileItem)
    (inside : location ≠ []) : (tree.put location item).item? location = some item := by
  simp [item?, put, inside]

/-- Leaving out the entries of one location does not change what another one finds. -/
theorem lookup_filter_of_ne (items : List (Location × FileItem)) {location other : Location}
    (different : other ≠ location) :
    (items.filter fun entry => entry.1 ≠ location).lookup other = items.lookup other := by
  induction items with
  | nil => rfl
  | cons entry rest ih =>
    obtain ⟨place, content⟩ := entry
    by_cases same : place = location
    · subst same
      have unequal : (other == place) = false := by simpa using different
      rw [List.filter_cons_of_neg (by simp), List.lookup_cons, unequal, ih]
    · rw [List.filter_cons_of_pos (by simpa using same), List.lookup_cons, List.lookup_cons, ih]

/-- Putting something at a location leaves every other location as it was. -/
theorem item?_put_of_ne (tree : FileTree) {location other : Location} (item : FileItem)
    (different : other ≠ location) :
    (tree.put location item).item? other = tree.item? other := by
  have unequal : (other == location) = false := by simpa using different
  simp only [item?, put, List.lookup_cons, unequal, lookup_filter_of_ne tree.items different]

end FileTree

end Stencil
