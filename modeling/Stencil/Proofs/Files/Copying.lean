import Stencil.Proofs.Files.Folders

/-!
# Copying files between folders

A name behind the path of a folder leads into that folder, so a file is copied from a location in
one folder to the location of the same name in another one. The copy is emptied before the file is
read, which makes no difference as long as these are two locations: a file that is copied onto
itself is empty afterwards.
-/

namespace Stencil

namespace Path

/-- A slash between two texts divides their pieces. -/
theorem splitSlashes_append_slash (first second : List Char) :
    splitSlashes (first ++ '/' :: second) = splitSlashes first ++ splitSlashes second := by
  induction first with
  | nil => exact splitSlashes_slash second
  | cons character rest ih =>
    obtain ⟨piece, pieces, split⟩ := List.exists_cons_of_ne_nil (splitSlashes_ne_nil rest)
    rw [List.cons_append, splitSlashes, splitSlashes, ih, split]
    split <;> rfl

/-- A text without slashes is one piece. -/
theorem splitSlashes_of_notMem {text : List Char} (noSlash : '/' ∉ text) :
    splitSlashes text = [text] := by
  induction text with
  | nil => rfl
  | cons character rest ih =>
    rw [List.mem_cons, not_or] at noSlash
    rw [splitSlashes, if_neg (Ne.symm noSlash.1), ih noSlash.2]

/-- A text without slashes is no path from the root. -/
theorem isAbsolute_of_notMem {text : String} (noSlash : '/' ∉ text.toList) :
    (Path.mk text).isAbsolute = false := by
  rw [isAbsolute, decide_eq_false_iff_not]
  exact fun starts => noSlash (List.mem_of_mem_head? starts)

/-- A name stands behind a path and one slash, which may be the last character of that path
already. -/
theorem exists_text_join {base : Path} {name : String} (filled : base.text ≠ "")
    (noSlash : '/' ∉ name.toList) :
    ∃ front, (base.text.toList = front ∨ base.text.toList = front ++ ['/']) ∧
      (base.join ⟨name⟩).text.toList = front ++ '/' :: name.toList := by
  rw [join, if_neg (by rw [isAbsolute_of_notMem noSlash]; nofun)]
  cases ending : base.text.toList.getLast? with
  | none =>
    have empty := List.getLast?_eq_none_iff.mp ending
    exact absurd (String.toList_eq_nil_iff.mp empty) filled
  | some last =>
    have whole := List.dropLast_append_getLast? last ending
    by_cases slash : last = '/'
    · rw [slash] at whole
      refine ⟨base.text.toList.dropLast, Or.inr whole.symm, ?_⟩
      simp only [slash, if_true, String.toList_append, String.toList_empty, List.append_nil]
      conv_lhs => rw [← whole]
      rw [List.append_assoc, List.singleton_append]
    · refine ⟨base.text.toList, Or.inl rfl, ?_⟩
      simp [slash, String.toList_append]

/-- A name behind the empty path is the name. -/
theorem join_of_empty {base : Path} (empty : base.text = "") (path : Path) :
    base.join path = path := by
  rw [join]
  split
  · rfl
  · simp [empty]

/-- A name behind a path starts where the path does. -/
theorem isAbsolute_join {base : Path} {name : String} (filled : base.text ≠ "")
    (noSlash : '/' ∉ name.toList) : (base.join ⟨name⟩).isAbsolute = base.isAbsolute := by
  obtain ⟨front, fits, joined⟩ := exists_text_join filled noSlash
  have head : (base.join ⟨name⟩).text.toList.head? = base.text.toList.head? := by
    rw [joined]
    rcases fits with same | same
    · rw [← same, List.head?_append_of_ne_nil]
      exact fun empty => filled (String.toList_eq_nil_iff.mp empty)
    · rw [same]
      cases front <;> rfl
  rw [isAbsolute, isAbsolute, head]

/-- A name behind a path brings no character of code zero when neither of them has one. -/
theorem zero_notMem_join {base : Path} {name : String} (noSlash : '/' ∉ name.toList)
    (baseZero : '\x00' ∉ base.text.toList) (nameZero : '\x00' ∉ name.toList) :
    '\x00' ∉ (base.join ⟨name⟩).text.toList := by
  by_cases filled : base.text = ""
  · rwa [join_of_empty filled]
  · obtain ⟨front, fits, joined⟩ := exists_text_join filled noSlash
    have frontZero : '\x00' ∉ front := by
      rcases fits with same | same
      · rwa [same] at baseZero
      · rw [same, List.mem_append, not_or] at baseZero
        exact baseZero.1
    rw [joined]
    simp [frontZero, nameZero]

end Path

namespace FileTree

/-- Whether a folder has a file of a name with some bytes. -/
def HasFile (tree : FileTree) (folder : Location) (name : String) (content : ByteArray) : Prop :=
  tree.item? (name :: folder) = some (.file content)

variable {tree : FileTree} {base : Path} {folder : Location} {name : String}

/-- A name behind the path of a folder is the last piece, and the pieces in front of it lead to the
folder. -/
theorem LeadsInto.pieces_join (leads : tree.LeadsInto base folder) (proper : IsName name) :
    ∃ outer, (base.join ⟨name⟩).pieces = outer ++ [name] ∧
      tree.follow (tree.start (base.join ⟨name⟩)) outer = .ok folder := by
  have single := Path.splitSlashes_of_notMem proper.noSlash
  rcases leads with located | ⟨empty, rfl⟩
  · obtain ⟨⟨⟩, checked, ways⟩ := bind_eq_ok_iff.mp located
    have filled := ((checkPath_eq_ok_iff base).mp checked).2.1
    obtain ⟨front, fits, joined⟩ := Path.exists_text_join filled proper.noSlash
    refine ⟨(Path.splitSlashes front).map String.ofList, ?_, ?_⟩
    · rw [Path.pieces, joined, Path.splitSlashes_append_slash, single, List.map_append,
        List.map_singleton, String.ofList_toList]
    · rw [start, Path.isAbsolute_join filled proper.noSlash, ← start]
      rcases fits with same | same
      · rw [← same]
        exact ways
      · rw [Path.pieces, same, Path.splitSlashes_append_slash, List.map_append,
          follow_append] at ways
        obtain ⟨middle, ways, stays⟩ := bind_eq_ok_iff.mp ways
        obtain ⟨rfl, -⟩ := follow_empty_eq_ok_iff.mp stays
        exact ways
  · rw [Path.join_of_empty empty]
    refine ⟨[], ?_, ?_⟩
    · rw [Path.pieces, single, List.map_singleton, String.ofList_toList, List.nil_append]
    · rw [start, Path.isAbsolute_of_notMem proper.noSlash]
      rfl

/-- A name behind the path of a folder can be followed when the whole path is not too long. -/
theorem LeadsInto.checkPath_join (leads : tree.LeadsInto base folder) (proper : IsName name) :
    checkPath (base.join ⟨name⟩) = .ok () ↔
      (base.join ⟨name⟩).text.utf8ByteSize < pathLimit := by
  have baseZero : '\x00' ∉ base.text.toList := by
    rcases leads with located | ⟨empty, -⟩
    · obtain ⟨⟨⟩, checked, -⟩ := bind_eq_ok_iff.mp located
      exact ((checkPath_eq_ok_iff base).mp checked).1
    · rw [empty]
      exact List.not_mem_nil
  have filled : (base.join ⟨name⟩).text ≠ "" := by
    obtain ⟨outer, whole, -⟩ := leads.pieces_join proper
    intro empty
    rw [Path.pieces, empty] at whole
    have last : some name = some "" := by
      have ending := congrArg List.getLast? whole
      rw [List.getLast?_concat] at ending
      exact ending.symm
    exact proper.leadsDown.1 (Option.some.inj last)
  rw [checkPath_eq_ok_iff]
  exact ⟨fun checked => checked.2.2, fun short =>
    ⟨Path.zero_notMem_join proper.noSlash baseZero proper.noZero, filled, short⟩⟩

/-- A name behind the path of a folder leads to what has that name in the folder. -/
theorem LeadsInto.locate_join (leads : tree.LeadsInto base folder) (proper : IsName name)
    (inFolder : tree.item? folder = some .folder) {location : Location} :
    tree.locate (base.join ⟨name⟩) = .ok location ↔
      (base.join ⟨name⟩).text.utf8ByteSize < pathLimit ∧ location = name :: folder ∧
        (tree.item? (name :: folder)).isSome := by
  obtain ⟨outer, whole, ways⟩ := leads.pieces_join proper
  have behind : tree.follow folder [name] = .ok location ↔
      location = name :: folder ∧ (tree.item? (name :: folder)).isSome := by
    rw [follow_name inFolder proper.leadsDown proper.short]
    cases tree.item? (name :: folder) with
    | none => simp
    | some item => simp [follow, eq_comm]
  rw [← leads.checkPath_join proper, ← behind, locate, whole, bind_eq_ok_iff]
  constructor
  · rintro ⟨⟨⟩, checked, leadsTo⟩
    rw [follow_append] at leadsTo
    obtain ⟨middle, first, rest⟩ := bind_eq_ok_iff.mp leadsTo
    cases ways.symm.trans first
    exact ⟨checked, rest⟩
  · rintro ⟨checked, rest⟩
    exact ⟨(), checked, by rw [follow_append]; exact bind_eq_ok_iff.mpr ⟨folder, ways, rest⟩⟩

/-- A name behind the path of a folder leads to a file when the path is not too long and a file has
that name in the folder. -/
theorem LeadsInto.kind?_join (leads : tree.LeadsInto base folder) (proper : IsName name)
    (inFolder : tree.item? folder = some .folder) :
    tree.kind? (base.join ⟨name⟩) = some .file ↔
      (base.join ⟨name⟩).text.utf8ByteSize < pathLimit ∧
        ∃ content, tree.HasFile folder name content := by
  rw [kind?]
  constructor
  · intro isFile
    split at isFile
    · cases isFile
    · rename_i location located
      obtain ⟨short, rfl, -⟩ := (leads.locate_join proper inFolder).mp located
      split at isFile
      · cases isFile
      · rename_i content file
        exact ⟨short, content, file⟩
      · cases isFile
  · rintro ⟨short, content, file⟩
    rw [(leads.locate_join proper inFolder).mpr ⟨short, rfl, by rw [file]; rfl⟩]
    dsimp only
    rw [file]

/-- A file that is written behind the path of a folder has that name in the folder. -/
theorem LeadsInto.write_join (leads : tree.LeadsInto base folder) (proper : IsName name)
    {content : ByteArray} {after : FileTree}
    (written : tree.write (base.join ⟨name⟩) content = .ok after) :
    tree.item? (name :: folder) ≠ some .folder ∧
      after = tree.put (name :: folder) (.file content) := by
  obtain ⟨place, found, noSlash, noFolder, same⟩ := write_eq_ok written
  obtain ⟨outer, empty, names⟩ := exists_names_of_place found
  obtain ⟨front, pieces, leadsTo⟩ := leads.pieces_join proper
  have whole := names.whole
  rw [names.ends noSlash, pieces] at whole
  obtain ⟨sameFront, sameName⟩ := List.append_inj' whole rfl
  rw [sameFront] at leadsTo
  cases List.singleton_inj.mp sameName
  cases leadsTo.symm.trans names.leads
  exact ⟨noFolder, same⟩

/-- What a copy has of the bytes of a file: all of them in another folder, and nothing when the
file is copied onto itself. -/
def copyOf (inside outside : Location) (content : ByteArray) : ByteArray :=
  if inside = outside then .empty else content

/-- Whether a location is one that a file of a folder is copied to, of those that are copied. -/
def IsCopy (tree : FileTree) (chosen : String → Prop) (inside outside location : Location) :
    Prop :=
  ∃ name content, chosen name ∧ tree.HasFile inside name content ∧ location = name :: outside

/-- Whether the chosen files of one folder, and nothing else, were copied into another one. -/
structure CopiesTo (chosen : String → Prop) (inside outside : Location)
    (before after : FileTree) : Prop where
  /-- Relative paths start from the same folder. -/
  here : after.here = before.here
  /-- No folder stood where a copy stands. -/
  free : ∀ name content, chosen name → before.HasFile inside name content →
    before.item? (name :: outside) ≠ some .folder
  /-- The copies are there. -/
  copied : ∀ name content, chosen name → before.HasFile inside name content →
    after.HasFile outside name (copyOf inside outside content)
  /-- Elsewhere everything is as it was. -/
  frame : ∀ location, ¬before.IsCopy chosen inside outside location →
    after.item? location = before.item? location

namespace CopiesTo

variable {chosen other : String → Prop} {inside outside : Location}
  {before middle after : FileTree}

/-- Nothing is copied when no chosen name is that of a file. -/
theorem refl (noFile : ∀ name content, chosen name → ¬before.HasFile inside name content) :
    CopiesTo chosen inside outside before before where
  here := rfl
  free name content chosen file := absurd file (noFile name content chosen)
  copied name content chosen file := absurd file (noFile name content chosen)
  frame _ _ := rfl

/-- Only those names matter that are names of files. -/
theorem congr (copies : CopiesTo chosen inside outside before after)
    (same : ∀ name content, before.HasFile inside name content → (chosen name ↔ other name)) :
    CopiesTo other inside outside before after := by
  refine ⟨copies.here, fun name content chosen file => ?_, fun name content chosen file => ?_,
    fun location elsewhere => copies.frame location ?_⟩
  · exact copies.free name content ((same name content file).mpr chosen) file
  · exact copies.copied name content ((same name content file).mpr chosen) file
  · rintro ⟨name, content, chosen, file, location⟩
    exact elsewhere ⟨name, content, (same name content file).mp chosen, file, location⟩

/-- Copies keep all ways. -/
theorem keepsWays (copies : CopiesTo chosen inside outside before after) :
    KeepsWays before after := by
  refine ⟨copies.here, fun location folder => ?_, fun location stands => ?_⟩
  · rw [copies.frame location, folder]
    rintro ⟨name, content, chosen, file, rfl⟩
    exact copies.free name content chosen file folder
  · by_cases isCopy : before.IsCopy chosen inside outside location
    · obtain ⟨name, content, chosen, file, rfl⟩ := isCopy
      rw [copies.copied name content chosen file]
      rfl
    · rwa [copies.frame location isCopy]

/-- Copies have the names of the files that they are copies of. -/
theorem named (copies : CopiesTo chosen inside outside before after) (named : before.Named) :
    after.Named := by
  intro name folder stands
  by_cases isCopy : before.IsCopy chosen inside outside (name :: folder)
  · obtain ⟨same, content, chosen, file, location⟩ := isCopy
    cases location
    exact named name inside (by rw [file]; rfl)
  · rw [copies.frame _ isCopy] at stands
    exact named name folder stands

/-- A file that is copied is the same afterwards in another folder, and has the bytes of a copy in
its own. -/
theorem hasFile_inside (copies : CopiesTo chosen inside outside before after) {name : String}
    {content : ByteArray} (file : before.HasFile inside name content) :
    after.HasFile inside name content ∨ inside = outside ∧ after.HasFile inside name .empty := by
  by_cases isCopy : before.IsCopy chosen inside outside (name :: inside)
  · obtain ⟨same, bytes, chosen, found, location⟩ := isCopy
    cases location
    refine Or.inr ⟨rfl, ?_⟩
    have copied := copies.copied name bytes chosen found
    rwa [copyOf, if_pos rfl] at copied
  · exact Or.inl ((copies.frame _ isCopy).trans file)

/-- What is a file of the folder afterwards was one before. -/
theorem exists_hasFile (copies : CopiesTo chosen inside outside before after) {name : String}
    {content : ByteArray} (file : after.HasFile inside name content) :
    ∃ old, before.HasFile inside name old := by
  by_cases isCopy : before.IsCopy chosen inside outside (name :: inside)
  · obtain ⟨same, bytes, chosen, found, location⟩ := isCopy
    cases location
    exact ⟨bytes, found⟩
  · exact ⟨content, (copies.frame _ isCopy).symm.trans file⟩

/-- Files that are copied one after the other are copied. -/
theorem trans (first : CopiesTo chosen inside outside before middle)
    (second : CopiesTo other inside outside middle after) :
    CopiesTo (fun name => chosen name ∨ other name) inside outside before after := by
  -- A file that the first part has emptied has the same copy as before: an empty one.
  have still {name : String} {content : ByteArray} (file : before.HasFile inside name content) :
      ∃ bytes, middle.HasFile inside name bytes ∧
        copyOf inside outside bytes = copyOf inside outside content := by
    rcases first.hasFile_inside file with kept | ⟨same, emptied⟩
    · exact ⟨content, kept, rfl⟩
    · exact ⟨.empty, emptied, by rw [copyOf, copyOf, if_pos same, if_pos same]⟩
  refine ⟨second.here.trans first.here, fun name content either file folder => ?_,
    fun name content either file => ?_, fun location elsewhere => ?_⟩
  · rcases either with early | late
    · exact first.free name content early file folder
    · obtain ⟨bytes, found, -⟩ := still file
      exact second.free name bytes late found (first.keepsWays.folders _ folder)
  · by_cases late : other name
    · obtain ⟨bytes, found, same⟩ := still file
      rw [← same]
      exact second.copied name bytes late found
    · have early := either.resolve_right late
      have untouched : ¬middle.IsCopy other inside outside (name :: outside) := by
        rintro ⟨same, bytes, again, -, location⟩
        cases location
        exact late again
      exact (second.frame _ untouched).trans (first.copied name content early file)
  · have early : ¬before.IsCopy chosen inside outside location := by
      rintro ⟨name, content, early, file, same⟩
      exact elsewhere ⟨name, content, Or.inl early, file, same⟩
    have late : ¬middle.IsCopy other inside outside location := by
      rintro ⟨name, content, late, file, same⟩
      obtain ⟨old, found⟩ := first.exists_hasFile file
      exact elsewhere ⟨name, old, Or.inr late, found, same⟩
    rw [second.frame location late, first.frame location early]

end CopiesTo

/-- A file is copied by emptying the copy, and then reading the file and writing the copy. -/
theorem exists_of_copyFile {tree after : FileTree} {file copy : Path}
    (copied : (FileAccess.copyFile file copy : ExceptT FileError (StateM FileTree) Unit).run.run
      tree = (.ok (), after)) :
    ∃ emptied content, tree.write copy .empty = .ok emptied ∧ emptied.read file = .ok content ∧
      emptied.write copy content = .ok after := by
  obtain ⟨bytes, same, first, rest⟩ := run_bind_eq_ok copied
  obtain ⟨⟨⟩, emptied, clears, rest⟩ := run_bind_eq_ok rest
  obtain ⟨content, again, second, writes⟩ := run_bind_eq_ok rest
  cases congrArg Prod.snd first
  cases congrArg Prod.snd second
  exact ⟨emptied, content, update_eq_ok (fun tree => tree.write copy .empty) clears,
    congrArg Prod.fst second, update_eq_ok (fun tree => tree.write copy content) writes⟩

/-- Once the copy is emptied, the bytes that are read from a file are those that the copy gets. -/
theorem read_of_emptied {tree : FileTree} {path : Path} {inside outside : Location} {name : String}
    {content : ByteArray} (located : tree.locate path = .ok (name :: inside))
    (file : tree.HasFile inside name content)
    (noFolder : tree.item? (name :: outside) ≠ some .folder) :
    (tree.put (name :: outside) (.file .empty)).read path =
      .ok (copyOf inside outside content) := by
  have again := (KeepsWays.put (.file .empty) noFolder).locate located
  rw [copyOf]
  split
  · rename_i same
    cases same
    exact read_of_locate again (item?_put_self tree _ (List.cons_ne_nil name inside))
  · rename_i different
    have elsewhere : name :: inside ≠ name :: outside := fun same =>
      different (List.cons.inj same).2
    exact read_of_locate again ((item?_put_of_ne tree _ elsewhere).trans file)

/-- A file that is copied behind the path of another folder is copied into that folder. -/
theorem copiesTo_of_copyFile {tree after : FileTree} {source target : Path}
    {inside outside : Location} {name : String} {content : ByteArray}
    (leads : tree.LeadsInto source inside) (leadsOut : tree.LeadsInto target outside)
    (proper : IsName name) (inFolder : tree.item? inside = some .folder)
    (short : (source.join ⟨name⟩).text.utf8ByteSize < pathLimit)
    (file : tree.HasFile inside name content)
    (copied : (FileAccess.copyFile (source.join ⟨name⟩) (target.join ⟨name⟩) :
      ExceptT FileError (StateM FileTree) Unit).run.run tree = (.ok (), after)) :
    CopiesTo (fun other => other = name) inside outside tree after := by
  obtain ⟨emptied, bytes, clears, reads, writes⟩ := exists_of_copyFile copied
  obtain ⟨noFolder, rfl⟩ := leadsOut.write_join proper clears
  have ways := KeepsWays.put (.file .empty) noFolder
  obtain ⟨-, rfl⟩ := (ways.leadsInto leadsOut).write_join proper writes
  have located := (leads.locate_join proper inFolder).mpr ⟨short, rfl, by rw [file]; rfl⟩
  cases (read_of_emptied located file noFolder).symm.trans reads
  refine ⟨rfl, fun same old chosen _ => ?_, fun same old chosen again => ?_,
    fun location elsewhere => ?_⟩
  · rw [chosen]
    exact noFolder
  · cases chosen
    cases file.symm.trans again
    exact item?_put_self _ _ (List.cons_ne_nil name outside)
  · have different : location ≠ name :: outside := fun same =>
      elsewhere ⟨name, content, rfl, file, same⟩
    rw [item?_put_of_ne _ _ different, item?_put_of_ne _ _ different]

/-- A path that leads to a folder gives the names in that folder. -/
theorem names_eq {tree : FileTree} {path : Path} {folder : Location}
    (located : tree.locate path = .ok folder) (isFolder : tree.item? folder = some .folder) :
    tree.names path = .ok (tree.namesIn folder) := by
  rw [names, located]
  simp only [bind, Except.bind, isFolder]
  rfl

/-- A folder has the names of what stands in it. -/
theorem mem_namesIn {tree : FileTree} {folder : Location} {name : String} :
    name ∈ tree.namesIn folder ↔ (tree.item? (name :: folder)).isSome := by
  rw [namesIn, isSome_item?_iff, List.mem_mergeSort, List.mem_filterMap]
  refine exists_congr fun entry => and_congr_right fun _ => ?_
  obtain ⟨location, item⟩ := entry
  cases location with
  | nil => simp
  | cons first outer =>
    dsimp only
    split
    · rename_i same
      simp [same]
    · rename_i different
      simp [different]

/-- Whether a tree has all that another one has, with the chosen files of one folder copied into
another one, and besides that only new folders, which some paths lead to. -/
structure Duplicates (named : Path → Prop) (chosen : String → Prop) (inside outside : Location)
    (before after : FileTree) : Prop where
  /-- No folder stood where a copy stands. -/
  free : ∀ name content, chosen name → before.HasFile inside name content →
    before.item? (name :: outside) ≠ some .folder
  /-- The copies are there. -/
  copied : ∀ name content, chosen name → before.HasFile inside name content →
    after.HasFile outside name (copyOf inside outside content)
  /-- Nothing else has changed. -/
  apart : ExtendsApart named (before.IsCopy chosen inside outside) before after

/-- Whether all files of one folder are as they were, and in another folder as well. -/
def KeepsCopies (inside outside : Location) (before after : FileTree) : Prop :=
  ∀ name content, before.HasFile inside name content →
    after.HasFile inside name content ∧ after.HasFile outside name content

section

variable {named : Path → Prop} {chosen : String → Prop} {inside outside : Location}
  {before made after : FileTree}

/-- New folders are no files. -/
theorem ExtendsApart.hasFile_iff {changed : Location → Prop}
    (grown : ExtendsApart named changed before after) {folder : Location} {name : String}
    (elsewhere : ¬changed (name :: folder)) {content : ByteArray} :
    after.HasFile folder name content ↔ before.HasFile folder name content := by
  refine ⟨fun file => ?_, grown.kept _ _ elsewhere⟩
  cases there : before.item? (name :: folder) with
  | none =>
    rcases grown.new _ elsewhere there with nothing | ⟨stands, -⟩
    · cases file.symm.trans nothing
    · cases file.symm.trans stands
  | some item =>
    cases (grown.kept _ _ elsewhere there).symm.trans file
    exact there

/-- Where there are only new folders, there are the same files. -/
theorem Extends.hasFile_iff (grown : Extends named before after) {folder : Location}
    {name : String} {content : ByteArray} :
    after.HasFile folder name content ↔ before.HasFile folder name content :=
  (grown.apart (.refl after) id (fun _ _ => rfl) :
    ExtendsApart named (fun _ => False) before after).hasFile_iff id

/-- Files that are copied once folders were made are duplicated. -/
theorem Extends.duplicates (grown : Extends named before made)
    (copies : CopiesTo chosen inside outside made after) :
    Duplicates named chosen inside outside before after := by
  refine ⟨fun name content picked file folder => ?_,
    fun name content picked file => copies.copied name content picked (grown.hasFile_iff.mpr file),
    grown.apart copies.keepsWays copies.named fun location elsewhere =>
      copies.frame location ?_⟩
  · exact copies.free name content picked (grown.hasFile_iff.mpr file) (grown.kept _ _ folder)
  · rintro ⟨name, content, picked, file, same⟩
    exact elsewhere ⟨name, content, picked, grown.hasFile_iff.mp file, same⟩

/-- No file is lost exactly when those that are copied go to another folder or are empty, and the
others stay in their folder or were copied before. -/
theorem Duplicates.keepsCopies_iff
    (duplicates : Duplicates named chosen inside outside before after) :
    KeepsCopies inside outside before after ↔
      ∀ name content, before.HasFile inside name content →
        (chosen name → inside = outside → content = .empty) ∧
        (¬chosen name → inside = outside ∨ before.HasFile outside name content) := by
  refine forall_congr' fun name => forall_congr' fun content => imp_congr_right fun file => ?_
  by_cases picked : chosen name
  · have copied := duplicates.copied name content picked file
    rw [copyOf] at copied
    simp only [picked, true_imp_iff, not_true_eq_false, false_imp_iff, and_true]
    by_cases same : inside = outside
    · rw [if_pos same] at copied
      subst same
      constructor
      · rintro ⟨kept, -⟩ -
        cases kept.symm.trans copied
        rfl
      · intro empty
        rw [empty rfl]
        exact ⟨copied, copied⟩
    · rw [if_neg same] at copied
      have elsewhere : ¬before.IsCopy chosen inside outside (name :: inside) := by
        rintro ⟨other, bytes, -, -, location⟩
        exact same (List.cons.inj location).2
      exact iff_of_true ⟨(duplicates.apart.hasFile_iff elsewhere).mpr file, copied⟩
        fun equal => absurd equal same
  · have elsewhere (folder : Location) :
        ¬before.IsCopy chosen inside outside (name :: folder) := by
      rintro ⟨other, bytes, chose, -, location⟩
      cases location
      exact picked chose
    rw [duplicates.apart.hasFile_iff (elsewhere inside),
      duplicates.apart.hasFile_iff (elsewhere outside), and_iff_right file]
    simp only [picked, false_imp_iff, not_false_eq_true, true_imp_iff, true_and]
    refine ⟨Or.inr, fun either => either.elim (fun same => ?_) id⟩
    rw [← same]
    exact file

end

end FileTree

end Stencil
