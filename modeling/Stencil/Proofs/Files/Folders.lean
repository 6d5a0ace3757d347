import Stencil.Proofs.Files.Growth

/-!
# Making folders

The folders around a path are made from the outside in, as far as they are missing. However that
ends, nothing but folders is new, which are named by the path or by one around it, and when it ends
well the path leads to a folder.
-/

namespace Stencil

/-- Whether a computation on a file tree adds nothing but folders, which some paths lead to. -/
def AddsFolders {α : Type} (named : Path → Prop) (computation : StateM FileTree α) : Prop :=
  ∀ tree : FileTree, FileTree.Extends named tree (computation.run tree).2

namespace AddsFolders

variable {α β : Type} {named other : Path → Prop}

/-- A value adds nothing. -/
theorem pure (value : α) : AddsFolders named (Pure.pure value) :=
  fun tree => .refl named tree

/-- Computations in a row add folders when each of them does. -/
theorem bind {first : StateM FileTree α} {next : α → StateM FileTree β}
    (adds : AddsFolders named first) (others : ∀ value, AddsFolders named (next value)) :
    AddsFolders named (first >>= next) := fun tree =>
  (adds tree).trans (others (first.run tree).1 (first.run tree).2)

/-- More paths may be allowed to name folders. -/
theorem mono {computation : StateM FileTree α} (adds : AddsFolders named computation)
    (more : ∀ path, named path → other path) : AddsFolders other computation :=
  fun tree => (adds tree).mono more

/-- Asking for a folder adds nothing. -/
theorem isFolder (path : Path) : AddsFolders named (FileAccess.isFolder path) :=
  fun tree => .refl named tree

/-- Making a folder adds that folder. -/
theorem makeFolder (path : Path) :
    AddsFolders (fun outer => outer = path) (FileAccess.makeFolder path) := by
  intro tree
  change FileTree.Extends _ tree (FileTree.update (fun tree => tree.makeFolder path) tree).2
  rw [FileTree.update]
  cases made : tree.makeFolder path with
  | error error => exact .refl _ tree
  | ok after => exact .of_makeFolder made

/-- Making a folder that may be there adds that folder at most. -/
theorem ensureFolder (path : Path) :
    AddsFolders (fun outer => outer = path) (FileAccess.ensureFolder path).run := by
  refine bind (makeFolder path) fun result => ?_
  split
  · exact pure _
  · exact bind (isFolder path) fun _ => pure _

/-- What follows an answer adds folders when the question and the rest do. -/
theorem lift {question : StateM FileTree α} {next : α → ExceptT FileError (StateM FileTree) β}
    (adds : AddsFolders named question) (others : ∀ value, AddsFolders named (next value).run) :
    AddsFolders named (ExceptT.lift question >>= next).run :=
  bind adds others

/-- What may fail adds folders when it does up to its failure. -/
theorem andThen {first : ExceptT FileError (StateM FileTree) α}
    {next : α → ExceptT FileError (StateM FileTree) β}
    (adds : AddsFolders named first.run) (others : ∀ value, AddsFolders named (next value).run) :
    AddsFolders named (first >>= next).run := by
  rw [ExceptT.run_bind]
  refine bind adds fun result => ?_
  cases result with
  | ok value => exact others value
  | error error => exact pure _

/-- Making folders adds folders that are named by the path or by one around it, by induction on
the bound for the length of the path. -/
theorem makeFoldersWithin (length : Nat) (path : Path) :
    AddsFolders (fun outer => Relation.ReflTransGen Path.IsAround outer path)
      (FileAccess.makeFoldersWithin length path).run := by
  induction length generalizing path with
  | zero => exact pure _
  | succ length ih =>
    have itself (outer : Path) (same : outer = path) :
        Relation.ReflTransGen Path.IsAround outer path := by
      rw [same]
    rw [FileAccess.makeFoldersWithin]
    split
    · exact pure _
    · refine lift ((makeFolder path).mono itself) fun result => ?_
      split
      · exact pure _
      · split
        · exact pure _
        · rename_i parent around
          exact andThen ((ih parent).mono fun outer encloses => encloses.tail around)
            fun _ => (ensureFolder path).mono itself
      · refine lift (isFolder path) fun there => ?_
        split <;> exact pure _

/-- Making folders adds folders that are named by the path or by one around it. -/
theorem makeFolders (path : Path) :
    AddsFolders (fun outer => Relation.ReflTransGen Path.IsAround outer path)
      (FileAccess.makeFolders path).run :=
  makeFoldersWithin _ path

end AddsFolders

namespace FileTree

/-- Whether names behind a path stand at a location: the path leads there, or it is empty and this
is where relative paths start. -/
def LeadsInto (tree : FileTree) (path : Path) (folder : Location) : Prop :=
  tree.locate path = .ok folder ∨ path.text = "" ∧ folder = tree.here

/-- A path leads into the same folder when ways are kept. -/
theorem KeepsWays.leadsInto {before after : FileTree} (keeps : KeepsWays before after)
    {path : Path} {folder : Location} (leads : before.LeadsInto path folder) :
    after.LeadsInto path folder := by
  rcases leads with located | ⟨empty, same⟩
  · exact Or.inl (keeps.locate located)
  · exact Or.inr ⟨empty, same.trans keeps.here.symm⟩

/-- Requests in a row succeed when the first one does and the others succeed in the tree that it
has left. -/
theorem run_bind_eq_ok {α β : Type} {first : ExceptT FileError (StateM FileTree) α}
    {next : α → ExceptT FileError (StateM FileTree) β} {tree after : FileTree} {value : β}
    (succeeds : (first >>= next).run.run tree = (.ok value, after)) :
    ∃ answer middle, first.run.run tree = (.ok answer, middle) ∧
      (next answer).run.run middle = (.ok value, after) := by
  unfold ExceptT.run StateT.run at succeeds ⊢
  simp only [bind, ExceptT.bind, ExceptT.mk, StateT.bind, ExceptT.bindCont] at succeeds
  cases outcome : first tree with
  | mk result middle =>
    rw [outcome] at succeeds
    cases result with
    | error error => cases succeeds
    | ok answer => exact ⟨answer, middle, rfl, succeeds⟩

/-- The answer to a question is what the question comes to. -/
theorem run_lift_eq_ok {α : Type} {question : StateM FileTree α} {tree after : FileTree}
    {answer : α} (asked : (ExceptT.lift question : ExceptT FileError (StateM FileTree) α).run.run
      tree = (.ok answer, after)) : question.run tree = (answer, after) := by
  have computed : (ExceptT.lift question : ExceptT FileError (StateM FileTree) α).run.run tree =
      (.ok (question.run tree).1, (question.run tree).2) := rfl
  obtain ⟨same, left⟩ := Prod.mk.inj (computed.symm.trans asked)
  exact Prod.ext (Except.ok.inj same) left

/-- Asking for a folder tells whether the path leads to one. -/
theorem isFolder_of_run {tree after : FileTree} {path : Path}
    (asked : (FileAccess.isFolder path : StateM FileTree Bool).run tree = (true, after)) :
    after = tree ∧ tree.kind? path = some .folder :=
  ⟨(congrArg Prod.snd asked).symm, of_decide_eq_true (congrArg Prod.fst asked)⟩

/-- A change that succeeds leaves the changed tree. -/
theorem update_eq_ok (change : FileTree → Except FileError FileTree) {tree after : FileTree}
    (changed : update change tree = (.ok (), after)) : change tree = .ok after := by
  rw [update] at changed
  split at changed
  · rename_i found same
    cases changed
    exact same
  · cases changed

/-- A folder is made where its path leads. -/
theorem exists_locate_of_makeFolder {tree after : FileTree} {path : Path}
    (made : tree.makeFolder path = .ok after) : ∃ folder, after.locate path = .ok folder := by
  obtain ⟨place, found, free, rfl⟩ := makeFolder_eq_ok made
  have ways : KeepsWays tree (tree.put (place.name :: place.folder) .folder) :=
    KeepsWays.put _ (by rw [free]; nofun)
  exact ⟨_, locate_of_place ways found
    (item?_put_self tree .folder (List.cons_ne_nil place.name place.folder)) fun _ => rfl⟩

/-- A path to a folder leads somewhere. -/
theorem exists_locate_of_kind? {tree : FileTree} {path : Path} {kind : FileKind}
    (isKind : tree.kind? path = some kind) : ∃ location, tree.locate path = .ok location := by
  rw [kind?] at isKind
  cases located : tree.locate path with
  | error error =>
    rw [located] at isKind
    cases isKind
  | ok location => exact ⟨location, rfl⟩

/-- Making a folder that may be there leaves one where the path leads. -/
theorem exists_locate_of_ensureFolder {tree after : FileTree} {path : Path}
    (made : (FileAccess.ensureFolder path : ExceptT FileError (StateM FileTree) Unit).run.run
      tree = (.ok (), after)) : ∃ folder, after.locate path = .ok folder := by
  unfold FileAccess.ensureFolder at made
  rw [ExceptT.run_mk, StateT.run_bind] at made
  simp only [bind] at made
  cases answered : (FileAccess.makeFolder path : StateM FileTree _).run tree with
  | mk answer middle =>
    rw [answered] at made
    dsimp only at made
    split at made
    · cases congrArg Prod.snd made
      exact exists_locate_of_makeFolder (update_eq_ok (fun tree => tree.makeFolder path) answered)
    · rename_i error
      have told : (if decide (middle.kind? path = some .folder) = true then .ok ()
          else .error error, middle) = ((.ok (), after) : Except FileError Unit × FileTree) := made
      obtain ⟨isFolder, rfl⟩ := Prod.mk.inj told
      split at isFolder
      · rename_i stands
        exact exists_locate_of_kind? (of_decide_eq_true stands)
      · cases isFolder

/-- The folders around a path and the one that it names are there once they were made. -/
theorem exists_leadsInto_of_makeFolders {tree after : FileTree} {path : Path}
    (made : (FileAccess.makeFolders path : ExceptT FileError (StateM FileTree) Unit).run.run tree =
      (.ok (), after)) : ∃ folder, after.LeadsInto path folder := by
  rw [FileAccess.makeFolders, FileAccess.makeFoldersWithin] at made
  split at made
  · rename_i empty
    cases congrArg Prod.snd made
    exact ⟨tree.here, Or.inr ⟨String.isEmpty_iff.mp empty, rfl⟩⟩
  · obtain ⟨answer, middle, asked, rest⟩ := run_bind_eq_ok made
    have answered := run_lift_eq_ok asked
    split at rest
    · cases congrArg Prod.snd rest
      obtain ⟨folder, located⟩ :=
        exists_locate_of_makeFolder (update_eq_ok (fun tree => tree.makeFolder path) answered)
      exact ⟨folder, Or.inl located⟩
    · split at rest
      · cases congrArg Prod.fst rest
      · obtain ⟨⟨⟩, around, -, ensured⟩ := run_bind_eq_ok rest
        obtain ⟨folder, located⟩ := exists_locate_of_ensureFolder ensured
        exact ⟨folder, Or.inl located⟩
    · obtain ⟨isFolder, same, question, rest⟩ := run_bind_eq_ok rest
      have told := run_lift_eq_ok question
      split at rest
      · rename_i stands
        cases congrArg Prod.snd rest
        rw [stands] at told
        obtain ⟨rfl, stands⟩ := isFolder_of_run told
        obtain ⟨folder, located⟩ := exists_locate_of_kind? stands
        exact ⟨folder, Or.inl located⟩
      · cases congrArg Prod.fst rest

end FileTree

end Stencil
