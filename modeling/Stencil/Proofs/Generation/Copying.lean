import Stencil.Proofs.Files.Copying
import Stencil.Proofs.Generation.Session

/-!
# What copying a folder changes

The folder that is copied to is made first, and then the files of the other folder are copied one
after the other, as far as their paths are not too long. Nothing else changes. A file keeps its
bytes and gets a copy unless the two folders are one and the same, in whatever spelling: then the
copy is emptied before the file is read, and the file is lost.
-/

namespace Stencil

namespace Session

open FileTree

/-- The first of several names is that of a file, which is copied before the others, or it is passed
over. -/
theorem perform_copyFiles_cons (session : Session FileTree) (source target : Path) (name : String)
    (rest : List (Except FileError String)) :
    session.perform (Run.copyFiles source target (.ok name :: rest)) =
      if session.files.kind? (source.join ⟨name⟩) = some .file then
        match (FileAccess.copyFile (source.join ⟨name⟩) (target.join ⟨name⟩) :
            ExceptT FileError (StateM FileTree) Unit).run.run session.files with
        | (.ok (), files) => { session with files }.perform (Run.copyFiles source target rest)
        | (.error error, files) =>
          (.error (.ofOutput (target.join ⟨name⟩).text error.message), { session with files })
      else session.perform (Run.copyFiles source target rest) := by
  have answer : ((FileAccess.isFile (source.join ⟨name⟩) : StateM FileTree Bool).run
      session.files) = (decide (session.files.kind? (source.join ⟨name⟩) = some .file),
        session.files) := rfl
  rw [Run.copyFiles, perform_bind, perform_ask, answer]
  dsimp only
  by_cases isFile : session.files.kind? (source.join ⟨name⟩) = some .file
  · rw [if_pos isFile, if_pos (decide_eq_true isFile), perform_bind, perform_ofFiles]
    cases (FileAccess.copyFile (source.join ⟨name⟩) (target.join ⟨name⟩) :
        ExceptT FileError (StateM FileTree) Unit).run.run session.files with
    | mk result files => cases result <;> rfl
  · rw [if_neg isFile, if_neg (by simpa using isFile)]

/-- Files that are copied by name are copied, as far as their paths are not too long. -/
theorem copiesTo_of_copyFiles (session : Session FileTree) {source target : Path}
    {inside outside : Location} {names : List String}
    (leads : session.files.LeadsInto source inside)
    (leadsOut : session.files.LeadsInto target outside)
    (inFolder : session.files.item? inside = some .folder)
    (proper : ∀ name ∈ names, IsName name)
    (succeeds : (session.perform (Run.copyFiles source target (names.map .ok))).1 = .ok ()) :
    CopiesTo (fun name => name ∈ names ∧ (source.join ⟨name⟩).text.utf8ByteSize < pathLimit)
      inside outside session.files
      (session.perform (Run.copyFiles source target (names.map .ok))).2.files := by
  induction names generalizing session with
  | nil => exact .refl fun name content chosen => absurd chosen.1 List.not_mem_nil
  | cons name rest ih =>
    have properName := proper name List.mem_cons_self
    have properRest (other : String) (member : other ∈ rest) :=
      proper other (List.mem_cons_of_mem name member)
    rw [List.map_cons, perform_copyFiles_cons] at succeeds ⊢
    split at succeeds
    · rename_i isFile
      obtain ⟨short, content, file⟩ := (leads.kind?_join properName inFolder).mp isFile
      rw [if_pos isFile]
      cases copied : (FileAccess.copyFile (source.join ⟨name⟩) (target.join ⟨name⟩) :
          ExceptT FileError (StateM FileTree) Unit).run.run session.files with
      | mk result files =>
        rw [copied] at succeeds
        cases result with
        | error error => cases succeeds
        | ok done =>
          have first := copiesTo_of_copyFile leads leadsOut properName inFolder short file copied
          have ways := first.keepsWays
          have others := ih { session with files } (ways.leadsInto leads) (ways.leadsInto leadsOut)
            (ways.folders _ inFolder) properRest succeeds
          refine (first.trans others).congr fun other bytes _ => ?_
          rw [List.mem_cons, or_and_right]
          exact or_congr_left ⟨fun same => ⟨same, same ▸ short⟩, And.left⟩
    · rename_i noFile
      rw [if_neg noFile]
      have others := ih session leads leadsOut inFolder properRest succeeds
      refine others.congr fun other bytes file => and_congr_left fun short => ?_
      rw [List.mem_cons, or_iff_right]
      rintro rfl
      exact noFile ((leads.kind?_join properName inFolder).mpr ⟨short, bytes, file⟩)

/-- A folder is copied by making the other one and copying the files that stand in it then. A source
that is no folder changes nothing. -/
theorem perform_copyFolder (session : Session FileTree) (source target : String) :
    session.perform (session.run.copyFolder source target) =
      let folder := session.run.config.resolve source
      let copy := session.run.config.resolve target
      if session.files.kind? folder = some .folder then
        match (FileAccess.makeFolders copy : ExceptT FileError (StateM FileTree) Unit).run.run
            session.files with
        | (.ok (), files) =>
          match files.names folder with
          | .ok names =>
            { session with files }.perform (Run.copyFiles folder copy (names.map .ok))
          | .error error =>
            (.error (.ofOutput folder.text error.message), { session with files })
        | (.error error, files) =>
          (.error (.ofOutput copy.text error.message), { session with files })
      else (.ok (), session) := by
  have answer (path : Path) : ((FileAccess.isFolder path : StateM FileTree Bool).run
      session.files) = (decide (session.files.kind? path = some .folder), session.files) := rfl
  have names (files : FileTree) (path : Path) :
      (ExceptT.mk (FileAccess.names path) : ExceptT FileError (StateM FileTree) _).run.run files =
        ((files.names path).map fun found => found.map .ok, files) := rfl
  rw [Run.copyFolder, perform_bind, perform_ask, answer]
  dsimp only
  by_cases isFolder : session.files.kind? (session.run.config.resolve source) = some .folder
  · rw [if_pos isFolder, if_pos (decide_eq_true isFolder), perform_bind, perform_ofFiles]
    cases (FileAccess.makeFolders (session.run.config.resolve target) :
        ExceptT FileError (StateM FileTree) Unit).run.run session.files with
    | mk result files =>
      cases result with
      | error error => rfl
      | ok done =>
        dsimp only [Except.mapError]
        rw [perform_bind, perform_ofFiles, names]
        cases files.names (session.run.config.resolve source) <;> rfl
  · rw [if_neg isFolder, if_neg (by simpa using isFolder)]
    rfl

/-- Copying all names of a folder once the target was made duplicates the files of the folder, as
far as their paths are not too long. -/
theorem exists_duplicates_of_copyFiles (session : Session FileTree)
    (named : session.files.Named) {folder copy : Path} {inside : Location}
    (located : session.files.locate folder = .ok inside)
    (inFolder : session.files.item? inside = some .folder) {made : FileTree}
    (makes : (FileAccess.makeFolders copy : ExceptT FileError (StateM FileTree) Unit).run.run
      session.files = (.ok (), made))
    {ended : Except Failure Unit × Session FileTree}
    (copies : ended =
      match made.names folder with
      | .ok names => { session with files := made }.perform
          (Run.copyFiles folder copy (names.map .ok))
      | .error error =>
        (.error (.ofOutput folder.text error.message), { session with files := made }))
    (succeeds : ended.1 = .ok ()) :
    ∃ outside, ended.2.files.LeadsInto copy outside ∧
      Duplicates (fun outer => Relation.ReflTransGen Path.IsAround outer copy)
        (fun name => (folder.join ⟨name⟩).text.utf8ByteSize < pathLimit) inside outside
        session.files ended.2.files := by
  have grown : Extends (fun outer => Relation.ReflTransGen Path.IsAround outer copy)
      session.files made := by
    have adds := AddsFolders.makeFolders copy session.files
    rwa [makes] at adds
  have ways := grown.keepsWays
  rw [names_eq (ways.locate located) (ways.folders _ inFolder)] at copies
  have members (name : String) : name ∈ made.namesIn inside ↔
      (made.item? (name :: inside)).isSome := mem_namesIn
  have proper (name : String) (member : name ∈ made.namesIn inside) : IsName name :=
    grown.proper named name inside ((members name).mp member)
  obtain ⟨outside, leadsOut⟩ := exists_leadsInto_of_makeFolders makes
  rw [copies] at succeeds ⊢
  have copied := (copiesTo_of_copyFiles { session with files := made }
    (Or.inl (ways.locate located)) leadsOut (ways.folders _ inFolder) proper succeeds).congr
      fun name content file => and_iff_right ((members name).mpr (by rw [file]; rfl))
  exact ⟨outside, copied.keepsWays.leadsInto leadsOut, grown.duplicates copied⟩

/-- What copying a folder changes. A source that is no folder changes nothing. When a folder is
copied with success, the files in it whose paths are not too long have copies in the target, and
nothing else is different but new folders, which the target names or is in. So all files keep their
bytes and have copies exactly when those with copies are not copied onto themselves or are empty,
and the others are in the target already. -/
theorem changes_of_copyFolder (session : Session FileTree) (named : session.files.Named)
    (source target : String) :
    let folder := session.run.config.resolve source
    let copy := session.run.config.resolve target
    let short (name : String) := (folder.join ⟨name⟩).text.utf8ByteSize < pathLimit
    let ended := session.perform (session.run.copyFolder source target)
    (session.files.kind? folder ≠ some .folder → ended = (.ok (), session)) ∧
    ∀ inside, session.files.locate folder = .ok inside →
      session.files.item? inside = some .folder → ended.1 = .ok () →
        ∃ outside, ended.2.files.LeadsInto copy outside ∧
          Duplicates (fun outer => Relation.ReflTransGen Path.IsAround outer copy) short
            inside outside session.files ended.2.files ∧
          (KeepsCopies inside outside session.files ended.2.files ↔
            ∀ name content, session.files.HasFile inside name content →
              (short name → inside = outside → content = .empty) ∧
              (¬short name → inside = outside ∨ session.files.HasFile outside name content)) := by
  intro folder copy short ended
  have composed : ended = _ := session.perform_copyFolder source target
  dsimp only at composed
  refine ⟨fun noFolder => composed.trans (if_neg noFolder),
    fun inside located inFolder succeeds => ?_⟩
  have isFolder : session.files.kind? folder = some .folder := by
    rw [kind?, located]
    dsimp only
    rw [inFolder]
  rw [if_pos isFolder] at composed
  cases makes : (FileAccess.makeFolders copy :
      ExceptT FileError (StateM FileTree) Unit).run.run session.files with
  | mk result made =>
    rw [makes] at composed
    cases result with
    | error error =>
      rw [composed] at succeeds
      cases succeeds
    | ok done =>
      obtain ⟨outside, leads, duplicates⟩ := session.exists_duplicates_of_copyFiles named located
        inFolder makes composed succeeds
      exact ⟨outside, leads, duplicates, duplicates.keepsCopies_iff⟩

/-- A folder that is copied into another one keeps its file, which gets a copy; one that is copied
onto itself in another spelling loses it; and a source that is missing changes nothing. -/
theorem changes_of_copyFolder_sample :
    let files := ((FileTree.empty []).put ["a"] .folder).put ["x", "a"] (.file "hello".toUTF8)
    let session := start ⟨⟨⟨"entry"⟩, ⟨"data"⟩, ⟨"/"⟩, ⟨"/"⟩, .standard, 64⟩, .empty⟩ files
    let copy (source target : String) :=
      session.perform (session.run.copyFolder source target)
    KeepsCopies ["a"] ["b"] session.files (copy "/a" "/b").2.files ∧
      ¬KeepsCopies ["a"] ["a"] session.files (copy "/a" "/./a").2.files ∧
      (copy "/a" "/./a").2.files.read ⟨"/a/x"⟩ = .ok .empty ∧
      copy "/m" "/b" = (.ok (), session) := by
  intro files session
  dsimp only
  have named : session.files.Named := by decide +kernel
  have only (name : String) (content : ByteArray)
      (file : session.files.HasFile ["a"] name content) : name = "x" := by
    have listed : ∀ entry ∈ session.files.items, entry.1.tail = ["a"] →
        entry.1.head? = some "x" := by decide +kernel
    obtain ⟨entry, member, same⟩ := isSome_item?_iff.mp (by rw [file]; rfl)
    have first := listed entry member (by rw [same]; rfl)
    rw [same] at first
    exact Option.some.inj first
  refine ⟨?_, ?_, by decide +kernel, ?_⟩
  · obtain ⟨outside, located | ⟨empty, -⟩, -, keeps⟩ :=
      (changes_of_copyFolder session named "/a" "/b").2 ["a"] (by decide +kernel) rfl
        (by decide +kernel)
    · have target : (session.perform (session.run.copyFolder "/a" "/b")).2.files.locate
          (session.run.config.resolve "/b") = .ok ["b"] := by decide +kernel
      cases target.symm.trans located
      exact keeps.mpr fun name content file => ⟨fun _ same => absurd same (by decide),
        fun long => absurd (by rw [only name content file]; decide +kernel) long⟩
    · exact absurd empty (by decide +kernel)
  · obtain ⟨outside, located | ⟨empty, -⟩, -, keeps⟩ :=
      (changes_of_copyFolder session named "/a" "/./a").2 ["a"] (by decide +kernel) rfl
        (by decide +kernel)
    · have target : (session.perform (session.run.copyFolder "/a" "/./a")).2.files.locate
          (session.run.config.resolve "/./a") = .ok ["a"] := by decide +kernel
      cases target.symm.trans located
      intro kept
      have empty := (keeps.mp kept "x" "hello".toUTF8 rfl).1 (by decide +kernel) rfl
      exact absurd empty (by decide +kernel)
    · exact absurd empty (by decide +kernel)
  · exact (changes_of_copyFolder session named "/m" "/b").1 (by decide +kernel)

end Session

end Stencil
