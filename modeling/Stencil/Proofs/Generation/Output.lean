import Stencil.Proofs.Files.Folders
import Stencil.Proofs.Generation.Session

/-!
# What rendering to a file changes

A template is rendered before anything is written, so a template that cannot be rendered leaves all
files as they are. Then the folders around the output are made, and last the file is written at
once: when one of these fails there may be new folders, and nothing else is different.
-/

namespace Stencil

namespace Session

/-- A file is written at once, or not at all. -/
theorem perform_write (session : Session FileTree) (path : Path) (content : ByteArray)
    (report : FileError → Failure) :
    let ended := session.perform (Generation.ofFiles report
      (ExceptT.mk (FileAccess.write path content)))
    (∃ failure, ended.1 = .error failure ∧ ended.2.files = session.files) ∨
      ended.1 = .ok () ∧ session.files.write path content = .ok ended.2.files := by
  intro ended
  have answered : ended = _ := session.perform_ofFiles report _
  have asked : ((ExceptT.mk (FileAccess.write path content) :
      ExceptT FileError (StateM FileTree) Unit).run.run session.files) =
        FileTree.update (fun tree => tree.write path content) session.files := rfl
  rw [answered, asked, FileTree.update]
  cases session.files.write path content with
  | error error => exact Or.inl ⟨report error, rfl, rfl⟩
  | ok after => exact Or.inr ⟨rfl, rfl⟩

/-- Writing an output makes folders around it first. Then the file is written, or nothing more is
done and there is a failure. -/
theorem exists_extends_writeOutput (session : Session FileTree) (path : Path) (text : String) :
    let ended := session.perform (Run.writeOutput path text)
    ∃ made, FileTree.Extends (fun outer => outer.Encloses path) session.files made ∧
      ((∃ failure, ended.1 = .error failure ∧ ended.2.files = made) ∨
        ended.1 = .ok () ∧ made.write path text.toUTF8 = .ok ended.2.files) := by
  unfold Run.writeOutput
  split
  · rename_i folder around
    split
    · rw [perform_bind, perform_ofFiles]
      have grown := (AddsFolders.makeFolders folder).mono (fun outer within =>
        (Relation.TransGen.tail' within around : outer.Encloses path)) session.files
      refine ⟨_, grown, ?_⟩
      cases ((FileAccess.makeFolders folder : ExceptT FileError (StateM FileTree) Unit).run.run
          session.files).1 with
      | error error => exact Or.inl ⟨_, rfl, rfl⟩
      | ok done => exact perform_write _ path text.toUTF8 _
    · exact ⟨session.files, .refl _ _, session.perform_write path text.toUTF8 _⟩
  · exact ⟨session.files, .refl _ _, session.perform_write path text.toUTF8 _⟩

/-- Rendering a template to a file is rendering it and writing its text. -/
theorem perform_renderTemplate_of_renderFile (session : Session FileTree)
    (template output : String) (metadata : List Metadata) :
    session.perform (session.run.renderTemplate template output metadata) =
      match session.perform
        (session.run.renderFile (session.run.config.resolve template) metadata) with
      | (.ok text, after) =>
        after.perform (Run.writeOutput (session.run.config.resolve output) text)
      | (.error failure, after) => (.error failure, after) := by
  rw [Run.renderTemplate, perform_bind]
  cases session.perform
      (session.run.renderFile (session.run.config.resolve template) metadata) with
  | mk result after => cases result <;> rfl

/-- What rendering a template to a file changes. With any failure but one of the output all files
and folders are as they were. With one of the output there may be new folders, named by paths
around that of the output, and nothing else is different. And with success the output has exactly
the text of the template, where no folder stood, and besides that there may only be such folders. -/
theorem changes_of_renderTemplate (session : Session FileTree) (template output : String)
    (metadata : List Metadata) :
    let path := session.run.config.resolve output
    let rendered := session.perform
      (session.run.renderFile (session.run.config.resolve template) metadata)
    let ended := session.perform (session.run.renderTemplate template output metadata)
    (∀ failure, ended.1 = .error failure →
      (∀ report place, failure ≠ .outputWrite report place) →
        ended.2.files = session.files) ∧
    (∀ report place, ended.1 = .error (.outputWrite report place) →
      FileTree.Extends (fun outer => outer.Encloses path) session.files ended.2.files) ∧
    (ended.1 = .ok () → ∃ text target, rendered.1 = .ok text ∧
      ended.2.files.locate path = .ok target ∧ ended.2.files.read path = .ok text.toUTF8 ∧
      FileTree.Gains (fun outer => outer.Encloses path) target text.toUTF8 session.files
        ended.2.files) := by
  intro path rendered ended
  have untouched := Generation.LeavesFiles.renderFile FileTree.readsOnly session.run
    (session.run.config.resolve template) metadata session
  have composed := session.perform_renderTemplate_of_renderFile template output metadata
  cases outcome : session.perform
      (session.run.renderFile (session.run.config.resolve template) metadata) with
  | mk result after =>
    rw [outcome] at composed untouched
    dsimp only at untouched
    cases result with
    | error failure =>
      have same : ended = (.error failure, after) := composed
      rw [same, ← untouched]
      exact ⟨fun _ _ _ => rfl, fun report place _ => .refl _ _, nofun⟩
    | ok text =>
      have same : ended = after.perform (Run.writeOutput path text) := composed
      have rendering : rendered.1 = .ok text := congrArg Prod.fst outcome
      rw [same, ← untouched]
      obtain ⟨made, grown, ⟨failure, failed, left⟩ | ⟨succeeded, written⟩⟩ :=
        after.exists_extends_writeOutput path text
      · refine ⟨fun other fails noOutput => ?_, fun report place fails => ?_, fun succeeds => ?_⟩
        · obtain ⟨place, message, same⟩ :=
            Generation.FailsWith.writeOutput path text after other fails
          exact absurd same (noOutput _ _)
        · rw [left]
          exact grown
        · rw [failed] at succeeds
          cases succeeds
      · refine ⟨fun other fails => ?_, fun report place fails => ?_, fun _ => ?_⟩
        · rw [succeeded] at fails
          cases fails
        · rw [succeeded] at fails
          cases fails
        · obtain ⟨target, located, gains⟩ := grown.write written
          exact ⟨text, target, rendering, located,
            FileTree.read_of_locate located gains.written, gains⟩

/-- An old output is overwritten by a shorter one, a template that is missing leaves everything as
it is, and an output that is a folder leaves the new folder around it behind. -/
theorem changes_of_renderTemplate_sample :
    let files := ((FileTree.empty []).put ["t"] (.file "\x7b\x7b x \x7d\x7d".toUTF8)).put ["o"]
      (.file "old".toUTF8)
    let session := start ⟨⟨⟨"entry"⟩, ⟨"data"⟩, ⟨"/"⟩, ⟨"/"⟩, .standard, 64⟩, .empty⟩ files
    let render (template output : String) :=
      session.perform (session.run.renderTemplate template output [⟨"x", "1"⟩])
    (render "/m" "/o").2.files = session.files ∧
      FileTree.Extends (fun outer => outer.Encloses (session.run.config.resolve "/n/p/"))
        session.files (render "/t" "/n/p/").2.files ∧
      (render "/t" "/n/p/").2.files.kind? ⟨"/n"⟩ = some .folder ∧
      (render "/t" "/./o").2.files.read (session.run.config.resolve "/./o") = .ok "1".toUTF8 := by
  intro files session
  dsimp only
  refine ⟨?_, ?_, by decide +kernel, ?_⟩
  · exact (changes_of_renderTemplate session "/m" "/o" [⟨"x", "1"⟩]).1
      (.ofTemplate "/m" "No such file or directory (os error 2)") (by decide +kernel) nofun
  · exact (changes_of_renderTemplate session "/t" "/n/p/" [⟨"x", "1"⟩]).2.1
      ⟨"Is a directory (os error 21)", some "Check that the destination is writable", some 302⟩
      "/n/p/" (by decide +kernel)
  · obtain ⟨text, target, rendered, -, read, -⟩ :=
      (changes_of_renderTemplate session "/t" "/./o" [⟨"x", "1"⟩]).2.2 (by decide +kernel)
    have rendering : (session.perform (session.run.renderFile (session.run.config.resolve "/t")
        [⟨"x", "1"⟩])).1 = .ok "1" := by decide +kernel
    cases rendering.symm.trans rendered
    exact read

end Session

end Stencil
