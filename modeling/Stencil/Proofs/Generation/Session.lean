import Stencil.Files.Tree
import Stencil.Generation.Drive
import Stencil.Proofs.Evaluation.Depth

/-!
# Sessions

A session is a run at one moment: what it was told, the templates it has parsed and the files as
they are. A computation comes to a result in a session and leaves another session behind. How
files answer is left open here: any kind of files will do, with any answer to any request.
-/

namespace Stencil

/-- Whether reading a file leaves all files as they are. -/
def FileAccess.ReadsOnly (Files : Type) [FileAccess (StateM Files)] : Prop :=
  ∀ (path : Path) (files : Files), ((read path : StateM Files _).run files).2 = files

/-- Reading a text leaves all files as they are when reading the bytes does. -/
theorem FileAccess.ReadsOnly.readText {Files : Type} [FileAccess (StateM Files)]
    (reads : ReadsOnly Files) (path : Path) (files : Files) :
    ((FileAccess.readText path : ExceptT FileError (StateM Files) String).run.run files).2 =
      files := by
  have untouched := reads path files
  unfold FileAccess.readText
  simp only [ExceptT.run_bind, StateT.run_bind, ExceptT.run_mk]
  cases answer : (FileAccess.read path : StateM Files _).run files with
  | mk result after =>
    rw [answer] at untouched
    simp only [Bind.bind]
    cases result with
    | error error => exact untouched
    | ok content =>
      dsimp only
      split
      · exact untouched
      · split <;> exact untouched

/-- Reading a file of a tree leaves the tree as it is. -/
theorem FileTree.readsOnly : FileAccess.ReadsOnly FileTree := fun _ _ => rfl

/-- A run at one moment. -/
structure Session (Files : Type) where
  /-- The configuration and the global data. -/
  run : Run
  /-- The templates parsed so far. -/
  documents : DocumentCache
  /-- The files as they are. -/
  files : Files

namespace Session

variable {Files α β : Type}

/-- A session in which nothing has been parsed. -/
def start (run : Run) (files : Files) : Session Files := ⟨run, [], files⟩

/-- The session with other parsed templates. -/
def withDocuments (session : Session Files) (documents : DocumentCache) : Session Files :=
  { session with documents }

/-- The result of a computation and the session after it. -/
def perform (session : Session Files) (computation : Generation (StateM Files) α) :
    Except Failure α × Session Files :=
  let ((result, documents), files) := (computation.run.run session.documents).run session.files
  (result, ⟨session.run, documents, files⟩)

/-- What follows a computation starts in the session it has left, unless it has failed. -/
theorem perform_bind (session : Session Files) (first : Generation (StateM Files) α)
    (next : α → Generation (StateM Files) β) :
    session.perform (first >>= next) =
      match session.perform first with
      | (.ok value, after) => after.perform (next value)
      | (.error failure, after) => (.error failure, after) := by
  obtain ⟨run, documents, files⟩ := session
  unfold perform ExceptT.run StateT.run
  simp only [bind, ExceptT.bind, ExceptT.mk, StateT.bind, ExceptT.bindCont]
  cases first documents files with
  | mk outcome after =>
    cases outcome with
    | mk result later => cases result <;> rfl

/-- The templates parsed so far are what a computation gets to see of them. -/
theorem perform_get (session : Session Files) :
    session.perform get = (.ok session.documents, session) := rfl

/-- A question to the files is answered by the files as they are. -/
theorem perform_ask (session : Session Files) (question : StateM Files α) :
    session.perform (Generation.ask question) =
      (.ok (question.run session.files).1,
        { session with files := (question.run session.files).2 }) := rfl

/-- An error of the files becomes a failure. -/
theorem perform_ofFiles (session : Session Files) (failure : FileError → Failure)
    (computation : ExceptT FileError (StateM Files) α) :
    session.perform (Generation.ofFiles failure computation) =
      ((computation.run.run session.files).1.mapError failure,
        { session with files := (computation.run.run session.files).2 }) := by
  rw [Generation.ofFiles, perform_bind, perform_ask]
  cases (computation.run.run session.files).1 <;> rfl

end Session

namespace Generation

variable {Files α β : Type}

/-- Whether a computation has nothing to do with parsed templates: with others it comes to the same
result and the same files, and it keeps those there are. -/
def LeavesDocuments (computation : Generation (StateM Files) α) : Prop :=
  ∀ (session : Session Files) (documents : DocumentCache),
    (session.withDocuments documents).perform computation =
      ((session.perform computation).1,
        (session.perform computation).2.withDocuments documents)

namespace LeavesDocuments

/-- The parsed templates after such a computation are those before it. -/
theorem documents_perform {computation : Generation (StateM Files) α}
    (leaves : LeavesDocuments computation) (session : Session Files) :
    (session.perform computation).2.documents = session.documents :=
  congrArg (fun outcome => outcome.2.documents) (leaves session session.documents)

/-- A value has nothing to do with parsed templates. -/
theorem pure (value : α) :
    LeavesDocuments (Pure.pure value : Generation (StateM Files) α) :=
  fun _ _ => rfl

/-- A failure has nothing to do with parsed templates. -/
theorem throw (failure : Failure) :
    LeavesDocuments (MonadExcept.throw failure : Generation (StateM Files) α) :=
  fun _ _ => rfl

/-- Computations in a row have nothing to do with parsed templates when none of them has. -/
theorem bind {first : Generation (StateM Files) α} {next : α → Generation (StateM Files) β}
    (leaves : LeavesDocuments first) (others : ∀ value, LeavesDocuments (next value)) :
    LeavesDocuments (first >>= next) := by
  intro session documents
  rw [Session.perform_bind, Session.perform_bind, leaves session documents]
  cases session.perform first with
  | mk result after =>
    cases result with
    | error failure => rfl
    | ok value => exact others value after documents

/-- A question to the files has nothing to do with parsed templates. -/
theorem ask (question : StateM Files α) : LeavesDocuments (Generation.ask question) :=
  fun _ _ => rfl

/-- A request to the files has nothing to do with parsed templates. -/
theorem ofFiles (failure : FileError → Failure)
    (computation : ExceptT FileError (StateM Files) α) :
    LeavesDocuments (Generation.ofFiles failure computation) := by
  intro session documents
  rw [Session.perform_ofFiles, Session.perform_ofFiles]
  rfl

/-- Taking entries out of an array has nothing to do with parsed templates. -/
theorem unpack (items : List Script.Value) :
    LeavesDocuments (Run.unpack items : Generation (StateM Files) Unit) := by
  unfold Run.unpack
  split
  · exact pure ()
  · exact throw _

variable [FileAccess (StateM Files)]

/-- Writing an output has nothing to do with parsed templates. -/
theorem writeOutput (path : Path) (text : String) :
    LeavesDocuments (Run.writeOutput path text : Generation (StateM Files) Unit) := by
  unfold Run.writeOutput
  split
  · split
    · exact bind (ofFiles _ _) fun _ => ofFiles _ _
    · exact ofFiles _ _
  · exact ofFiles _ _

/-- Copying files has nothing to do with parsed templates. -/
theorem copyFiles (source target : Path) (names : List (Except FileError String)) :
    LeavesDocuments (Run.copyFiles source target names : Generation (StateM Files) Unit) := by
  induction names with
  | nil => exact pure ()
  | cons name rest ih =>
    cases name with
    | error error => exact throw _
    | ok name =>
      unfold Run.copyFiles
      refine bind (ask _) fun isFile => ?_
      split
      · exact bind (ofFiles _ _) fun _ => ih
      · exact ih

/-- Copying a folder has nothing to do with parsed templates. -/
theorem copyFolder (run : Run) (source target : String) :
    LeavesDocuments (run.copyFolder source target : Generation (StateM Files) Unit) := by
  unfold Run.copyFolder
  refine bind (ask _) fun isFolder => ?_
  split
  · exact bind (ofFiles _ _) fun _ => bind (ofFiles _ _) fun names => copyFiles _ _ names
  · exact pure ()

end LeavesDocuments

/-- Whether a computation leaves all files as they are, however it ends. -/
def LeavesFiles (computation : Generation (StateM Files) α) : Prop :=
  ∀ session : Session Files, (session.perform computation).2.files = session.files

namespace LeavesFiles

/-- A value leaves the files as they are. -/
theorem pure (value : α) : LeavesFiles (Pure.pure value : Generation (StateM Files) α) :=
  fun _ => rfl

/-- A failure leaves the files as they are. -/
theorem throw (failure : Failure) :
    LeavesFiles (MonadExcept.throw failure : Generation (StateM Files) α) :=
  fun _ => rfl

/-- Computations in a row leave the files as they are when each of them does. -/
theorem bind {first : Generation (StateM Files) α} {next : α → Generation (StateM Files) β}
    (leaves : LeavesFiles first) (others : ∀ value, LeavesFiles (next value)) :
    LeavesFiles (first >>= next) := by
  intro session
  have before := leaves session
  rw [Session.perform_bind]
  cases outcome : session.perform first with
  | mk result after =>
    rw [outcome] at before
    cases result with
    | error failure => exact before
    | ok value => exact (others value after).trans before

variable [FileAccess (StateM Files)]

/-- Reading a text leaves the files as they are when reading the bytes does. -/
theorem readText (reads : FileAccess.ReadsOnly Files) (failure : FileError → Failure)
    (path : Path) :
    LeavesFiles (Generation.ofFiles failure (FileAccess.readText path) :
      Generation (StateM Files) String) := by
  intro session
  rw [Session.perform_ofFiles]
  exact reads.readText path session.files

/-- Asking for a template leaves the files as they are. -/
theorem document (reads : FileAccess.ReadsOnly Files) (run : Run) (path : Path) :
    LeavesFiles (run.document path : Generation (StateM Files) Document) := by
  refine bind (fun _ => rfl) fun cache => ?_
  split
  · exact pure _
  · refine bind (readText reads _ path) fun source => ?_
    split
    · exact throw _
    · exact bind (fun _ => rfl) fun _ => pure _

/-- Rendering a template to a text leaves the files as they are. -/
theorem renderFile (reads : FileAccess.ReadsOnly Files) (run : Run) (path : Path)
    (metadata : List Metadata) :
    LeavesFiles (run.renderFile path metadata : Generation (StateM Files) String) := by
  refine bind (document reads run path) fun document => ?_
  split
  · exact pure _
  · exact throw _

/-- Reading the data leaves the files as they are. -/
theorem load (reads : FileAccess.ReadsOnly Files) (config : Config) :
    LeavesFiles (Run.load config : Generation (StateM Files) Run) := by
  refine bind (readText reads _ _) fun source => ?_
  split
  · exact throw _
  · split
    · exact throw _
    · exact pure _

end LeavesFiles

/-- Whether all failures of a computation are of one kind. -/
def FailsWith (kind : Failure → Prop) (computation : Generation (StateM Files) α) : Prop :=
  ∀ (session : Session Files) (failure : Failure),
    (session.perform computation).1 = .error failure → kind failure

namespace FailsWith

variable {kind : Failure → Prop}

/-- Computations in a row fail in one way when each of them does. -/
theorem bind {first : Generation (StateM Files) α} {next : α → Generation (StateM Files) β}
    (fails : FailsWith kind first) (others : ∀ value, FailsWith kind (next value)) :
    FailsWith kind (first >>= next) := by
  intro session failure failed
  rw [Session.perform_bind] at failed
  cases outcome : session.perform first with
  | mk result after =>
    rw [outcome] at failed
    cases result with
    | error refusal =>
      cases failed
      exact fails session failure (congrArg Prod.fst outcome)
    | ok value => exact others value after failure failed

/-- A request to the files fails in the way its errors are reported. -/
theorem ofFiles {report : FileError → Failure} (reports : ∀ error, kind (report error))
    (computation : ExceptT FileError (StateM Files) α) :
    FailsWith kind (Generation.ofFiles report computation) := by
  intro session failure failed
  rw [Session.perform_ofFiles] at failed
  dsimp only at failed
  cases answer : (computation.run.run session.files).1 with
  | ok value =>
    rw [answer] at failed
    cases failed
  | error error =>
    rw [answer] at failed
    cases failed
    exact reports error

/-- An output that is not written is a failure of the output. -/
theorem writeOutput [FileAccess (StateM Files)] (path : Path) (text : String) :
    FailsWith (fun failure => ∃ place message, failure = .ofOutput place message)
      (Run.writeOutput path text : Generation (StateM Files) Unit) := by
  have reports (place : String) (error : FileError) :
      ∃ other message, Failure.ofOutput place error.message = .ofOutput other message :=
    ⟨_, _, rfl⟩
  unfold Run.writeOutput
  split
  · split
    · exact bind (ofFiles (reports _) _) fun _ => ofFiles (reports _) _
    · exact ofFiles (reports _) _
  · exact ofFiles (reports _) _

end FailsWith

end Generation

namespace Session

variable {Files : Type} [FileAccess (StateM Files)]

/-- The answer to reading the text of a file. -/
def readText (session : Session Files) (path : Path) : Except FileError String × Files :=
  (FileAccess.readText path : ExceptT FileError (StateM Files) String).run.run session.files

/-- What the file at a path is as a template now, whatever was read before. -/
def reading (session : Session Files) (path : Path) : Except Failure Document :=
  match (session.readText path).1 with
  | .error error => .error (.ofTemplate path.text error.message)
  | .ok source =>
    match Document.parse session.run.config.delimiters source with
    | .error error => .error error.failure
    | .ok document => .ok document

/-- The session after the file at a path was read. -/
def afterReading (session : Session Files) (path : Path) : Session Files :=
  { session with files := (session.readText path).2 }

/-- Nothing is different after a file was read when reading leaves all files as they are. -/
theorem afterReading_eq (reads : FileAccess.ReadsOnly Files) (session : Session Files)
    (path : Path) : session.afterReading path = session := by
  rw [afterReading, readText, reads.readText]

/-- A template that was parsed is not read again; another one is read, and kept when it can be
parsed. -/
theorem perform_document (session : Session Files) (path : Path) :
    session.perform (session.run.document path) =
      match session.documents.find? path with
      | some known => (.ok known, session)
      | none =>
        match session.reading path with
        | .error failure => (.error failure, session.afterReading path)
        | .ok document => (.ok document, (session.afterReading path).withDocuments
            (session.documents.add path document)) := by
  rw [Run.document, Generation.document, perform_bind, perform_get]
  dsimp only
  cases session.documents.find? path with
  | some known => rfl
  | none =>
    dsimp only
    rw [perform_bind, perform_ofFiles, reading, afterReading, readText]
    cases ((FileAccess.readText path : ExceptT FileError (StateM Files) String).run.run
        session.files).1 with
    | error error => rfl
    | ok source =>
      have noError (report : FileError → Failure) :
          (Except.ok source).mapError report = .ok source := rfl
      rw [noError]
      dsimp only
      cases Document.parse session.run.config.delimiters source <;> rfl

/-- The text of a template is that of its document in the global data under the metadata. -/
theorem perform_renderFile (session : Session Files) (path : Path) (metadata : List Metadata) :
    session.perform (session.run.renderFile path metadata) =
      match session.perform (session.run.document path) with
      | (.error failure, after) => (.error failure, after)
      | (.ok document, after) =>
        (document.render session.run.config.depthLimit (session.run.store metadata), after) := by
  rw [Run.renderFile, perform_bind]
  cases session.perform (session.run.document path) with
  | mk result after =>
    cases result with
    | error failure => rfl
    | ok document =>
      dsimp only
      cases document.render session.run.config.depthLimit (session.run.store metadata) <;> rfl

/-- Render a document to an output file. -/
def deliver (session : Session Files) (document : Document) (output : String)
    (metadata : List Metadata) : Except Failure Unit × Session Files :=
  match document.render session.run.config.depthLimit (session.run.store metadata) with
  | .error failure => (.error failure, session)
  | .ok text => session.perform (Run.writeOutput (session.run.config.resolve output) text)

/-- A template is rendered by finding its document and delivering it. -/
theorem perform_renderTemplate (session : Session Files) (template output : String)
    (metadata : List Metadata) :
    session.perform (session.run.renderTemplate template output metadata) =
      match session.perform (session.run.document (session.run.config.resolve template)) with
      | (.error failure, after) => (.error failure, after)
      | (.ok document, after) => after.deliver document output metadata := by
  rw [Run.renderTemplate, perform_bind, perform_renderFile]
  cases found : session.perform (session.run.document (session.run.config.resolve template)) with
  | mk result after =>
    have run : after.run = session.run := congrArg (fun outcome => outcome.2.run) found.symm
    cases result with
    | error failure => rfl
    | ok document =>
      dsimp only [deliver]
      rw [run]
      cases document.render session.run.config.depthLimit (session.run.store metadata) <;> rfl

/-- Delivering a document has nothing to do with parsed templates. -/
theorem deliver_withDocuments (session : Session Files) (documents : DocumentCache)
    (document : Document) (output : String) (metadata : List Metadata) :
    (session.withDocuments documents).deliver document output metadata =
      ((session.deliver document output metadata).1,
        (session.deliver document output metadata).2.withDocuments documents) := by
  rw [deliver, deliver, show (session.withDocuments documents).run = session.run from rfl]
  cases document.render session.run.config.depthLimit (session.run.store metadata) with
  | error failure => rfl
  | ok text => exact Generation.LeavesDocuments.writeOutput _ text session documents

/-- A document that cannot be delivered has blocks that are nested too deep, or its output cannot be
written. -/
theorem deliver_eq_error {session : Session Files} {document : Document} {output : String}
    {metadata : List Metadata} {failure : Failure}
    (failed : (session.deliver document output metadata).1 = .error failure) :
    failure = .renderDepthExceeded session.run.config.depthLimit ∨
      ∃ place message, failure = .ofOutput place message := by
  rw [deliver] at failed
  cases rendered : document.render session.run.config.depthLimit
      (session.run.store metadata) with
  | error refusal =>
    rw [rendered] at failed
    cases failed
    exact Or.inl (Document.render_eq_error rendered)
  | ok text =>
    rw [rendered] at failed
    exact Or.inr (Generation.FailsWith.writeOutput _ text session failure failed)

end Session

end Stencil
