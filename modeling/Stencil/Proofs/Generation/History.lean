import Mathlib.Data.List.Induction
import Stencil.Proofs.Generation.Session

/-!
# Histories of sessions

What a session has parsed is told by its history alone. For every path it is the document of the
first reading that gave one, when a path with the same components was asked for; what has happened
to the file since makes no difference, and a reading that fails leaves no trace. The main statement
says so of any events in any order, changes to the files from outside among them, and says what
names mean in a rendering: the last entry of its own metadata, else the global data.
-/

namespace Stencil

/-- The template that a request asks for. -/
def Script.Request.template? (run : Run) : Script.Request → Option Path
  | .render template _ _ => some (run.config.resolve template)
  | .unpack _ => none
  | .copy _ _ => none

/-- Something that happens in a session. -/
inductive Event (Files : Type) where
  /-- A template is asked for. -/
  | document (path : Path)
  /-- A template is rendered to a text. -/
  | renderFile (path : Path) (metadata : List Metadata)
  /-- A template is rendered to an output file, or a folder is copied. -/
  | request (request : Script.Request)
  /-- The files are changed from outside. -/
  | outside (change : Files → Files)

namespace Event

/-- The template that an event asks for. -/
def template? {Files : Type} (run : Run) : Event Files → Option Path
  | .document path => some path
  | .renderFile path _ => some path
  | .request asked => asked.template? run
  | .outside _ => none

end Event

namespace DocumentCache

/-- Paths with the same components find the same. -/
theorem find?_of_components_eq (cache : DocumentCache) {path other : Path}
    (same : other.components = path.components) : cache.find? other = cache.find? path := by
  rw [find?, same, find?]

end DocumentCache

namespace Run

/-- The value of a name while a template is rendered: the text of the last entry of metadata with
that key, else what the global data says. -/
def meaning (run : Run) (metadata : List Metadata) (name : String) : Value :=
  match (metadata.filter fun entry => entry.key = name).getLast? with
  | some entry => .string entry.value
  | none => run.globals.resolve name

/-- The store of a rendering gives names their values. -/
theorem resolve_store (run : Run) (metadata : List Metadata) (name : String) :
    (run.store metadata).resolve name = run.meaning metadata name := by
  induction metadata using List.reverseRecOn with
  | nil => exact Store.resolve_push run.globals name
  | append_singleton earlier last ih =>
    have setLast : run.store (earlier ++ [last]) =
        (run.store earlier).set last.key (.string last.value) := by
      simp only [store, Store.setAll, List.map_append, List.map_cons, List.map_nil,
        List.foldl_append, List.foldl_cons, List.foldl_nil]
    rw [setLast, meaning, List.filter_append]
    by_cases same : last.key = name
    · rw [← same, Store.resolve_set_self]
      simp
    · rw [Store.resolve_set_of_ne _ _ (Ne.symm same), ih, meaning]
      simp [same]

end Run

namespace Session

variable {Files : Type} [FileAccess (StateM Files)]

/-- The session after an event. -/
def step (session : Session Files) : Event Files → Session Files
  | .document path => (session.perform (session.run.document path)).2
  | .renderFile path metadata => (session.perform (session.run.renderFile path metadata)).2
  | .request request => (session.perform (session.run.carryOut request)).2
  | .outside change => { session with files := change session.files }

/-- The session after events in order. -/
def after (session : Session Files) (events : List (Event Files)) : Session Files :=
  events.foldl step session

/-- What an event reads as the document of a path: the file must be one that the path names, and
it must be a template. -/
def readFor? (session : Session Files) (path : Path) (event : Event Files) : Option Document :=
  match event.template? session.run with
  | none => none
  | some asked =>
    if asked.components = path.components then (session.reading asked).toOption else none

/-- The first document that events in order read for a path, if one of them does. -/
def firstReading? (session : Session Files) (path : Path) : List (Event Files) → Option Document
  | [] => none
  | event :: later =>
    (session.readFor? path event).or ((session.step event).firstReading? path later)

/-- No event changes what the run was told. -/
theorem run_step (session : Session Files) (event : Event Files) :
    (session.step event).run = session.run := by
  cases event <;> rfl

/-- No events change what the run was told. -/
theorem run_after (session : Session Files) (events : List (Event Files)) :
    (session.after events).run = session.run := by
  induction events generalizing session with
  | nil => rfl
  | cons event later ih => exact (ih (session.step event)).trans (session.run_step event)

/-- Of the parsed templates an event changes no more than asking for its template does. -/
theorem documents_step (session : Session Files) (event : Event Files) :
    (session.step event).documents =
      match event.template? session.run with
      | none => session.documents
      | some path => (session.perform (session.run.document path)).2.documents := by
  cases event with
  | document path => rfl
  | renderFile path metadata =>
    simp only [step, Event.template?, perform_renderFile]
    cases session.perform (session.run.document path) with
    | mk result after => cases result <;> rfl
  | request request =>
    cases request with
    | copy source target =>
      exact (Generation.LeavesDocuments.copyFolder _ source target).documents_perform session
    | unpack items =>
      exact (Generation.LeavesDocuments.unpack items).documents_perform session
    | render template output metadata =>
      simp only [step, Event.template?, Script.Request.template?, Run.carryOut,
        perform_renderTemplate]
      cases session.perform (session.run.document (session.run.config.resolve template)) with
      | mk result after =>
        cases result with
        | error failure => rfl
        | ok document =>
          exact congrArg (fun outcome => outcome.2.documents)
            (after.deliver_withDocuments after.documents document output metadata)
  | outside change => rfl

/-- Asking for a template gives the parsed one, or else the one the file holds now. -/
theorem toOption_perform_document (session : Session Files) (path : Path) :
    (session.perform (session.run.document path)).1.toOption =
      (session.documents.find? path).or (session.reading path).toOption := by
  rw [perform_document]
  cases session.documents.find? path with
  | some known => rfl
  | none => cases session.reading path <;> rfl

/-- After an event a path finds what it found before, or else what the event has read for it. -/
theorem find?_step (session : Session Files) (event : Event Files) (path : Path) :
    (session.step event).documents.find? path =
      (session.documents.find? path).or (session.readFor? path event) := by
  rw [documents_step, readFor?]
  cases event.template? session.run with
  | none => exact Option.or_none.symm
  | some asked =>
    dsimp only
    rw [perform_document]
    by_cases same : asked.components = path.components
    · rw [if_pos same, ← session.documents.find?_of_components_eq same]
      have found (cache : DocumentCache) : cache.find? path = cache.find? asked :=
        cache.find?_of_components_eq same.symm
      cases known : session.documents.find? asked with
      | some document => exact (found session.documents).trans known
      | none =>
        cases session.reading asked with
        | error failure => exact (found session.documents).trans known
        | ok document => exact DocumentCache.find?_add_of_components_eq _ document same.symm
    · rw [if_neg same, Option.or_none]
      cases session.documents.find? asked with
      | some document => rfl
      | none =>
        cases session.reading asked with
        | error failure => rfl
        | ok document => exact DocumentCache.find?_add_of_components_ne _ document (Ne.symm same)

/-- After events a path finds what it found before, or else what they have first read for it. -/
theorem find?_after (session : Session Files) (events : List (Event Files)) (path : Path) :
    (session.after events).documents.find? path =
      (session.documents.find? path).or (session.firstReading? path events) := by
  induction events generalizing session with
  | nil => exact Option.or_none.symm
  | cons event later ih =>
    rw [show session.after (event :: later) = (session.step event).after later from rfl, ih,
      find?_step, Option.or_assoc, firstReading?]

/-- What a path finds after events all paths with the same components find. -/
theorem find?_after_of_components_eq (session : Session Files) (events : List (Event Files))
    {path other : Path} (same : other.components = path.components) :
    (session.after events).documents.find? other =
      (session.documents.find? path).or (session.firstReading? path events) := by
  rw [DocumentCache.find?_of_components_eq _ same, find?_after]

/-- What events first read for a path is read by some of them or else by the others. -/
theorem firstReading?_append (session : Session Files) (path : Path)
    (earlier later : List (Event Files)) :
    session.firstReading? path (earlier ++ later) =
      (session.firstReading? path earlier).or
        ((session.after earlier).firstReading? path later) := by
  induction earlier generalizing session with
  | nil => rfl
  | cons event rest ih =>
    rw [List.cons_append, firstReading?, ih, firstReading?, Option.or_assoc]
    rfl

/-- A template that was asked for with success is found from then on. -/
theorem find?_step_document {session : Session Files} {path : Path} {document : Document}
    (known : (session.perform (session.run.document path)).1 = .ok document) :
    (session.step (.document path)).documents.find? path = some document := by
  have asked : session.readFor? path (.document path) = (session.reading path).toOption :=
    if_pos rfl
  rw [find?_step, asked, ← toOption_perform_document, known]
  rfl

/-- A template that was asked for in vain was not known before, and nothing is kept of it. -/
theorem documents_step_document {session : Session Files} {path : Path} {failure : Failure}
    (failed : (session.perform (session.run.document path)).1 = .error failure) :
    session.documents.find? path = none ∧
      (session.step (.document path)).documents = session.documents := by
  rw [step]
  rw [perform_document] at failed ⊢
  cases known : session.documents.find? path with
  | some document =>
    rw [known] at failed
    cases failed
  | none =>
    rw [known] at failed
    refine ⟨rfl, ?_⟩
    cases read : session.reading path with
    | ok document =>
      rw [read] at failed
      cases failed
    | error _ => rfl

/-- A template that is not known is the one that the file holds now. -/
theorem perform_document_of_unknown {session : Session Files} {path : Path}
    (unknown : session.documents.find? path = none) :
    (session.perform (session.run.document path)).1 = session.reading path := by
  rw [perform_document, unknown]
  cases session.reading path <;> rfl

/-- A template that was asked for with success stays as it was, whatever happens later. -/
theorem perform_document_after {session : Session Files} {path other : Path}
    {document : Document} (known : (session.perform (session.run.document path)).1 = .ok document)
    (later : List (Event Files)) (same : other.components = path.components) :
    (((session.step (.document path)).after later).perform (session.run.document other)).1 =
      .ok document := by
  have sameRun : ((session.step (.document path)).after later).run = session.run :=
    (run_after _ later).trans (session.run_step (.document path))
  have found : ((session.step (.document path)).after later).documents.find? other =
      some document := by
    rw [find?_after_of_components_eq _ later same, find?_step_document known]
    rfl
  rw [← sameRun, perform_document, found]

/-- A template that was asked for in vain is read again as long as nothing was read for it. -/
theorem perform_document_after_of_unread {session : Session Files} {path other : Path}
    {failure : Failure}
    (failed : (session.perform (session.run.document path)).1 = .error failure)
    {later : List (Event Files)} (same : other.components = path.components)
    (unread : (session.step (.document path)).firstReading? path later = none) :
    (((session.step (.document path)).after later).perform (session.run.document other)).1 =
      ((session.step (.document path)).after later).reading other := by
  have sameRun : ((session.step (.document path)).after later).run = session.run :=
    (run_after _ later).trans (session.run_step (.document path))
  obtain ⟨unknown, kept⟩ := documents_step_document failed
  have missing : ((session.step (.document path)).after later).documents.find? other = none := by
    rw [find?_after_of_components_eq _ later same, kept, unknown, unread]
    rfl
  rw [← sameRun, perform_document_of_unknown missing]

/-- A template is rendered to a text when it is known or can be read, and its document has that
text in the store of the rendering. -/
theorem perform_renderFile_eq_ok_iff (session : Session Files) (path : Path)
    (metadata : List Metadata) (text : String) :
    (session.perform (session.run.renderFile path metadata)).1 = .ok text ↔
      ∃ document,
        (session.documents.find? path).or (session.reading path).toOption = some document ∧
        document.render session.run.config.depthLimit (session.run.store metadata) = .ok text := by
  rw [perform_renderFile, ← toOption_perform_document]
  cases session.perform (session.run.document path) with
  | mk result after =>
    cases result with
    | error failure => simp [Except.toOption]
    | ok document => simp [Except.toOption]

/-- What a session has done, whatever has happened in it and in any order. The global data is as it
was at the start. A template that was asked for with success stays as it was, for all paths with
the same components and whatever happens to the file. One that was asked for in vain leaves nothing
behind, and is read again as long as nothing was read for it. And a template is rendered to a text
when that is the text of the document first read for its path, in a store that gives a name the
text of its last entry in the metadata of this rendering, else its value in the global data. -/
theorem history (run : Run) (files : Files) (events : List (Event Files)) :
    let session := (start run files).after events
    session.run = run ∧
    (∀ path document, (session.perform (run.document path)).1 = .ok document →
      ∀ later other, other.components = path.components →
        let now := (session.step (.document path)).after later
        (now.perform (run.document other)).1 = .ok document) ∧
    (∀ path failure, (session.perform (run.document path)).1 = .error failure →
      (session.step (.document path)).documents = session.documents ∧
      ∀ later other, other.components = path.components →
        (session.step (.document path)).firstReading? path later = none →
          let now := (session.step (.document path)).after later
          (now.perform (run.document other)).1 = now.reading other) ∧
    ∀ path metadata, ∃ store : Store,
      (∀ name, store.resolve name = run.meaning metadata name) ∧
      ∀ text, (session.perform (run.renderFile path metadata)).1 = .ok text ↔
        ∃ document, (start run files).firstReading? path
            (events ++ [.renderFile path metadata]) = some document ∧
          document.render run.config.depthLimit store = .ok text := by
  intro session
  have sameRun : session.run = run := run_after (start run files) events
  rw [← sameRun]
  refine ⟨rfl, fun path document known later other same => ?_,
    fun path failure failed => ⟨(documents_step_document failed).2,
      fun later other same unread => ?_⟩,
    fun path metadata => ⟨_, session.run.resolve_store metadata, fun text => ?_⟩⟩
  · exact perform_document_after known later same
  · exact perform_document_after_of_unread failed same unread
  · have known : session.documents.find? path = (start run files).firstReading? path events :=
      find?_after (start run files) events path
    have asked : session.readFor? path (.renderFile path metadata) =
        (session.reading path).toOption := if_pos rfl
    rw [perform_renderFile_eq_ok_iff, known, firstReading?_append, sameRun]
    rw [show ((start run files).after events).firstReading? path [.renderFile path metadata] =
      (session.reading path).toOption from (Option.or_none).trans asked]

/-- A template that was rendered stays as it was under another spelling of its path, although the
file has changed; one that was missing is read once the file is there; and of two entries of
metadata with one key the last counts. -/
theorem history_sample :
    let files := (FileTree.empty []).put ["t"] (.file "a\x7b\x7b x \x7d\x7d".toUTF8)
    let run : Run := ⟨⟨⟨"entry"⟩, ⟨"data"⟩, ⟨"/"⟩, ⟨"/"⟩, .standard, 64⟩, .empty⟩
    let change (files : FileTree) : FileTree :=
      (files.put ["t"] (.file "b".toUTF8)).put ["u"] (.file "c".toUTF8)
    let session := (start run files).after [.renderFile ⟨"/t"⟩ [⟨"x", "1"⟩]]
    let found := (session.step (.document ⟨"/t"⟩)).after [.outside change]
    let sought := (session.step (.document ⟨"/u"⟩)).after [.outside change]
    (∃ document, (session.perform (run.document ⟨"/t"⟩)).1 = .ok document ∧
      (found.readText ⟨"/t"⟩).1 = .ok "b" ∧
        (found.perform (run.document ⟨"//t/"⟩)).1 = .ok document) ∧
    (∃ failure, (session.perform (run.document ⟨"/u"⟩)).1 = .error failure ∧
      (sought.perform (run.document ⟨"/u"⟩)).1 = sought.reading ⟨"/u"⟩) ∧
    ∃ document, (start run files).firstReading? ⟨"/t"⟩ [.renderFile ⟨"/t"⟩ [⟨"x", "1"⟩],
        .renderFile ⟨"/t"⟩ [⟨"x", "2"⟩, ⟨"x", "3"⟩]] = some document ∧
      ∃ store : Store, store.resolve "x" = .string "3" ∧
        document.render 64 store = .ok "a3" := by
  intro files run change session found sought
  obtain ⟨-, kept, again, rendered⟩ := history run files [.renderFile ⟨"/t"⟩ [⟨"x", "1"⟩]]
  refine ⟨?_, ?_, ?_⟩
  · have reads : (session.perform (run.document ⟨"/t"⟩)).1.isOk = true := by decide +kernel
    cases known : (session.perform (run.document ⟨"/t"⟩)).1 with
    | error failure =>
      rw [known] at reads
      cases reads
    | ok document =>
      exact ⟨document, rfl, by decide +kernel,
        kept _ _ known [.outside change] ⟨"//t/"⟩ (by decide +kernel)⟩
  · have misses : (session.perform (run.document ⟨"/u"⟩)).1.isOk = false := by decide +kernel
    cases failed : (session.perform (run.document ⟨"/u"⟩)).1 with
    | ok document =>
      rw [failed] at misses
      cases misses
    | error failure =>
      exact ⟨failure, rfl, (again _ _ failed).2 [.outside change] ⟨"/u"⟩ rfl rfl⟩
  · obtain ⟨store, meaning, rendered⟩ := rendered ⟨"/t"⟩ [⟨"x", "2"⟩, ⟨"x", "3"⟩]
    obtain ⟨document, read, text⟩ := (rendered "a3").mp (by decide +kernel)
    exact ⟨document, read, store, meaning "x", text⟩

end Session

end Stencil
