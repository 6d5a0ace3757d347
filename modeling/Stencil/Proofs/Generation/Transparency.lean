import Stencil.Proofs.Files.Spelling
import Stencil.Proofs.Generation.History

/-!
# What parsed templates hide

A session that has parsed a template does not ask for its file again. As long as nobody changes the
file that makes no difference for the path that was read, but a template is known by the components
of its path, and a file tree can tell spellings with the same components apart. So there is a
difference exactly for the spellings of a known path that name no file: they are found, where a
session that has parsed nothing reports that there is no such template.
-/

namespace Stencil

namespace Session

/-- What carrying out a request does as others see it: its result and the files after it. -/
def effect {Files : Type} [FileAccess (StateM Files)] (session : Session Files)
    (request : Script.Request) : Except Failure Unit × Files :=
  let (result, after) := session.perform (session.run.carryOut request)
  (result, after.files)

/-- The document that a session has for a path: the parsed one, else the one the file holds now. -/
def obtain {Files : Type} [FileAccess (StateM Files)] (session : Session Files) (path : Path) :
    Except Failure Document :=
  match session.documents.find? path with
  | some known => .ok known
  | none => session.reading path

/-- What is read as a template has nothing to do with those parsed before. -/
@[simp]
theorem reading_withDocuments {Files : Type} [FileAccess (StateM Files)] (session : Session Files)
    (documents : DocumentCache) (path : Path) :
    (session.withDocuments documents).reading path = session.reading path := rfl

/-- A session that has parsed nothing has for a path what the file holds now. -/
@[simp]
theorem obtain_fresh {Files : Type} [FileAccess (StateM Files)] (session : Session Files)
    (path : Path) : (session.withDocuments []).obtain path = session.reading path := rfl

/-- A request that has nothing to do with parsed templates does the same whatever was parsed. -/
theorem effect_withDocuments {Files : Type} [FileAccess (StateM Files)] (session : Session Files)
    {request : Script.Request}
    (leaves : Generation.LeavesDocuments
      (session.run.carryOut request : Generation (StateM Files) Unit))
    (documents : DocumentCache) :
    (session.withDocuments documents).effect request = session.effect request :=
  congrArg (fun outcome => (outcome.1, outcome.2.files)) (leaves session documents)

variable {session other : Session FileTree} {path asked : Path} {content : ByteArray}

/-- A file that cannot be read has no text. -/
theorem readText_of_error {error : FileError} (failed : session.files.read path = .error error) :
    (session.readText path).1 = .error error := by
  have answer : (FileAccess.read path : StateM FileTree _).run session.files =
      (.error error, session.files) := congrArg (fun result => (result, session.files)) failed
  unfold readText FileAccess.readText
  simp only [ExceptT.run_bind, StateT.run_bind, ExceptT.run_mk, answer]
  rfl

/-- Where the same bytes are, there is the same text. -/
theorem readText_of_read (read : session.files.read path = .ok content)
    (again : other.files.read asked = .ok content) :
    (other.readText asked).1 = (session.readText path).1 := by
  have first : (FileAccess.read path : StateM FileTree _).run session.files =
      (.ok content, session.files) := congrArg (fun result => (result, session.files)) read
  have second : (FileAccess.read asked : StateM FileTree _).run other.files =
      (.ok content, other.files) := congrArg (fun result => (result, other.files)) again
  unfold readText FileAccess.readText
  simp only [ExceptT.run_bind, StateT.run_bind, ExceptT.run_mk, first, second]
  simp only [Bind.bind]
  cases String.fromUTF8? content with
  | none => rfl
  | some text =>
    dsimp only
    split <;> rfl

/-- A file that cannot be read is no template. -/
theorem reading_of_error {error : FileError} (failed : session.files.read path = .error error) :
    session.reading path = .error (.ofTemplate path.text error.message) := by
  rw [reading, readText_of_error failed]

/-- A template is read from some bytes. -/
theorem exists_read_of_reading {document : Document}
    (parsed : session.reading path = .ok document) :
    ∃ content, session.files.read path = .ok content := by
  cases answer : session.files.read path with
  | ok content => exact ⟨content, rfl⟩
  | error error =>
    rw [reading_of_error answer] at parsed
    cases parsed

/-- Where the same bytes are, there is the same template. -/
theorem reading_of_read {document : Document} (sameRun : other.run = session.run)
    (read : session.files.read path = .ok content)
    (again : other.files.read asked = .ok content) (parsed : session.reading path = .ok document) :
    other.reading asked = .ok document := by
  rw [reading] at parsed
  rw [reading, readText_of_read read again, sameRun]
  cases text : (session.readText path).1 with
  | error error =>
    rw [text] at parsed
    cases parsed
  | ok source =>
    rw [text] at parsed
    exact parsed

/-- Rendering a template delivers the document that the session has for its path. -/
theorem effect_render (session : Session FileTree) (template output : String)
    (metadata : List Metadata) :
    session.effect (.render template output metadata) =
      match session.obtain (session.run.config.resolve template) with
      | .error failure => (.error failure, session.files)
      | .ok document =>
        ((session.deliver document output metadata).1,
          (session.deliver document output metadata).2.files) := by
  rw [effect, Run.carryOut, perform_renderTemplate, perform_document, obtain,
    afterReading_eq FileTree.readsOnly]
  cases session.documents.find? (session.run.config.resolve template) with
  | some known => rfl
  | none =>
    cases session.reading (session.run.config.resolve template) with
    | error failure => rfl
    | ok document =>
      dsimp only
      rw [deliver_withDocuments]
      rfl

/-- Whether a file has some bytes and keeps them through events. -/
def KeepsFile (session : Session FileTree) (path : Path) (content : ByteArray) :
    List (Event FileTree) → Prop
  | [] => session.files.read path = .ok content
  | event :: later =>
    session.files.read path = .ok content ∧ (session.step event).KeepsFile path content later

/-- Whether every file that one of the events reads as a template keeps its bytes through the
events behind it. -/
def KeepsTemplates (session : Session FileTree) : List (Event FileTree) → Prop
  | [] => True
  | event :: later =>
    (∀ path content, event.template? session.run = some path →
      session.files.read path = .ok content → (session.step event).KeepsFile path content later) ∧
      (session.step event).KeepsTemplates later

/-- Whether everything that was parsed can still be read from a file, which keeps its bytes through
the events to come. -/
def Backed (session : Session FileTree) (events : List (Event FileTree)) : Prop :=
  ∀ path document, session.documents.find? path = some document →
    ∃ asked content, asked.components = path.components ∧ session.reading asked = .ok document ∧
      session.KeepsFile asked content events

/-- A file that keeps its bytes has them. -/
theorem KeepsFile.read {events : List (Event FileTree)}
    (keeps : session.KeepsFile path content events) : session.files.read path = .ok content := by
  cases events with
  | nil => exact keeps
  | cons event later => exact keeps.1

/-- A session that has parsed nothing is backed. -/
theorem backed_start (run : Run) (files : FileTree) (events : List (Event FileTree)) :
    (start run files).Backed events := nofun

/-- Events that keep templates keep a session backed, one after the other: what was parsed before
keeps its bytes, and so does what an event parses. -/
theorem Backed.step {event : Event FileTree} {later : List (Event FileTree)}
    (backed : session.Backed (event :: later)) (keeps : session.KeepsTemplates (event :: later)) :
    (session.step event).Backed later := by
  have sameRun : (session.step event).run = session.run := session.run_step event
  intro path document known
  rw [find?_step, Option.or_eq_some_iff] at known
  rcases known with known | ⟨-, fresh⟩
  · obtain ⟨asked, content, same, parsed, kept⟩ := backed path document known
    exact ⟨asked, content, same, reading_of_read sameRun kept.1 kept.2.read parsed, kept.2⟩
  · rw [readFor?] at fresh
    cases wanted : event.template? session.run with
    | none =>
      rw [wanted] at fresh
      cases fresh
    | some asked =>
      rw [wanted] at fresh
      dsimp only at fresh
      split at fresh
      · rename_i same
        have parsed : session.reading asked = .ok document := by
          cases outcome : session.reading asked with
          | error failure =>
            rw [outcome] at fresh
            cases fresh
          | ok found =>
            rw [outcome] at fresh
            cases fresh
            rfl
        obtain ⟨content, read⟩ := exists_read_of_reading parsed
        have kept := keeps.1 asked content wanted read
        exact ⟨asked, content, same, reading_of_read sameRun read kept.read parsed, kept⟩
      · cases fresh

/-- Events that keep templates keep a session backed. -/
theorem Backed.after {events : List (Event FileTree)} (backed : session.Backed events)
    (keeps : session.KeepsTemplates events) : (session.after events).Backed [] := by
  induction events generalizing session with
  | nil => exact backed
  | cons event later ih => exact ih (backed.step keeps) keeps.2

/-- In a backed session a known path that can name a file has the document that the file holds. -/
theorem Backed.reading_of_known (backed : session.Backed []) {document : Document}
    (known : session.documents.find? path = some document)
    (can : FileTree.canNameFile path = true) : session.reading path = .ok document := by
  obtain ⟨asked, content, same, parsed, read⟩ := backed path document known
  have again : session.files.read path = .ok content :=
    (FileTree.read_eq_ok_iff_of_components_eq same.symm read).mpr can
  exact reading_of_read rfl read again parsed

/-- A path that can name no file names no template. -/
theorem reading_of_cannot_name (session : Session FileTree)
    (cannot : FileTree.canNameFile path = false) :
    ∃ error : FileError, session.reading path = .error (.ofTemplate path.text error.message) := by
  cases answer : session.files.read path with
  | error error => exact ⟨error, reading_of_error answer⟩
  | ok content =>
    rw [FileTree.canNameFile_of_read answer] at cannot
    cases cannot

/-- A document that cannot be delivered is no template that is missing. -/
theorem deliver_ne_missing (session : Session FileTree) (document : Document) (output : String)
    (metadata : List Metadata) (place message : String) :
    (session.deliver document output metadata).1 ≠ .error (.ofTemplate place message) := by
  intro failed
  rcases deliver_eq_error failed with other | ⟨_, _, other⟩
  · cases other
  · cases other

/-- In a backed session a template is rendered as in one that has parsed nothing, exactly when its
path is not known or can name a file. -/
theorem Backed.effect_render_eq_iff (backed : session.Backed []) (template output : String)
    (metadata : List Metadata) :
    session.effect (.render template output metadata) =
        (session.withDocuments []).effect (.render template output metadata) ↔
      ((session.documents.find? (session.run.config.resolve template)).isSome →
        FileTree.canNameFile (session.run.config.resolve template) = true) := by
  generalize wanted : session.run.config.resolve template = path
  have fresh : (session.withDocuments []).effect (.render template output metadata) =
      match session.reading path with
      | .error failure => (.error failure, session.files)
      | .ok document =>
        ((session.deliver document output metadata).1,
          (session.deliver document output metadata).2.files) := by
    rw [effect_render, obtain_fresh,
      show (session.withDocuments []).run = session.run from rfl, wanted]
    cases session.reading path with
    | error failure => rfl
    | ok document =>
      dsimp only
      rw [deliver_withDocuments]
      rfl
  rw [fresh, effect_render, obtain, wanted]
  cases known : session.documents.find? path with
  | none => simp
  | some document =>
    cases can : FileTree.canNameFile path with
    | true =>
      rw [backed.reading_of_known known can]
      simp
    | false =>
      obtain ⟨error, missing⟩ := session.reading_of_cannot_name can
      rw [missing]
      simp only [Option.isSome_some, Bool.false_eq_true, imp_false, not_true_eq_false, iff_false]
      intro same
      exact session.deliver_ne_missing document output metadata _ _ (congrArg Prod.fst same)

/-- How far parsed templates can be seen from outside. As long as nothing that was read as a
template is changed afterwards, a request has in a session the result and the files that it would
have in one that has parsed nothing, exactly when it is not for a spelling of a known path that
names no file. Such a spelling would be reported as a template that is not there. -/
theorem effect_eq_fresh_iff (run : Run) (files : FileTree) (events : List (Event FileTree))
    (keeps : (start run files).KeepsTemplates events) (request : Script.Request) :
    let session := (start run files).after events
    let fresh := start run session.files
    (session.effect request = fresh.effect request ↔
      ∀ path, request.template? run = some path → (session.documents.find? path).isSome →
        FileTree.canNameFile path = true) ∧
    ∀ path, request.template? run = some path → FileTree.canNameFile path = false →
      ∃ error : FileError,
        fresh.effect request = (.error (.ofTemplate path.text error.message), session.files) := by
  intro session fresh
  have sameRun : session.run = run := run_after (start run files) events
  have freshly : fresh = session.withDocuments [] := by
    rw [withDocuments, sameRun]
    rfl
  have backed : session.Backed [] := (backed_start run files events).after keeps
  rw [freshly]
  cases request with
  | copy source target =>
    have leaves : Generation.LeavesDocuments
        (session.run.carryOut (.copy source target) : Generation (StateM FileTree) Unit) :=
      .copyFolder session.run source target
    exact ⟨iff_of_true (session.effect_withDocuments leaves []).symm nofun, nofun⟩
  | unpack items =>
    have leaves : Generation.LeavesDocuments
        (session.run.carryOut (.unpack items) : Generation (StateM FileTree) Unit) :=
      .unpack items
    exact ⟨iff_of_true (session.effect_withDocuments leaves []).symm nofun, nofun⟩
  | render template output metadata =>
    simp only [Script.Request.template?, Option.some.injEq, forall_eq', ← sameRun]
    refine ⟨backed.effect_render_eq_iff template output metadata, fun cannot => ?_⟩
    obtain ⟨error, missing⟩ := (session.withDocuments []).reading_of_cannot_name cannot
    refine ⟨error, ?_⟩
    rw [effect_render, obtain_fresh, show (session.withDocuments []).run = session.run from rfl]
    rw [reading_withDocuments] at missing
    rw [missing]
    rfl

/-- A template that was rendered is rendered again with a slash behind its path, which alone is
reported as a template that is not there. -/
theorem effect_eq_fresh_iff_sample :
    let files := (FileTree.empty []).put ["t"] (.file "x".toUTF8)
    let run : Run := ⟨⟨⟨"entry"⟩, ⟨"data"⟩, ⟨"/"⟩, ⟨"/"⟩, .standard, 64⟩, .empty⟩
    let events : List (Event FileTree) := [.request (.render "/t" "/o" [])]
    let session := (start run files).after events
    let fresh := start run session.files
    (start run files).KeepsTemplates events ∧
      (session.effect (.render "/t/" "/p" [])).1 = .ok () ∧
      (fresh.effect (.render "/t/" "/p" [])).1 =
        .error (.ofTemplate "/t/" "Not a directory (os error 20)") ∧
      session.effect (.render "/t/" "/p" []) ≠ fresh.effect (.render "/t/" "/p" []) ∧
      session.effect (.render "//t" "/p" []) = fresh.effect (.render "//t" "/p" []) := by
  intro files run events session fresh
  have keeps : (start run files).KeepsTemplates events := by
    refine ⟨?_, trivial⟩
    rintro path content ⟨⟩ read
    exact Eq.trans (by decide +kernel) read
  refine ⟨keeps, by decide +kernel, by decide +kernel, ?_, ?_⟩
  · rw [Ne, (effect_eq_fresh_iff run files events keeps _).1]
    intro all
    exact absurd (all ⟨"/t/"⟩ (by decide +kernel) (by decide +kernel)) (by decide +kernel)
  · refine (effect_eq_fresh_iff run files events keeps _).1.mpr ?_
    rintro path ⟨⟩ -
    decide +kernel

end Session

end Stencil
