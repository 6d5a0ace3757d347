import Stencil.Proofs.Generation.History
import Stencil.Proofs.Script.Calls

/-!
# Driving a generation

A script that does nothing but call the generator is the composition of its calls: each is carried
out in the session that the ones before it have left, until one fails, and the failure of that one
is the failure of the script. A whole generation reads its data and its entry template before the
script starts, so it leaves all files as they are when one of these fails.
-/

namespace Stencil

namespace Session

variable {Files : Type} [FileAccess (StateM Files)]

/-- Carry out requests in order, up to the first one that fails. -/
def carryOutAll (session : Session Files) :
    List Script.Request → Except Failure Unit × Session Files
  | [] => (.ok (), session)
  | first :: others =>
    match session.perform (session.run.carryOut first) with
    | (.ok (), after) => after.carryOutAll others
    | (.error failure, after) => (.error failure, after)

/-- Whether requests that are carried out in order all succeed. -/
def Succeeds (session : Session Files) : List Script.Request → Prop
  | [] => True
  | first :: others =>
    (session.perform (session.run.carryOut first)).1 = .ok () ∧
      (session.step (.request first)).Succeeds others

/-- Answers to requests in order are the first answer and, when it is good, the others. -/
theorem mk_answerAll (run : Run) (first : Script.Request) (others : List Script.Request) :
    (ExceptT.mk (Script.answerAll (fun request =>
        (run.carryOut request : Generation (StateM Files) Unit).run) (first :: others)) :
          Generation (StateM Files) Unit) =
      run.carryOut first >>= fun _ => ExceptT.mk (Script.answerAll (fun request =>
        (run.carryOut request : Generation (StateM Files) Unit).run) others) := by
  refine ExceptT.ext ?_
  rw [ExceptT.run_bind, ExceptT.run_mk, ExceptT.run_mk, Script.answerAll]
  refine congrArg _ (funext fun answer => ?_)
  cases answer <;> rfl

/-- Answering requests in order is carrying them out. -/
theorem perform_answerAll (session : Session Files) (requests : List Script.Request) :
    session.perform (ExceptT.mk (Script.answerAll
      (fun request => (session.run.carryOut request : Generation (StateM Files) Unit).run)
        requests)) = session.carryOutAll requests := by
  induction requests generalizing session with
  | nil => rfl
  | cons first others ih =>
    rw [mk_answerAll, perform_bind, carryOutAll]
    have sameRun : (session.perform (session.run.carryOut first)).2.run = session.run := rfl
    cases outcome : session.perform (session.run.carryOut first) with
    | mk result after =>
      rw [outcome] at sameRun
      cases result with
      | error failure => rfl
      | ok done =>
        dsimp only at sameRun ⊢
        rw [← sameRun]
        exact ih after

/-- A script of calls carries out its calls. -/
theorem perform_drive (session : Session Files) {calls : List Script.Call} {script : String}
    (writes : Script.Call.Writes calls script) :
    session.perform (session.run.drive script) =
      session.carryOutAll (calls.map Script.Call.request) := by
  obtain ⟨enough, each⟩ := Script.Call.length_source writes
  have limit : Script.stepLimit = 1000000000000 := rfl
  have executed : (session.run.context
      ⟨calls.map fun call => .expression call.phrase.expression, []⟩).execute
      (Script.stepLimit + script.length) = Script.answerAll
        (fun request => (session.run.carryOut request : Generation (StateM Files) Unit).run)
          (calls.map Script.Call.request) := by
    refine Script.Context.execute_calls rfl ?_ fun call member => ?_
    · omega
    · have fits := each call member
      omega
  rw [Run.drive, Script.Call.parse?_of_writes writes]
  dsimp only
  rw [executed]
  exact session.perform_answerAll _

/-- Requests that are carried out in order end well when all of them succeed. -/
theorem carryOutAll_eq_ok_iff (session : Session Files) (requests : List Script.Request) :
    (session.carryOutAll requests).1 = .ok () ↔ session.Succeeds requests := by
  induction requests generalizing session with
  | nil => exact iff_of_true rfl trivial
  | cons first others ih =>
    rw [carryOutAll, Succeeds, step]
    cases session.perform (session.run.carryOut first) with
    | mk result after =>
      cases result with
      | error failure => simp
      | ok done =>
        simp only [true_and]
        exact ih after

/-- A generation whose data cannot be read, or whose entry template cannot be rendered, fails as
that did and leaves all files as they are. -/
theorem perform_generate_of_error (reads : FileAccess.ReadsOnly Files) (session : Session Files)
    {config : Config} {failure : Failure}
    (failed : (session.perform (Run.load config >>= fun run => run.renderEntry)).1 =
      .error failure) :
    (session.perform config.generate).1 = .error failure ∧
      (session.perform config.generate).2.files = session.files := by
  have untouched := Generation.LeavesFiles.bind (Generation.LeavesFiles.load reads config)
    (fun run => Generation.LeavesFiles.renderFile reads run run.config.entryPath []) session
  have ended : (session.perform config.generate) =
      (.error failure, (session.perform (Run.load config >>= fun run => run.renderEntry)).2) := by
    rw [Config.generate]
    rw [perform_bind] at failed ⊢
    rw [perform_bind]
    cases loaded : session.perform (Run.load config) with
    | mk result after =>
      rw [loaded] at failed
      cases result with
      | error refusal =>
        cases failed
        rfl
      | ok run =>
        dsimp only at failed ⊢
        rw [perform_bind]
        cases rendered : after.perform run.renderEntry with
        | mk result later =>
          rw [rendered] at failed
          cases failed
          rfl
  rw [ended]
  exact ⟨rfl, untouched⟩

/-- How a generation is driven. A script of calls carries out its calls in order, up to the first
one that fails: it leaves the files and the parsed templates as they are then, it ends well exactly
when all calls succeed, and else it fails as that call did. And a generation whose data cannot be
read, or whose entry template cannot be rendered, leaves all files as they are. -/
theorem driving (session : Session Files) :
    (∀ (calls : List Script.Call) (script : String),
      Script.Call.Writes calls script →
        session.perform (session.run.drive script) =
            session.carryOutAll (calls.map Script.Call.request) ∧
          ((session.perform (session.run.drive script)).1 = .ok () ↔
            session.Succeeds (calls.map Script.Call.request))) ∧
    (FileAccess.ReadsOnly Files → ∀ (config : Config) (failure : Failure),
      (session.perform (Run.load config >>= fun run => run.renderEntry)).1 = .error failure →
        (session.perform config.generate).1 = .error failure ∧
          (session.perform config.generate).2.files = session.files) := by
  refine ⟨fun calls script writes => ?_, fun reads config failure failed =>
    session.perform_generate_of_error reads failed⟩
  rw [session.perform_drive writes]
  exact ⟨rfl, session.carryOutAll_eq_ok_iff _⟩

/-- A script of four calls, of which the third asks for a template that is missing: the first two
are done, with a quote and two names for one function, and the fourth is not. Where there is no
data file, nothing is done. -/
theorem driving_sample :
    let files := (((FileTree.empty []).put ["t"] (.file "\x7b\x7b x \x7d\x7d".toUTF8)).put ["d"]
      .folder).put ["a", "d"] (.file "1".toUTF8)
    let run : Run := ⟨⟨⟨"entry"⟩, ⟨"data"⟩, ⟨"/"⟩, ⟨"/"⟩, .standard, 64⟩, .empty⟩
    let session := start run files
    let script := "RunTemplate ( \"/t\" , \"/o\" , BuildKeyValuePair ( \"x\" , \"\\\"\" ) ) ; " ++
      "CopyFolder ( \"/d\" , \"/e\" ) ; RenderTemplate ( \"/m\" , \"/p\" , [ ] ) ; " ++
      "CopyFolder ( \"/d\" , \"/f\" ) ; "
    let ended := session.perform (run.drive script)
    ended = session.carryOutAll [.render "/t" "/o" [⟨"x", "\""⟩], .copy "/d" "/e",
      .render "/m" "/p" [], .copy "/d" "/f"] ∧
    ended.1 = .error (.ofTemplate "/m" "No such file or directory (os error 2)") ∧
    ended.2.files.read ⟨"/o"⟩ = .ok "\"".toUTF8 ∧
    ended.2.files.read ⟨"/e/a"⟩ = .ok "1".toUTF8 ∧
    ended.2.files.kind? ⟨"/f"⟩ = none ∧
    (session.perform run.config.generate).2.files = session.files := by
  intro files run session script ended
  let calls : List Script.Call :=
    [.render .runTemplate "/t" "/o"
      (.arguments [⟨.buildKeyValuePair, ⟨"x", "\""⟩⟩] (by decide)),
      .copy "/d" "/e", .render .renderTemplate "/m" "/p" (.array []), .copy "/d" "/f"]
  have writes : Script.Call.Writes calls script := by
    have written : script = Script.Call.script calls := by decide +kernel
    rw [written]
    exact Script.Call.writes_script calls
  obtain ⟨drives, prepares⟩ := driving session
  have done : ended = session.carryOutAll (calls.map Script.Call.request) :=
    (drives calls script writes).1
  have untouched := (prepares FileTree.readsOnly run.config
    (.ofData "/data" "No such file or directory (os error 2)") (by decide +kernel)).2
  rw [done]
  exact ⟨rfl, by decide +kernel, by decide +kernel, by decide +kernel, by decide +kernel, untouched⟩

end Session

end Stencil
