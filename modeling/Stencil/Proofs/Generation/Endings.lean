import Stencil.Proofs.Generation.Session
import Stencil.Proofs.Script.Accounting
import Stencil.Proofs.Script.Failures

/-!
# How driven generations end

The calls that a script makes of the generator can be written down with their answers. A failure of
the generator that ends the script is the answer to the last of them, and the script has that very
failure, whatever was caught before and however many functions the failure has passed through. Where
nothing is attempted, every call that fails ends the script. A script that ends in another way fails
by itself, unless what it throws is the text of the latest failure, and a script that comes to its
end has succeeded.
-/

namespace Stencil

namespace Session

variable {Files : Type} [FileAccess (StateM Files)]

/-- The answer to a request in a session, and the session it leaves. -/
def reply (session : Session Files) (request : Script.Request) :
    Except Failure Unit × Session Files :=
  session.perform (session.run.carryOut request)

/-- What the statements of a script come to in a session, in at most so many steps that follow each
other: how they end with what the script has then, the templates parsed and the files. -/
def execution (session : Session Files) (program : Script.Program) (steps : Nat) :
    ((Except Script.Interrupt Script.Value × Script.State) × DocumentCache) × Files :=
  let computation : Script.Plain DocumentCache Files Script.Value :=
    Script.Execution.runAll (session.run.context program) Script.callLimit steps program.statements
  ((computation.run.run ⟨[], none⟩).run session.documents).run session.files

/-- How the statements of a script end in a session. -/
def ending (session : Session Files) (program : Script.Program) (steps : Nat) :
    Except Script.Interrupt Script.Value :=
  (session.execution program steps).1.1.1

/-- The session that the statements of a script leave. -/
def left (session : Session Files) (program : Script.Program) (steps : Nat) : Session Files :=
  let ((_, documents), files) := session.execution program steps
  ⟨session.run, documents, files⟩

/-- What the statements of a script come to in a session when its calls of the generator are written
down: how they end, the calls with their answers in order, and the session after them. -/
def trace (session : Session Files) (program : Script.Program) (steps : Nat) :
    Except Script.Interrupt Script.Value × List Script.Exchange × Session Files :=
  let computation : Script.Traced DocumentCache Files Script.Value :=
    Script.Execution.runAll (session.run.context program).traced Script.callLimit steps
      program.statements
  let ((((ended, _), exchanges), documents), files) :=
    (((computation.run.run ⟨[], none⟩).run []).run session.documents).run session.files
  (ended, exchanges, ⟨session.run, documents, files⟩)

/-- The calls of the generator that a script makes in a session, with their answers in order. -/
def exchanges (session : Session Files) (program : Script.Program) (steps : Nat) :
    List Script.Exchange :=
  (session.trace program steps).2.1

/-- Whether a script ends with a fault can be decided. -/
instance decidableEndsFault (ending : Except Script.Interrupt Script.Value) (message : String)
    (functions : List String) : Decidable (ending = .error (.fault message functions)) :=
  match ending with
  | .error (.fault other names) =>
    decidable_of_iff (other = message ∧ names = functions) (by simp)
  | .ok _ => isFalse nofun
  | .error (.returned _) => isFalse nofun
  | .error (.thrown _ _) => isFalse nofun
  | .error (.failed _ _) => isFalse nofun
  | .error .exhausted => isFalse nofun

end Session

end Stencil
