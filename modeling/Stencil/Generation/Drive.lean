import Stencil.Generation.Run
import Stencil.Script.Execution
import Stencil.Script.Program.Checks

/-!
# Driven generations

A generation reads its data, renders the entry template and executes the text of it as a driving
script, whose requests it carries out.
-/

namespace Stencil

namespace Run

variable {m : Type → Type} [Monad m] [FileAccess m]

/-- Take the entries of metadata out of an array. -/
def unpack (items : List Script.Value) : Generation m Unit :=
  match Script.Host.entriesOf items with
  | .ok _ => return
  | .error failure => throw failure

/-- Carry out what a script asks for. -/
def carryOut (run : Run) : Script.Request → Generation m Unit
  | .render template output metadata => run.renderTemplate template output metadata
  | .unpack items => unpack items
  | .copy source target => run.copyFolder source target

/-- Where a script is executed whose requests the run carries out. -/
def context (run : Run) (program : Script.Program) : Script.Context (StateT DocumentCache m) :=
  ⟨program, fun request => (run.carryOut request : Generation m Unit).run⟩

/-- Execute a text as a driving script. A script that is refused does nothing. One step more may
follow the others for every character, so that no script is too long to come to its end. -/
def drive (run : Run) (script : String) : Generation m Unit := ExceptT.mk do
  match Script.Program.parse? script with
  | none => return .error (.script "Syntax error: the driving script is refused")
  | some program =>
    (run.context program).execute (Script.stepLimit + script.length)

end Run

/-- A whole generation, from its configuration to the last output. -/
def Config.generate {m : Type → Type} [Monad m] [FileAccess m] (config : Config) :
    Generation m Unit := do
  let run ← Run.load config
  run.drive (← run.renderEntry)

end Stencil
