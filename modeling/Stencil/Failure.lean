import Stencil.Template.Delimiters
import Stencil.Text.Position

/-!
# Failures

Everything that can end a generation, with the text it is reported by.
-/

namespace Stencil

/-- What a failure says: its message, an optional hint and an optional code. -/
structure Report where
  /-- What went wrong. -/
  message : String
  /-- What may help. -/
  hint : Option String
  /-- The number of the failure. -/
  code : Option Nat
deriving DecidableEq, Repr

/-- A failure of a generation. -/
inductive Failure where
  /-- A template is not well formed. -/
  | templateSyntax (report : Report) (position : Position)
  /-- Blocks are nested deeper than rendering allows. -/
  | renderDepthExceeded (limit : Nat)
  /-- A template cannot be read. -/
  | templateNotFound (report : Report) (path : String)
  /-- An output cannot be written. -/
  | outputWrite (report : Report) (path : String)
  /-- The data has a shape that values cannot take. -/
  | conversion (report : Report)
  /-- The data file cannot be read. -/
  | data (report : Report) (path : String)
  /-- The driving script failed by itself. -/
  | script (message : String)
  /-- The configuration makes no sense. -/
  | config (report : Report)
deriving DecidableEq, Repr

namespace Report

/-- A report without a hint. -/
def coded (message : String) (code : Nat) : Report := ⟨message, none, some code⟩

/-- The hint and the code after a message. -/
def suffix (report : Report) : String :=
  (match report.hint with
    | some hint => " Hint: " ++ hint
    | none => "") ++
  (match report.code with
    | some code => " Code: " ++ toString code
    | none => "")

/-- The message with its hint and code. -/
def text (report : Report) : String := report.message ++ report.suffix

end Report

namespace Failure

/-- The text a failure is reported by. -/
def text : Failure → String
  | templateSyntax report position =>
    s!"[GEECO] Syntax Error at {position.line}:{position.column}: {report.text}"
  | renderDepthExceeded limit =>
    s!"[GEECO] Render depth exceeded: blocks nested deeper than {limit}"
  | templateNotFound report path => s!"[GEECO] Template not found '{path}': {report.text}"
  | outputWrite report path => s!"[GEECO] Output Error '{path}': {report.text}"
  | conversion report => s!"[GEECO] Conversion Error: {report.text}"
  | data report path => s!"[GEECO] Data Error '{path}': {report.text}"
  | script message => s!"[GEECO] Script Error: {message}"
  | config report => s!"[GEECO] Config Error: {report.text}"

/-- Attach a hint to a syntax failure; every other kind stays as it is. -/
def withHint (hint : String) : Failure → Failure
  | templateSyntax report position => templateSyntax { report with hint := some hint } position
  | other => other

/-- A syntax failure without a hint. -/
def ofSyntax (message : String) (position : Position) (code : Nat) : Failure :=
  templateSyntax (.coded message code) position

/-- A template that cannot be read. -/
def ofTemplate (path message : String) : Failure :=
  templateNotFound ⟨message, some "Paths are resolved against the work folder", some 301⟩ path

/-- An output that cannot be written. -/
def ofOutput (path message : String) : Failure :=
  outputWrite ⟨message, some "Check that the destination is writable", some 302⟩ path

/-- A data file that cannot be read. -/
def ofData (path message : String) : Failure := data (.coded message 303) path

/-- Markers that make no set of delimiters. -/
def ofDelimiters : DelimiterFault → Failure
  | .blank =>
    config ⟨"Delimiters cannot be empty or whitespace",
      some "The defaults are '\x7b\x7b', '||' and '\x7d\x7d'", some 501⟩
  | .repeated opening continuing closing =>
    config (.coded s!"Delimiters must be distinct, got '{opening}', '{continuing}', '{closing}'"
      502)

end Failure

end Stencil
