import Stencil.CommandLine.Arguments
import Stencil.Generation.Drive

/-!
# The command

One run of the program from its arguments to its exit code. It ends with code 0 when all went well
or only the version or help was asked for, with code 1 when the generation failed, and with code 2
when the arguments make no sense.
-/

namespace Stencil.CommandLine

/-- How a run of the program ends. -/
inductive Ending where
  /-- All went well, and a text may be said. -/
  | done (said : String)
  /-- The generation failed. -/
  | failed (message : String)
  /-- The arguments make no sense. -/
  | misused (reason : String)
deriving DecidableEq, Repr

/-- The exit code of an ending. -/
def Ending.code : Ending → UInt32
  | done _ => 0
  | failed _ => 1
  | misused _ => 2

/-- A text with four blanks in front of each of its lines. -/
def indented (text : String) : String :=
  "    " ++ String.ofList (Text.replaceAll ['\n'] "\n    ".toList text.toList)

/-- The message of a generation that failed. -/
def failureMessage (script : String) (failure : Failure) : String :=
  s!"Error: Generation from '{script}' failed\n\nCaused by:\n{indented failure.text}"

/-- What the program says of its use. -/
def helpText : String := String.intercalate "\n" [
  "Generate source files from JSON data, templates and a driving script",
  "",
  "Usage: geeco [OPTIONS] --script <SCRIPT> --json <JSON>",
  "",
  "Options:",
  "  -s, --script <SCRIPT>        " ++
    "Entry template; its rendered output is run as the driving script",
  "  -j, --json <JSON>            JSON data file bound as the global template data",
  "  -w, --work <WORK>            Work folder that relative paths resolve against [default: .]",
  "      --begin <BEGIN>          Tag start delimiter [default: \x7b\x7b]",
  "      --continue <CONT>        Continuation delimiter [default: ||]",
  "      --end <END>              Tag end delimiter [default: \x7d\x7d]",
  "      --max-depth <MAX_DEPTH>  Maximum block nesting while rendering [default: 64]",
  "  -v, --verbose...             More output (-v info, -vv debug, -vvv trace)",
  "  -h, --help                   Print help",
  "  -V, --version                Print version"]

/-- The configuration that arguments describe. -/
def Arguments.config (arguments : Arguments) (home : Path) : Except DelimiterFault Config := do
  let delimiters ←
    Delimiters.make arguments.opening arguments.continuing arguments.closing
  return {
    entry := ⟨arguments.script⟩
    data := ⟨arguments.json⟩
    work := ⟨arguments.work⟩
    home
    delimiters
    depthLimit := arguments.maxDepth }

/-- One run of the program. -/
def command {m : Type → Type} [Monad m] [FileAccess m] (home : Path) (arguments : List String) :
    m Ending :=
  match Arguments.parse arguments with
  | .error .version => return .done "geeco 0.1.0"
  | .error .help => return .done helpText
  | .error (.misuse reason) => return .misused s!"error: {reason}"
  | .ok parsed =>
    match parsed.config home with
    | .error fault => return .failed ("Error: " ++ (Failure.ofDelimiters fault).text)
    | .ok config => do
      match ← ((config.generate : Generation m Unit).run).run [] with
      | (.ok (), _) => return .done ""
      | (.error failure, _) => return .failed (failureMessage parsed.script failure)

end Stencil.CommandLine
