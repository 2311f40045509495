import DelphiRtti.CommandLine.Arguments
import DelphiRtti.Shell.Session

/-!
# One rebuild from the command line

With an address the program opens the binary, rebuilds one class and ends.
Without an address it leaves the session to the interactive shell.
-/

namespace DelphiRtti

namespace CommandLine

def versionText : String := "dhrake 0.1.0\n"

def helpText : String :=
  "Delphi class reconstruction: rebuilds class namespaces and VMT structures "
    ++ "from RTTI metadata\n"
    ++ "\n"
    ++ "Usage: dhrake [OPTIONS]\n"
    ++ "\n"
    ++ "Options:\n"
    ++ "  -t, --target <TARGET>            PE32 binary to analyze\n"
    ++ "  -a, --address <ADDRESS>          Class metadata address; parses once "
    ++ "and exits (requires --target)\n"
    ++ "      --name-offset <NAME_OFFSET>  Displacement of the class-name "
    ++ "pointer in the metadata record [default: 32]\n"
    ++ "      --max-slots <MAX_SLOTS>      Maximum number of VT slots to "
    ++ "inspect [default: 100]\n"
    ++ "      --tag <TAG>                  Tag prefixed to every log line "
    ++ "[default: Dhrake]\n"
    ++ "  -v, --verbose...                 Verbosity level (-v, -vv, -vvv)\n"
    ++ "  -h, --help                       Print help\n"
    ++ "  -V, --version                    Print version\n"

structure Exit where
  code : Nat
  output : String
  errors : String
deriving DecidableEq, Inhabited

inductive Start where
  | ended (exit : Exit)
  | interactive (session : Shell.Session)

def textOfLines (lines : List String) : String :=
  String.join (lines.map fun line => line ++ "\n")

/-- The first line of a text.  A line ends with a line feed, before which a
return belongs to the end. -/
def firstLine (text : String) : String :=
  let line := text.toList.takeWhile (· ≠ '\n')
  if line.length < text.toList.length ∧ line.getLast? = some '\r' then
    String.ofList line.dropLast
  else String.ofList line

/-- The text with its later lines set in by four columns. -/
def setIn (text : String) : String :=
  String.ofList (text.toList.flatMap fun character =>
    if character = '\n' then ['\n', ' ', ' ', ' ', ' '] else [character])

def loadFailureText (failure : LoadError) : String :=
  "Error: " ++ failure.title ++ "\n"
    ++ match failure.cause? with
      | some cause => "\nCaused by:\n    " ++ setIn cause ++ "\n"
      | none => ""

def failed (errors : String) : Exit := ⟨1, "", errors⟩

/-- What an early end of the arguments leaves: of the report of a refusal, the
first line without emphasis. -/
def Stop.exit : Stop → Exit
  | .refused cause => ⟨2, "", firstLine (Text.unstyled cause.report)⟩
  | .help => ⟨0, helpText, ""⟩
  | .version => ⟨0, versionText, ""⟩

def openTarget (files : Shell.FileSource) (options : Options) :
    Except LoadError Shell.Session :=
  let session := Shell.Session.start options.dialect
  match options.target with
  | none => .ok session
  | some path =>
      (session.openBinary
        (files.loader Executable.Contents.read?) path).1.map Prod.snd

def rebuildOnce (session : Shell.Session) (project : Project)
    (address : Address) : Exit :=
  let run := (session.rebuildAt project address).1
  let shown := Console.terminalLines run.events
  match run.value with
  | .ok rebuilt => ⟨0, textOfLines (shown ++ rebuilt.reportLines), ""⟩
  | .error failure =>
      ⟨if failure.isFailure then 1 else 0, textOfLines shown, ""⟩

def start (files : Shell.FileSource) (arguments : List String) : Start :=
  match Options.parse arguments with
  | .error stop => .ended stop.exit
  | .ok options =>
      match openTarget files options with
      | .error failure => .ended (failed (loadFailureText failure))
      | .ok session =>
          match options.address, session.project with
          | none, _ => .interactive session
          | some _, none =>
              .ended (failed "Error: --address requires --target\n")
          | some address, some project =>
              .ended (rebuildOnce session project address)

end CommandLine

end DelphiRtti
