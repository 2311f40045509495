import DelphiRtti.Project.Host
import DelphiRtti.Rebuild
import DelphiRtti.Shell.Command
import DelphiRtti.Shell.FileSource
import DelphiRtti.Shell.Help
import DelphiRtti.Shell.Hexdump
import DelphiRtti.Shell.Prompt

/-!
# Sessions of the shell

A session holds the loaded binary's path and project, the cursor and the
dialect.  A command changes the session and prints lines; only the command to
quit ends it.  A binary that cannot be opened leaves the session as it was.
-/

namespace DelphiRtti

open Text

namespace RebuiltClass

def stopLines : WalkEnd → List String
  | .limitReached => ["    walk stopped at the slot limit"]
  | .noFunction _ target =>
      ["    VT ends before 0x" ++ target.render ++ " (no function there)"]
  | .failed failure => ["    walk failed: " ++ failure.message]

def reportLines (rebuilt : RebuiltClass) : List String :=
  ("[+] " ++ rebuilt.name.text ++ " ("
    ++ String.ofList (decimal rebuilt.slots.length)
    ++ " VT slots from 0x" ++ rebuilt.record.tableBase.render ++ ")")
    :: stopLines rebuilt.stop
      ++ [rebuilt.tableType.render, rebuilt.instanceType.render]

/-- What the log says of the class in its project. -/
def reportRecord (rebuilt : RebuiltClass) (project : Project) : LogRecord :=
  ⟨.debug, String.ofList (decimal (project.functionsIn rebuilt.parent).length)
    ++ " functions now in " ++ project.qualifiedName rebuilt.parent⟩

end RebuiltClass

namespace Shell

structure Session where
  binaryPath : Option String
  project : Option Project
  cursor : Address
  dialect : Dialect
deriving DecidableEq

structure Reply where
  session : Session
  output : List String
  records : List LogRecord
  goesOn : Bool

namespace Session

def start (dialect : Dialect) : Session := ⟨none, none, ⟨0⟩, dialect⟩

instance : Inhabited Session := ⟨start .standard⟩

def prompt (session : Session) : String :=
  Prompt.left session.binaryPath session.cursor

/-- Loads the binary at a path in place of the present one and gives
its summary. -/
def openBinary (load : Loader) (session : Session) (path : String) :
    Except LoadError (String × Session) × List LogRecord :=
  match load path with
  | .error failure => (.error failure, [])
  | .ok binary =>
      match binary.toProject with
      | (.error failure, records) => (.error failure, records)
      | (.ok project, records) =>
          (.ok (binary.summary,
            { session with
              binaryPath := some path
              project := some project
              cursor := binary.entry }), records)

/-- Rebuilds the class at an address of a project that is loaded. -/
def rebuildAt (session : Session) (project : Project) (address : Address) :
    Run Project (Except RebuildError RebuiltClass) × Session :=
  let run := rebuild address session.dialect Project.host project
  (run, { session with project := some run.state })

/-- What is printed when a command needs a binary. -/
def noBinary : String := "[!] No binary loaded (use 'o <path>')"

def reply (session : Session) (output : List String) : Reply :=
  ⟨session, output, [], true⟩

/-- The lines of a command that looks at the project. -/
def inspect (session : Session) (lines : Project → List String) : Reply :=
  match session.project with
  | some project => session.reply (lines project)
  | none => session.reply [noBinary]

def hexdumpLines (cursor : Address) (count : Nat) (project : Project) :
    List String :=
  match project.image.read cursor count with
  | .ok bytes => Hexdump.lines cursor bytes
  | .error failure => ["[!] " ++ failure.message]

def nameColumn : Nat := 32

def classLines (project : Project) : List String :=
  (project.namespacesWithIds.filter fun entry => entry.2.kind = .ofClass).map
    fun entry =>
      "  " ++ String.ofList (padRight nameColumn entry.2.name.toList) ++ " "
        ++ String.ofList (decimal (project.functionsIn entry.1).length)
        ++ " functions"

def functionLine (project : Project) (record : FunctionRecord) : String :=
  "  0x" ++ record.entry.render ++ "  " ++ project.qualifiedName record.parent
    ++ "::" ++ record.name

def scopeLines (project : Project) (id : NamespaceId) : List String :=
  (project.functions.filter fun record => record.parent = id).map
    (functionLine project)
    ++ (project.labelsIn id).map fun entry =>
      "  0x" ++ entry.1.render ++ "  " ++ project.qualifiedName id ++ "::"
        ++ entry.2 ++ " (label)"

def functionLines (scope : Option String) (project : Project) : List String :=
  match scope with
  | none => project.functions.map (functionLine project)
  | some name =>
      match project.findNamespace? .global name with
      | some id => scopeLines project id
      | none => ["[!] No namespace named " ++ name]

def typeLines (project : Project) : List String :=
  project.types.values.map fun dataType => "  " ++ dataType.name

def declarationLines (name : String) (project : Project) : List String :=
  match project.type? name with
  | some dataType => [dataType.render]
  | none => ["[!] No data type named " ++ name]

def infoLines (session : Session) : List String :=
  match session.binaryPath with
  | some path => ["[*] " ++ path ++ " @ 0x" ++ session.cursor.render]
  | none => ["[*] No binary loaded"]

def executeOpen (load : Loader) (session : Session) (path : String) : Reply :=
  let loading := "[*] Loading binary: " ++ path
  match session.openBinary load path with
  | (.ok (summary, next), records) => ⟨next, [loading, summary], records, true⟩
  | (.error failure, records) =>
      ⟨session, [loading, "[!] " ++ failure.message], records, true⟩

def executeRebuild (session : Session) (address : Option Address) : Reply :=
  let session := { session with cursor := address.getD session.cursor }
  match session.project with
  | none => session.reply [noBinary]
  | some project =>
      let (run, next) := session.rebuildAt project session.cursor
      let shown := Console.terminalLines run.events
      match run.value with
      | .ok rebuilt =>
          ⟨next, shown ++ rebuilt.reportLines,
            run.events.records ++ [rebuilt.reportRecord run.state], true⟩
      | .error _ => ⟨next, shown, run.events.records, true⟩

def carryOut (load : Loader) (session : Session) : Command → Reply
  | .openFile path => session.executeOpen load path
  | .seek address =>
      { session with cursor := address }.reply
        ["[*] Seeking to 0x" ++ address.render]
  | .hexdump count => session.inspect (hexdumpLines session.cursor count)
  | .rebuildClass address => session.executeRebuild address
  | .classes => session.inspect classLines
  | .functions scope => session.inspect (functionLines scope)
  | .types => session.inspect typeLines
  | .printType name => session.inspect (declarationLines name)
  | .info => session.reply session.infoLines
  | .help => session.reply helpLines
  | .quit => ⟨session, ["[*] Shutting down..."], [], false⟩
  | .unknown text =>
      session.reply ["[!] Unknown command: '" ++ text ++ "'",
        "    Type '?' for help"]

def execute (files : FileSource) (session : Session)
    (command : Command) : Reply :=
  session.carryOut (files.loader Executable.Contents.read?) command

end Session

/-- A line that is typed, with what files and executables are read as
while it is carried out. -/
structure Turn where
  line : List Char
  files : FileSource
  reader : Executable.Reader

namespace Turn

def command (turn : Turn) : Command := .parse turn.line

def isBlank (turn : Turn) : Bool := (trim turn.line).isEmpty

/-- Carries a line out.  Nothing comes of a blank one. -/
def take (turn : Turn) (session : Session) : Reply :=
  if turn.isBlank then session.reply []
  else session.carryOut (turn.files.loader turn.reader) turn.command

end Turn

/-- Takes line after line up to one that ends the session. -/
def Session.loop (session : Session) : List Turn → Reply
  | [] => session.reply []
  | turn :: rest =>
      let first := turn.take session
      if first.goesOn then
        let later := loop first.session rest
        ⟨later.session, first.output ++ later.output,
          first.records ++ later.records, later.goesOn⟩
      else first

end Shell

end DelphiRtti
