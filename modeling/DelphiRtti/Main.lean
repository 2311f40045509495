import DelphiRtti.CommandLine.OneShot

/-!
# The program

Reads arguments, files and command lines, and prints.
-/

namespace DelphiRtti.Main

def readFile (path : String) : IO (Except FileError (Array UInt8)) := do
  try
    let contents ← IO.FS.readBinFile path
    return .ok contents.data
  catch
    | .noFileOrDirectory .. => return .error .notFound
    | .inappropriateType .. => return .error .isDirectory
    | failure => return .error (.other (toString failure))

def source (path : Option String) : IO Shell.FileSource := do
  match path with
  | none => return fun _ => .error .notFound
  | some path =>
      let contents ← readFile path
      return fun _ => contents

def printLines (lines : List String) : IO Unit := do
  for line in lines do
    IO.println line

/-- Reads commands until one of them, or the end of the input, ends
the session. -/
partial def shell (session : Shell.Session) : IO Unit := do
  IO.print (session.prompt ++ Shell.Prompt.indicator)
  (← IO.getStdout).flush
  let line ← (← IO.getStdin).getLine
  if line.isEmpty then
    printLines ["", "[*] Interrupted"]
  else if (Text.trim line.toList).isEmpty then
    shell session
  else
    let command := Shell.Command.parse line.toList
    let files ← match command with
      | .openFile path => source (some path)
      | _ => source none
    let reply := session.execute files command
    printLines reply.output
    if reply.goesOn then shell reply.session

end DelphiRtti.Main

open DelphiRtti in
def main (arguments : List String) : IO UInt32 := do
  let target := match CommandLine.Options.parse arguments with
    | .ok options => options.target
    | .error _ => none
  match CommandLine.start (← Main.source target) arguments with
  | .ended result =>
      IO.print result.output
      unless result.errors.isEmpty do
        IO.eprintln (Text.trimEnd result.errors.toList |> String.ofList)
      return UInt32.ofNat result.code
  | .interactive session =>
      Main.printLines Shell.bannerLines
      Main.shell session
      return 0
