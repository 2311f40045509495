import DelphiRtti.Executable.Certificates
import DelphiRtti.Executable.DebugRecord
import DelphiRtti.Executable.Exports
import DelphiRtti.Executable.Imports
import DelphiRtti.Executable.UnwindTable

/-!
# The contents of executables

What is found in the file of an executable.  A file is refused as a whole where
its headers, its imports or a table that nothing else looks at cannot be read.
-/

namespace DelphiRtti.Executable

structure Contents where
  wide : Bool
  imageBase : Nat
  entry : Nat
  sections : List SectionHeader
  exports : List Export
  imports : List Import
deriving DecidableEq, Inhabited

/-- A way to read executables, which gives nothing for a malformed one. -/
abbrev Reader := File → Option Contents

/-- Whether the tables that a binary has no use for are sound.  An executable is
refused for them as well. -/
def otherTablesSound (file : File) (header : Header) : Bool :=
  DebugRecord.isDirectoryReadable file header
    && UnwindTable.isDirectorySound header
    && (Certificate.table? file header).isSome

def Contents.read? : Reader := fun file => do
  let header ← Header.parse? file
  let imports ← Import.parse? file header
  if otherTablesSound file header then
    return ⟨header.wide, header.imageBase, header.entry, header.sections,
      Export.parse file header, imports⟩
  else failure

end DelphiRtti.Executable
