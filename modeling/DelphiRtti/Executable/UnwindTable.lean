import DelphiRtti.Executable.Header

/-!
# Unwind tables of executables

For processors of 64 bits a table has an entry of twelve bytes for every
function that can be unwound.
-/

namespace DelphiRtti.Executable

namespace UnwindTable

def machine : Nat := 0x8664

def entryLength : Nat := 12

/-- Whether a table can hold entries only: it has a place in the file
at a multiple of four bytes, and a length for whole entries.  The
entries are not read. -/
def isWellPlaced (header : Header) (directory : Directory) : Bool :=
  directory.size % entryLength == 0
    && match header.fileOffset? directory.address with
      | some offset => offset % 4 == 0
      | none => false

def isDirectorySound (header : Header) : Bool :=
  if header.machine = machine then
    match header.directory? 3 with
    | some directory => isWellPlaced header directory
    | none => true
  else true

end UnwindTable

end DelphiRtti.Executable
