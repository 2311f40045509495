import DelphiRtti.Executable.Header

/-!
# Debug records of executables

The first entry of the debug directory says where a debugger finds its data in
the file.  Data of the most common kind begin with a signature, an identifier
and an age, and end with the name of a file of symbols.
-/

namespace DelphiRtti.Executable

structure DebugRecord where
  kind : Nat
  length : Nat
  offset : Nat
deriving DecidableEq, Inhabited

namespace DebugRecord

def recordLength : Nat := 28

def parse? (file : File) (offset : Nat) : Option DebugRecord :=
  if offset + recordLength ≤ file.size then do
    let kind ← file.field? (offset + 12) 4
    let length ← file.field? (offset + 16) 4
    let dataOffset ← file.field? (offset + 24) 4
    return ⟨kind, length, dataOffset⟩
  else none

def symbolFileKind : Nat := 2

def symbolFileSignature : Nat := 0x53445352

/-- The length of what comes before the name: the signature, the
identifier and the age. -/
def nameOffset : Nat := 24

/-- Whether the data can be read.  Other data than those that name a file of
symbols are not looked at. -/
def isReadable (file : File) (record : DebugRecord) : Bool :=
  if record.kind = symbolFileKind then
    if record.length < nameOffset then false
    else
      match file.field? record.offset 4 with
      | none => false
      | some signature =>
          signature != symbolFileSignature
            || record.offset + record.length ≤ file.size
  else true

/-- Whether the debug directory, if there is one, and its data can be read. -/
def isDirectoryReadable (file : File) (header : Header) : Bool :=
  match header.directory? 6 with
  | none => true
  | some directory =>
      match (header.fileOffset? directory.address).bind (parse? file) with
      | none => false
      | some record => record.isReadable file

end DebugRecord

end DelphiRtti.Executable
