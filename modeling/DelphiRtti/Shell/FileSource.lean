import DelphiRtti.Binary

/-!
# Where binaries are read from

A file source says what is read at a path, and a loader what binary it is.  The
source of a directory follows the parts of a path through the directory; of what
lies outside only the names of the directories above are known.
-/

namespace DelphiRtti

namespace Shell

abbrev FileSource := String → Except FileError (Array UInt8)

abbrev Loader := String → Except LoadError Binary

namespace FileSource

/-- Loads the files of a source by a way to read executables. -/
def loader (files : FileSource) (reader : Executable.Reader) : Loader :=
  fun path =>
    match files path with
    | .error cause => .error (.unreadable path cause)
    | .ok data => Binary.ofBytesBy reader data path

inductive Place where
  | file (contents : Array UInt8)
  | directory (names : List String)
  | above
deriving Inhabited

def longestName : Nat := 255

def longestPath : Nat := 4095

/-- What a directory of files holds under a path of names. -/
def entry (files : List (String × Array UInt8)) (names : List String) :
    Except FileError Place :=
  let path := "/".intercalate names
  match files.find? fun file => file.1 == path with
  | some file => .ok (.file file.2)
  | none =>
      if files.any fun file => (path ++ "/").isPrefixOf file.1 then
        .ok (.directory names)
      else .error .notFound

def enter (files : List (String × Array UInt8)) (place : Place)
    (part : String) : Except FileError Place :=
  match place with
  | .file _ => .error .notDirectory
  | .directory names =>
      if part = "." then .ok place
      else if part = ".." then
        .ok (if names.isEmpty then .above else .directory names.dropLast)
      else if longestName < part.utf8ByteSize then .error .nameTooLong
      else entry files (names ++ [part])
  | .above =>
      if part = "." ∨ part = ".." then .ok .above
      else if longestName < part.utf8ByteSize then .error .nameTooLong
      else .error .notFound

def walk (files : List (String × Array UInt8)) (path : String) :
    Except FileError Place :=
  let start : Place := if path.startsWith "/" then .above else .directory []
  ((path.splitOn "/").filter fun part => part ≠ "").foldlM (enter files) start

def ofFiles (files : List (String × Array UInt8)) : FileSource := fun path =>
  if path.contains (Char.ofNat 0) then .error .nulInName
  else if path.isEmpty then .error .notFound
  else if longestPath < path.utf8ByteSize then .error .nameTooLong
  else
    match walk files path with
    | .error cause => .error cause
    | .ok (.file contents) =>
        if path.endsWith "/" then .error .notDirectory else .ok contents
    | .ok _ => .error .isDirectory

end FileSource

end Shell

end DelphiRtti
