import DelphiRtti.Executable.Contents
import DelphiRtti.Transcript

/-!
# Binaries and the projects they become

A binary is read from the bytes of a 32-bit executable: its sections, the
functions that it exports or starts with, and its imports.  A project maps the
sections, defines the functions that lie in executable memory, and files the
imports as labels under the namespaces of their libraries.
-/

namespace DelphiRtti

open Text

inductive FileError where
  | notFound
  | isDirectory
  | notDirectory
  | nameTooLong
  | nulInName
  | other (wording : String)
deriving DecidableEq, Inhabited

def FileError.message : FileError → String
  | .notFound => "No such file or directory (os error 2)"
  | .isDirectory => "Is a directory (os error 21)"
  | .notDirectory => "Not a directory (os error 20)"
  | .nameTooLong => "File name too long (os error 36)"
  | .nulInName => "file name contained an unexpected NUL byte"
  | .other wording => wording

inductive LoadError where
  | unreadable (path : String) (cause : FileError)
  | tooSmall
  | unknownFormat
  | malformed
  | wide
  /-- The image lies outside the addresses of 32 bits. -/
  | distant (imageBase : Nat)
  | unmappable (sectionName : String) (cause : MemoryError)
deriving DecidableEq, Inhabited

namespace LoadError

def title : LoadError → String
  | .unreadable path _ => "Failed to read " ++ path
  | .tooSmall => "File too small"
  | .unknownFormat => "Unknown binary format (only PE32 images are supported)"
  | .malformed => "Invalid PE"
  | .wide => "64-bit images are not supported"
  | .distant imageBase =>
      "Image base 0x" ++ String.ofList (shortestHex imageBase)
        ++ " exceeds 32 bits"
  | .unmappable sectionName _ => "Failed to map section " ++ sectionName

def cause? : LoadError → Option String
  | .unreadable _ cause => some cause.message
  | .unmappable _ cause => some cause.message
  | _ => none

def message (failure : LoadError) : String :=
  match failure.cause? with
  | some cause => failure.title ++ ": " ++ cause
  | none => failure.title

end LoadError

structure FoundFunction where
  name : String
  address : Address
  exported : Bool
deriving DecidableEq, Inhabited

structure FoundImport where
  library : String
  name : String
  address : Address
deriving DecidableEq, Inhabited

/-- The import of an executable in an image with the given base. -/
def FoundImport.ofImport (base : Address) (item : Executable.Import) :
    FoundImport where
  library := item.library
  name := item.name
  address := base + UInt32.ofNat item.address

structure Section where
  name : String
  address : Address
  virtualSize : UInt32
  fileOffset : UInt32
  fileSize : UInt32
  protection : Protection
deriving DecidableEq, Inhabited

namespace Section

/-- The size in memory: a section without a virtual size is as long as
in the file. -/
def mappedSize (entry : Section) : Nat :=
  if entry.virtualSize ≠ 0 then entry.virtualSize.toNat
  else entry.fileSize.toNat

/-- The contents in memory: the bytes that the file has, and zeros
after them. -/
def mappedBytes (entry : Section) (data : Array UInt8) : Array UInt8 :=
  let start := entry.fileOffset.toNat
  let present :=
    data.extract start (start + min entry.fileSize.toNat entry.mappedSize)
  present ++ Array.replicate (entry.mappedSize - present.size) 0

def region (entry : Section) (data : Array UInt8) : Region :=
  ⟨entry.name, entry.address, entry.mappedBytes data, entry.protection⟩

def ofHeader (base : Address) (header : Executable.SectionHeader) :
    Section where
  name := String.ofList
    ((Utf8.lenientText header.name).reverse.dropWhile (·.toNat = 0)).reverse
  address := base + UInt32.ofNat header.virtualAddress
  virtualSize := UInt32.ofNat header.virtualSize
  fileOffset := UInt32.ofNat header.rawOffset
  fileSize := UInt32.ofNat header.rawSize
  protection :=
    { executable := header.characteristics.testBit 29
      readable := header.characteristics.testBit 30
      writable := header.characteristics.testBit 31 }

end Section

structure Binary where
  path : String
  data : Array UInt8
  entry : Address
  imageBase : Address
  functions : List FoundFunction
  imports : List FoundImport
  sections : List Section
deriving DecidableEq, Inhabited

namespace Binary

/-- The exported functions, and the entry point under a name of its own
if it is none of them. -/
def functionsOf (base entry : Address) (exports : List Executable.Export) :
    List FoundFunction :=
  let exported := exports.map fun item =>
    (⟨item.name, base + UInt32.ofNat item.address, true⟩ : FoundFunction)
  if exported.any fun function => function.address = entry then exported
  else exported ++ [⟨"entry", entry, false⟩]

def ofContents (data : Array UInt8) (path : String)
    (contents : Executable.Contents) : Binary :=
  let base := Address.ofNat contents.imageBase
  let entry := base + UInt32.ofNat contents.entry
  { path
    data
    entry
    imageBase := base
    functions := functionsOf base entry contents.exports
    imports := contents.imports.map (FoundImport.ofImport base)
    sections := contents.sections.map (Section.ofHeader base) }

/-- Reads the bytes of a file, of which the first two tell the format.  An
executable has to fit into addresses of 32 bits. -/
def ofBytesBy (reader : Executable.Reader) (data : Array UInt8)
    (path : String) : Except LoadError Binary :=
  if data.size < 4 then .error .tooSmall
  else if data[0]? = some 0x4d ∧ data[1]? = some 0x5a then
    match reader data with
    | none => .error .malformed
    | some contents =>
        if contents.wide then .error .wide
        else if wordBound ≤ contents.imageBase then
          .error (.distant contents.imageBase)
        else .ok (ofContents data path contents)
  else .error .unknownFormat

def ofBytes (data : Array UInt8) (path : String) : Except LoadError Binary :=
  ofBytesBy Executable.Contents.read? data path

def mappedRecord (region : Region) : LogRecord :=
  ⟨.debug, "Mapped " ++ region.name ++ " at " ++ region.base.render ++ " ("
    ++ String.ofList (decimal region.bytes.size) ++ " bytes)"⟩

/-- Maps sections one after another, up to the first that cannot be mapped.
Sections without bytes are left out. -/
def mapSections (data : Array UInt8) (project : Project) :
    List Section → Except LoadError Project × List LogRecord
  | [] => (.ok project, [])
  | entry :: rest =>
      let region := entry.region data
      if region.bytes.isEmpty then mapSections data project rest
      else
        match project.map region with
        | .error cause => (.error (.unmappable entry.name cause), [])
        | .ok project =>
            let (outcome, records) := mapSections data project rest
            (outcome, mappedRecord region :: records)

/-- Defines a function if it lies in executable memory.  Of several names for
one address the first wins, and the log tells of the others. -/
def defineFunction (project : Project) (function : FoundFunction) :
    Project × List LogRecord :=
  if project.image.isExecutable function.address then
    let source := if function.exported then Source.imported else Source.analysis
    match project.addFunction function.address function.name
      .undefined source with
    | .ok (_, project) => (project, [])
    | .error failure =>
        (project, [⟨.debug, "Skipping " ++ function.name ++ " at "
          ++ function.address.render ++ ": " ++ failure.message⟩])
  else (project, [])

def defineFunctions (project : Project) :
    List FoundFunction → Project × List LogRecord
  | [] => (project, [])
  | function :: rest =>
      let (project, records) := defineFunction project function
      let (project, others) := defineFunctions project rest
      (project, records ++ others)

/-- Files an import as a label under the namespace of its library. -/
def fileImport (project : Project) (item : FoundImport) : Project :=
  let (library, project) := project.addLibrary item.library
  project.addLabel item.address ⟨item.name, library, .imported, .imported⟩

def loadedRecord (binary : Binary) (project : Project) : LogRecord :=
  ⟨.info, "Loaded " ++ binary.path ++ ": "
    ++ String.ofList (decimal project.image.regions.length) ++ " regions, "
    ++ String.ofList (decimal project.functions.length) ++ " functions, "
    ++ String.ofList (decimal binary.imports.length) ++ " imports"⟩

/-- The project of a binary, and what is logged while it is made. -/
def toProject (binary : Binary) : Except LoadError Project × List LogRecord :=
  match mapSections binary.data .empty binary.sections with
  | (.error failure, records) => (.error failure, records)
  | (.ok project, mapped) =>
      let (project, defined) := defineFunctions project binary.functions
      let project := binary.imports.foldl fileImport project
      (.ok project, mapped ++ defined ++ [loadedRecord binary project])

def executableSections (binary : Binary) : List Section :=
  binary.sections.filter fun entry => entry.protection.executable

def summary (binary : Binary) : String :=
  "32-bit PE binary\n"
    ++ "Entry: 0x" ++ binary.entry.render ++ "\n"
    ++ "Image Base: 0x" ++ binary.imageBase.render ++ "\n"
    ++ "Sections: " ++ String.ofList (decimal binary.sections.length) ++ " ("
    ++ String.ofList (decimal binary.executableSections.length)
      ++ " executable)\n"
    ++ "Functions: " ++ String.ofList (decimal binary.functions.length) ++ "\n"
    ++ "Imports: " ++ String.ofList (decimal binary.imports.length)

end Binary

end DelphiRtti
