import DelphiRtti.Executable.Header

/-!
# Imports of executables

Each library has a descriptor with a lookup table, whose entries are ordinals or
point to names.  Both the list of descriptors and the tables end with zeros; a
file that ends before them is malformed.
-/

namespace DelphiRtti.Executable

open Text

structure Import where
  library : String
  name : String
  /-- The place of the name in memory, relative to the base; zero for an import
  by ordinal. -/
  address : Nat
  /-- The place of the slot in memory that the import is bound through, relative
  to the base. -/
  slot : Nat
deriving DecidableEq, Inhabited

structure ImportDescriptor where
  lookupTable : Nat
  timeStamp : Nat
  forwarderChain : Nat
  name : Nat
  addressTable : Nat
deriving DecidableEq, Inhabited

structure LookupEntry where
  name : String
  address : Nat
deriving DecidableEq, Inhabited

namespace ImportDescriptor

def isZero (descriptor : ImportDescriptor) : Bool :=
  descriptor.lookupTable == 0 && descriptor.timeStamp == 0
    && descriptor.forwarderChain == 0
    && descriptor.name == 0 && descriptor.addressTable == 0

def parse? (file : File) (offset : Nat) : Option ImportDescriptor := do
  let lookupTable ← file.field? offset 4
  let timeStamp ← file.field? (offset + 4) 4
  let forwarderChain ← file.field? (offset + 8) 4
  let name ← file.field? (offset + 12) 4
  let addressTable ← file.field? (offset + 16) 4
  return ⟨lookupTable, timeStamp, forwarderChain, name, addressTable⟩

def parseAll? (file : File) (offset : Nat) : Option (List ImportDescriptor) :=
  if offset + 20 ≤ file.size then
    match parse? file offset with
    | some descriptor =>
        if descriptor.isZero then some []
        else (parseAll? file (offset + 20)).map (descriptor :: ·)
    | none => none
  else none
termination_by file.size - offset

end ImportDescriptor

/-- The numbers of a table up to the one that is zero; `width` is that
of an entry. -/
def File.tableToZero? (file : File) (offset width : Nat) : Option (List Nat) :=
  if _inside : 0 < width ∧ offset + width ≤ file.size then
    match file.field? offset width with
    | some 0 => some []
    | some value => (tableToZero? file (offset + width) width).map (value :: ·)
    | none => none
  else none
termination_by file.size - offset

namespace LookupEntry

/-- What an entry of a lookup table stands for.  The outer option
tells whether it can be read; an entry that points outside every
section stands for nothing. -/
def ofValue? (file : File) (header : Header) (width value : Nat) :
    Option (Option LookupEntry) :=
  if value.testBit (8 * width - 1) then
    some (some ⟨"ORDINAL " ++ String.ofList (decimal (value % 65536)), 0⟩)
  else
    let address := value % 0x80000000
    match header.fileOffset? address with
    | none => some none
    | some offset => do
        let _ ← file.field? offset 2
        let name ← file.text? (offset + 2)
        return some ⟨String.ofList name, address⟩

def parseAll? (file : File) (header : Header) (width offset : Nat) :
    Option (List (Option LookupEntry)) := do
  let values ← file.tableToZero? offset width
  values.mapM (ofValue? file header width)

end LookupEntry

namespace Import

/-- Reads the imports of one library.  The lookup table may be missing; then the
address table, which has the same form in the file, is read in its place. -/
def ofDescriptor? (file : File) (header : Header) (width : Nat)
    (descriptor : ImportDescriptor) : Option (List Import) := do
  let library ← header.textAt? file descriptor.name
  let entries ←
    match header.fileOffset? descriptor.lookupTable with
    | some offset => LookupEntry.parseAll? file header width offset
    | none =>
        match header.fileOffset? descriptor.addressTable with
        | some offset => LookupEntry.parseAll? file header width offset
        | none => some []
  let bound ← header.fileOffset? descriptor.addressTable
  let _ ← file.tableToZero? bound width
  let imports := entries.mapIdx fun index parsed =>
    parsed.map fun entry =>
      (⟨String.ofList library, entry.name, entry.address,
        descriptor.addressTable + width * index⟩ : Import)
  return imports.filterMap id

def parse? (file : File) (header : Header) : Option (List Import) :=
  match header.directory? 1 with
  | none => some []
  | some directory => do
      let start ← header.fileOffset? directory.address
      let descriptors ← ImportDescriptor.parseAll? file start
      let imports ← descriptors.mapM
          (ofDescriptor? file header (if header.wide then 8 else 4))
      return imports.flatten

end Import

end DelphiRtti.Executable
