import DelphiRtti.Executable.Field
import DelphiRtti.Text.Digits

/-!
# Headers of executables

The headers of a portable executable say where its sections lie, both in memory
and in the file, and where its tables of exports and imports are.  Places in
memory are relative to the base of the image.
-/

namespace DelphiRtti.Executable

open Text

structure Directory where
  address : Nat
  size : Nat
deriving DecidableEq, Inhabited

structure SectionHeader where
  name : List UInt8
  virtualSize : Nat
  virtualAddress : Nat
  rawSize : Nat
  rawOffset : Nat
  characteristics : Nat
deriving DecidableEq, Inhabited

structure Header where
  machine : Nat
  wide : Bool
  entry : Nat
  imageBase : Nat
  fileAlignment : Nat
  /-- The directories in their order; one without address and size is absent. -/
  directories : List (Option Directory)
  sections : List SectionHeader
deriving DecidableEq, Inhabited

namespace SectionHeader

def roundToPage (size : Nat) : Nat := (size + 4095) / 4096 * 4096

/-- Where the loader begins to read: contents start at a multiple of 512. -/
def readStart (header : SectionHeader) : Nat := header.rawOffset / 512 * 512

/-- How many bytes of a section the loader reads from the file. -/
def readSize (header : SectionHeader) (fileAlignment : Nat) : Nat :=
  let rawEnd :=
    (header.rawOffset + header.rawSize + fileAlignment - 1) / fileAlignment
      * fileAlignment
  let size := min (rawEnd - header.readStart) (roundToPage header.rawSize)
  if header.virtualSize = 0 then size
  else min size (roundToPage header.virtualSize)

def base64Value (byte : UInt8) : Option Nat :=
  let code := byte.toNat
  if 0x41 ≤ code && code ≤ 0x5a then some (code - 0x41)
  else if 0x61 ≤ code && code ≤ 0x7a then some (code - 0x61 + 26)
  else if 0x30 ≤ code && code ≤ 0x39 then some (code - 0x30 + 52)
  else if code == 0x2b then some 62
  else if code == 0x2f then some 63
  else none

def base64From (before : Nat) : List UInt8 → Option Nat
  | [] => some before
  | byte :: rest =>
      match base64Value byte with
      | some value => base64From (before * 64 + value) rest
      | none => none

/-- Long names are kept in a table.  After a slash their index stands in
decimal, after two slashes in base 64.  The outer option tells whether the name
is well formed, the inner one whether it is long. -/
def longNameIndex? (name : List UInt8) : Option (Option Nat) :=
  match name with
  | 0x2f :: 0x2f :: rest => (base64From 0 (rest.takeWhile (· ≠ 0))).map some
  | 0x2f :: rest =>
      ((Utf8.text? (rest.takeWhile (· ≠ 0))).bind
        (readNumber 10 longBound)).map some
  | _ => some none

/-- Reads an entry of the section table.  The long name of a section
has to be readable. -/
def parse? (file : File) (offset nameTable : Nat) : Option SectionHeader := do
  let virtualSize ← file.field? (offset + 8) 4
  let virtualAddress ← file.field? (offset + 12) 4
  let rawSize ← file.field? (offset + 16) 4
  let rawOffset ← file.field? (offset + 20) 4
  let characteristics ← file.field? (offset + 36) 4
  let name := (file.extract offset (offset + 8)).toList
  match ← longNameIndex? name with
  | some index => discard (file.text? (nameTable + index))
  | none => pure ()
  return ⟨name, virtualSize, virtualAddress, rawSize, rawOffset,
    characteristics⟩

def parseAll? (file : File) (nameTable : Nat) : (count offset : Nat) → Option
    (List SectionHeader)
  | 0, _ => some []
  | count + 1, offset => do
      let first ← parse? file offset nameTable
      let rest ← parseAll? file nameTable count (offset + 40)
      return first :: rest

end SectionHeader

namespace Header

/-- A power of two shares no binary digit with the number before it. -/
def isPowerOfTwo (value : Nat) : Bool :=
  value != 0 && Nat.land value (value - 1) == 0

/-- The file offset of a place in memory, if a section covers it and
the alignment is sound. -/
def fileOffset? (header : Header) (address : Nat) : Option Nat :=
  if isPowerOfTwo header.fileAlignment then
    (header.sections.find? fun entry =>
        entry.virtualAddress ≤ address
          && address < entry.virtualAddress
            + entry.readSize header.fileAlignment).map
      fun entry => address - entry.virtualAddress + entry.readStart
  else none

def textAt? (header : Header) (file : File) (address : Nat) :
    Option (List Char) :=
  (header.fileOffset? address).bind file.text?

def directory? (header : Header) (index : Nat) : Option Directory :=
  (header.directories[index]?).join

def directories? (file : File) : (count offset : Nat) → Option
    (List (Option Directory))
  | 0, _ => some []
  | count + 1, offset => do
      let address ← file.field? offset 4
      let size ← file.field? (offset + 4) 4
      let rest ← directories? file count (offset + 8)
      return (if address = 0 ∧ size = 0 then none else
        some ⟨address, size⟩) :: rest

def parseOptional? (file : File) (machine offset : Nat)
    (sections : List SectionHeader) :
    Option Header := do
  let magic ← file.field? offset 2
  let entry ← file.field? (offset + 16) 4
  let fileAlignment ← file.field? (offset + 36) 4
  if magic = 0x10b then
    let imageBase ← file.field? (offset + 28) 4
    let count ← file.field? (offset + 92) 4
    if 16 < count then failure
    let directories ← directories? file count (offset + 96)
    return ⟨machine, false, entry, imageBase, fileAlignment,
      directories, sections⟩
  else if magic = 0x20b then
    let imageBase ← file.field? (offset + 24) 8
    let count ← file.field? (offset + 108) 4
    if 16 < count then failure
    let directories ← directories? file count (offset + 112)
    return ⟨machine, true, entry, imageBase, fileAlignment,
      directories, sections⟩
  else failure

/-- The headers and the stub of the older format in front of them have
fixed places. -/
def leadingBytes : Nat := 0x80

def parse? (file : File) : Option Header := do
  if file.size < leadingBytes then failure
  let start ← file.field? 0x3c 4
  let mark ← file.field? start 4
  if mark ≠ 0x4550 then failure
  let machine ← file.field? (start + 4) 2
  let sectionCount ← file.field? (start + 6) 2
  let symbolTable ← file.field? (start + 12) 4
  let symbolCount ← file.field? (start + 16) 4
  let optionalSize ← file.field? (start + 20) 2
  let _ ← file.field? (start + 22) 2
  if file.size / 40 < sectionCount then failure
  let sections ← SectionHeader.parseAll? file
      (symbolTable + 18 * symbolCount) sectionCount
    (start + 24 + optionalSize)
  if optionalSize = 0 then
    return ⟨machine, false, 0, 0, 0, [], sections⟩
  else
    parseOptional? file machine (start + 24) sections

end Header

end DelphiRtti.Executable
