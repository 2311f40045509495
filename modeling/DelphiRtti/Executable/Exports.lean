import DelphiRtti.Executable.Header

/-!
# Exports of executables

The export directory pairs names with entries of an address table by way of
ordinals.  An entry that lies inside the directory itself is no code but the
name of a function of another library.
-/

namespace DelphiRtti.Executable

open Text

structure Export where
  name : String
  address : Nat
deriving DecidableEq, Inhabited

structure ExportTables where
  names : List Nat
  ordinals : List Nat
  addresses : List Nat
deriving DecidableEq, Inhabited

namespace ExportTables

def tableAt (file : File) (header : Header)
    (address width count : Nat) : List Nat :=
  match header.fileOffset? address with
  | some offset => file.table offset width count
  | none => []

def parse? (file : File) (header : Header) (directory : Directory) :
    Option ExportTables := do
  let start ← header.fileOffset? directory.address
  let addressCount ← file.field? (start + 20) 4
  let nameCount ← file.field? (start + 24) 4
  let addressTable ← file.field? (start + 28) 4
  let nameTable ← file.field? (start + 32) 4
  let ordinalTable ← file.field? (start + 36) 4
  if file.size < nameCount || file.size < addressCount then failure
  return {
    names := tableAt file header nameTable 4 nameCount
    ordinals := tableAt file header ordinalTable 2 nameCount
    addresses := tableAt file header addressTable 4 addressCount }

end ExportTables

namespace Export

/-- Whether a text names a function of another library: the library, a dot, and
a name or an ordinal after a number sign. -/
def isForwarder (text : List Char) : Bool :=
  match text.dropWhile (· ≠ '.') with
  | '.' :: '#' :: ordinal => (readNumber 10 wordBound ordinal).isSome
  | '.' :: _ :: _ => true
  | _ => false

/-- Whether an entry of the address table stands for an export: code always
does, and a place inside the directory if a forwarder can be read there. -/
def isUsable (file : File) (header : Header) (directory : Directory)
    (address : Nat) : Bool :=
  if directory.address ≤ address
    && address < directory.address + directory.size then
    match header.textAt? file address with
    | some text => isForwarder text
    | none => false
  else true

def ofEntry? (file : File) (header : Header) (directory : Directory)
    (addresses : Array Nat)
    (nameAddress ordinal : Nat) : Option Export := do
  let address ← addresses[ordinal]?
  if isUsable file header directory address then
    let name ← header.textAt? file nameAddress
    return ⟨String.ofList name, address⟩
  else failure

/-- The exports with names, in the order of the name table.  A directory that
cannot be read has none. -/
def parse (file : File) (header : Header) : List Export :=
  match header.directory? 0 with
  | none => []
  | some directory =>
      match ExportTables.parse? file header directory with
      | none => []
      | some tables =>
          let addresses := tables.addresses.toArray
          (tables.names.zip tables.ordinals).filterMap fun entry =>
            ofEntry? file header directory addresses entry.1 entry.2

end Export

end DelphiRtti.Executable
