import DelphiRtti.Address

/-!
# The mapped memory of an image

Memory is a list of regions in ascending order of their bases.  Regions
may reach past the end of the address space, so their ends are plain
numbers; a region is refused where it overlaps another one.  A read lies
inside one region or fails.
-/

namespace DelphiRtti

open Text

/-- The number that a row of bytes writes, least significant byte first. -/
def littleEndian : List UInt8 → Nat
  | [] => 0
  | byte :: rest => byte.toNat + 256 * littleEndian rest

inductive MemoryError where
  | unmapped (address : Address)
  | truncated (address : Address) (size : Nat)
  | overlap (name : String) (base : Address)
deriving DecidableEq, Inhabited

namespace MemoryError

def message : MemoryError → String
  | .unmapped address => "Unmapped memory at " ++ address.render
  | .truncated address size =>
      "Read of " ++ String.ofList (decimal size) ++ " bytes at "
        ++ address.render ++ " runs past the end of its region"
  | .overlap name base =>
      "Region " ++ name ++ " at " ++ base.render
        ++ " overlaps an existing region"

end MemoryError

structure Protection where
  readable : Bool
  writable : Bool
  executable : Bool
deriving DecidableEq, Inhabited

structure Region where
  name : String
  base : Address
  bytes : Array UInt8
  protection : Protection
deriving DecidableEq, Inhabited

namespace Region

/-- One past the last byte, as a plain number: it may be 2^32 or more. -/
def limit (region : Region) : Nat := region.base.toNat + region.bytes.size

def contains (region : Region) (address : Address) : Bool :=
  region.base.toNat ≤ address.toNat && address.toNat < region.limit

/-- Whether two regions overlap.  A region without bytes overlaps those that it
lies strictly inside. -/
def overlaps (left right : Region) : Bool :=
  left.base.toNat < right.limit && right.base.toNat < left.limit

end Region

structure Image where
  regions : List Region
deriving DecidableEq, Inhabited

namespace Image

def empty : Image := ⟨[]⟩

/-- Puts a region before the first one whose base is not smaller. -/
def place (region : Region) : List Region → List Region
  | [] => [region]
  | head :: rest =>
      if head.base < region.base then head :: place region rest
      else region :: head :: rest

/-- Maps a region unless it overlaps one that is there. -/
def map (image : Image) (region : Region) : Except MemoryError Image :=
  if image.regions.any region.overlaps then
    .error (.overlap region.name region.base)
  else
    .ok ⟨place region image.regions⟩

def regionAt? (image : Image) (address : Address) : Option Region :=
  image.regions.find? fun region => region.contains address

def isExecutable (image : Image) (address : Address) : Bool :=
  match image.regionAt? address with
  | some region => region.protection.executable
  | none => false

/-- The `size` bytes at an address.  Reading nothing succeeds everywhere. -/
def read (image : Image) (address : Address) (size : Nat) :
    Except MemoryError (List UInt8) :=
  if size = 0 then .ok []
  else
    match image.regionAt? address with
    | none => .error (.unmapped address)
    | some region =>
        let start := address.toNat - region.base.toNat
        if start + size ≤ region.bytes.size then
          .ok (region.bytes.extract start (start + size)).toList
        else
          .error (.truncated address size)

theorem length_of_read {image : Image} {address : Address} {size : Nat}
    {bytes : List UInt8} (readable : image.read address size = .ok bytes) :
    bytes.length = size := by
  rw [read] at readable
  split at readable
  case isTrue nothing =>
      cases readable
      exact nothing.symm
  case isFalse =>
      split at readable
      case h_1 => cases readable
      case h_2 region _ =>
          simp only at readable
          split at readable
          case isTrue short =>
              cases readable
              rw [Array.length_toList, Array.size_extract,
                Nat.min_eq_left short, Nat.add_sub_cancel_left]
          case isFalse => cases readable

/-- Fills a buffer with the bytes at an address.  One that cannot be
filled stays as it is. -/
def readInto (image : Image) (address : Address) {size : Nat}
    (buffer : Vector UInt8 size) :
    Except MemoryError Unit × Vector UInt8 size :=
  match readable : image.read address size with
  | .ok bytes => (.ok (), ⟨bytes.toArray, length_of_read readable⟩)
  | .error failure => (.error failure, buffer)

def readByte (image : Image) (address : Address) : Except MemoryError UInt8 :=
  match image.read address 1 with
  | .ok bytes => .ok (bytes.headD 0)
  | .error failure => .error failure

def readWord (image : Image) (address : Address) : Except MemoryError Int32 :=
  match image.read address 4 with
  | .ok bytes => .ok (UInt32.ofNat (littleEndian bytes)).toInt32
  | .error failure => .error failure

end Image

end DelphiRtti
