import DelphiRtti.Memory
import DelphiRtti.Text.Utf8

/-!
# Fields of a file

Numbers and texts are read from a file at given offsets.  A read fails where
the file ends too early.
-/

namespace DelphiRtti.Executable

open Text

abbrev File := Array UInt8

namespace File

/-- The number in the `width` bytes at an offset, least significant
byte first. -/
def field? (file : File) (offset width : Nat) : Option Nat :=
  if offset + width ≤ file.size then
    some (littleEndian (file.extract offset (offset + width)).toList)
  else none

def bytesToZero (file : File) (offset : Nat) : List UInt8 :=
  if inside : offset < file.size then
    if file[offset] = 0 then [] else
      file[offset] :: bytesToZero file (offset + 1)
  else []
termination_by file.size - offset

/-- The text from an offset to the next zero byte or the end of the file.  It is
empty where the file ends, and no text begins beyond. -/
def text? (file : File) (offset : Nat) : Option (List Char) :=
  if offset ≤ file.size then Utf8.text? (bytesToZero file offset) else none

def table (file : File) (offset width : Nat) : (count : Nat) → List Nat
  | 0 => []
  | count + 1 =>
      match field? file offset width with
      | some value => value :: table file (offset + width) width count
      | none => []

end File

end DelphiRtti.Executable
