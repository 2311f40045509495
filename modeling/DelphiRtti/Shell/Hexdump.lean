import DelphiRtti.Address

/-!
# Hexdumps

Sixteen bytes to a line: the address, the bytes in groups of four, and the bytes
as characters where they print.
-/

namespace DelphiRtti

open Text

/-- The text with spaces after it up to a width in characters. -/
def Text.padRight (width : Nat) (text : List Char) : List Char :=
  text ++ List.replicate (width - text.length) ' '

theorem Text.length_padRight (width : Nat) (text : List Char) :
    (padRight width text).length = max width text.length := by
  simp only [padRight, List.length_append, List.length_replicate]
  omega

namespace Hexdump

/-- The list in pieces of `size` items, the last one with what is left. -/
def chunks {α : Type} (size : Nat) (items : List α) : List (List α) :=
  match items with
  | [] => []
  | head :: rest =>
      (head :: rest.take (size - 1)) :: chunks size (rest.drop (size - 1))
termination_by items.length
decreasing_by simp only [List.length_drop, List.length_cons]; omega

def lineBytes : Nat := 16

def byteColumns : Nat := 35

/-- A byte as it prints: the visible ASCII characters stand for themselves. -/
def printed (byte : UInt8) : Char :=
  if 0x21 ≤ byte.toNat && byte.toNat ≤ 0x7e then Char.ofNat byte.toNat else '.'

def groups (bytes : List UInt8) : List Char :=
  [' '].intercalate ((chunks 4 bytes).map hexOfBytes)

def line (address : Address) (bytes : List UInt8) : List Char :=
  address.render.toList ++ [' ', ' '] ++ padRight byteColumns (groups bytes)
    ++ [' ', ' '] ++ bytes.map printed

def lines (base : Address) (bytes : List UInt8) : List String :=
  ((chunks lineBytes bytes).zipIdx).map fun entry =>
    String.ofList
      (line (base + UInt32.ofNat entry.2 * UInt32.ofNat lineBytes) entry.1)

end Hexdump

end DelphiRtti
