/-!
# The first 256 characters

A byte stands for the character with the same code, so any row of bytes is a
text and nothing is lost.
-/

namespace DelphiRtti.Text

def charOfByte (byte : UInt8) : Char :=
  Char.ofNat byte.toNat

/-- Every byte is a valid code, so the byte can be read off the character. -/
theorem toNat_charOfByte (byte : UInt8) :
    (charOfByte byte).toNat = byte.toNat := by
  have valid : byte.toNat.isValidChar :=
    Or.inl (by have := byte.toNat_lt; omega)
  rw [charOfByte, Char.ofNat, dif_pos valid]
  rfl

theorem charOfByte_injective {left right : UInt8}
    (same : charOfByte left = charOfByte right) : left = right := by
  have codes := congrArg Char.toNat same
  rw [toNat_charOfByte, toNat_charOfByte] at codes
  exact UInt8.toNat_inj.mp codes

def latinText (bytes : List UInt8) : List Char :=
  bytes.map charOfByte

theorem latinText_injective {left right : List UInt8}
    (same : latinText left = latinText right) : left = right := by
  induction left generalizing right with
  | nil => cases right <;> simp_all [latinText]
  | cons byte rest induction =>
      cases right with
      | nil => simp [latinText] at same
      | cons other others =>
          simp only [latinText, List.map_cons, List.cons.injEq] at same
          rw [charOfByte_injective same.1, induction same.2]

/-- The capital form of a character whose code is below 256.  The sharp s
becomes two letters, and the capitals of the micro sign and of y with diaeresis
have codes above 255. -/
def capitals (character : Char) : List Char :=
  let code := character.toNat
  if 0x61 ≤ code && code ≤ 0x7a then [Char.ofNat (code - 0x20)]
  else if code == 0xb5 then [Char.ofNat 0x39c]
  else if code == 0xdf then ['S', 'S']
  else if code == 0xf7 then [character]
  else if 0xe0 ≤ code && code ≤ 0xfe then [Char.ofNat (code - 0x20)]
  else if code == 0xff then [Char.ofNat 0x178]
  else [character]

end DelphiRtti.Text
