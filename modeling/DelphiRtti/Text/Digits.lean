/-!
# Digits: writing and reading numbers in a base

Numbers are written with a fixed count of digits or with as few as possible, in
either case of the letters. Reading accepts an optional plus sign and one or
more digits, and refuses a value that is out of bounds.
-/

namespace DelphiRtti.Text

/-- The digit for a value below sixteen, with small letters. -/
def digit (value : Nat) : Char :=
  if value < 10 then Char.ofNat (0x30 + value) else
    Char.ofNat (0x61 + (value - 10))

def capitalDigit (value : Nat) : Char :=
  if value < 10 then Char.ofNat (0x30 + value) else
    Char.ofNat (0x41 + (value - 10))

/-- The last `count` digits of `value` in base sixteen, most
significant first. -/
def hexDigits (write : Nat → Char) : (count : Nat) → (value : Nat) → List Char
  | 0, _ => []
  | count + 1, value =>
      hexDigits write count (value / 16) ++ [write (value % 16)]

theorem length_hexDigits (write : Nat → Char) (count value : Nat) :
    (hexDigits write count value).length = count := by
  induction count generalizing value with
  | zero => rfl
  | succ count induction => simp [hexDigits, induction]

def shortestHex (value : Nat) : List Char :=
  if value < 16 then [digit value] else
    shortestHex (value / 16) ++ [digit (value % 16)]
termination_by value
decreasing_by omega

def decimal (value : Nat) : List Char :=
  if value < 10 then [digit value] else
    decimal (value / 10) ++ [digit (value % 10)]
termination_by value
decreasing_by omega

def signedDecimal : Int → List Char
  | .ofNat value => decimal value
  | .negSucc value => '-' :: decimal (value + 1)

/-- The hexadecimal form of a row of bytes: two digits with small letters for
each byte, the high half first, and nothing between the bytes. -/
def hexOfBytes (bytes : List UInt8) : List Char :=
  bytes.flatMap fun byte => hexDigits digit 2 byte.toNat

def wordBound : Nat := 4294967296

def longBound : Nat := 18446744073709551616

/-- The value of a digit in `base`, which is at most sixteen; letters of
either case count from ten. -/
def digitValue (base : Nat) (character : Char) : Option Nat :=
  let code := character.toNat
  let value :=
    if 0x30 ≤ code && code ≤ 0x39 then code - 0x30
    else if 0x61 ≤ code && code ≤ 0x66 then code - 0x61 + 10
    else if 0x41 ≤ code && code ≤ 0x46 then code - 0x41 + 10
    else base
  if value < base then some value else none

def digitsValueFrom (base : Nat) (before : Nat) : List Char → Option Nat
  | [] => some before
  | character :: rest =>
      match digitValue base character with
      | some value => digitsValueFrom base (before * base + value) rest
      | none => none

def digitsValue (base : Nat) : List Char → Option Nat
  | [] => none
  | text => digitsValueFrom base 0 text

/-- Reads an optional plus sign and one or more digits, as a number
below `bound`. -/
def readNumber (base bound : Nat) (text : List Char) : Option Nat :=
  let digits := match text with
    | '+' :: rest => rest
    | _ => text
  match digitsValue base digits with
  | some value => if value < bound then some value else none
  | none => none

def isHexDigit (character : Char) : Bool :=
  (digitValue 16 character).isSome

end DelphiRtti.Text
