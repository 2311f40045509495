import DelphiRtti.Text.Digits

/-!
# Signed decimal numbers with a reason for refusal

Numbers of 64 bits are read digit by digit.  The first thing that is wrong, a
character that is no digit or a value that no longer fits, is the reason for
which a text is refused.
-/

namespace DelphiRtti.Text

inductive NumberError where
  | empty
  | invalidDigit
  | tooLarge
  | tooSmall
deriving DecidableEq, Inhabited

def NumberError.message : NumberError → String
  | .empty => "cannot parse integer from empty string"
  | .invalidDigit => "invalid digit found in string"
  | .tooLarge => "number too large to fit in target type"
  | .tooSmall => "number too small to fit in target type"

/-- The value of the digits of a number that are read so far may be at
most `limit`. -/
def boundedDigitsFrom (limit : Nat) (excess : NumberError) (before : Nat) :
    List Char → Except NumberError Nat
  | [] => .ok before
  | character :: rest =>
      match digitValue 10 character with
      | none => .error .invalidDigit
      | some value =>
          if limit < before * 10 + value then .error excess
          else boundedDigitsFrom limit excess (before * 10 + value) rest

def boundedDigits (limit : Nat) (excess : NumberError) :
    List Char → Except NumberError Nat
  | [] => .error .invalidDigit
  | digits => boundedDigitsFrom limit excess 0 digits

def greatest : Nat := 9223372036854775807

/-- Reads a number of 64 bits: an optional sign and one or more digits. -/
def readSigned : List Char → Except NumberError Int
  | [] => .error .empty
  | '+' :: digits => (boundedDigits greatest .tooLarge digits).map Int.ofNat
  | '-' :: digits => (boundedDigits
    (greatest + 1) .tooSmall digits).map fun value => -Int.ofNat value
  | digits => (boundedDigits greatest .tooLarge digits).map Int.ofNat

end DelphiRtti.Text
