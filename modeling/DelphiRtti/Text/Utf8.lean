/-!
# Reading UTF-8

Bytes are read as characters one after another.  A sequence that is no character
is passed over as far as it could have begun one, so a strict reader refuses it
and a lenient reader puts one replacement character in its place.
-/

namespace DelphiRtti.Text.Utf8

def isContinuation (byte : UInt8) : Bool :=
  0x80 ≤ byte.toNat && byte.toNat ≤ 0xbf

/-- The bytes that may follow a lead byte: the first and the last of them.  Some
lead bytes allow less than every continuation byte, which keeps out long forms,
surrogates and codes above U+10FFFF. -/
def secondBounds (lead : UInt8) : Nat × Nat :=
  if lead.toNat = 0xe0 then (0xa0, 0xbf)
  else if lead.toNat = 0xed then (0x80, 0x9f)
  else if lead.toNat = 0xf0 then (0x90, 0xbf)
  else if lead.toNat = 0xf4 then (0x80, 0x8f)
  else (0x80, 0xbf)

def isSecond (lead byte : UInt8) : Bool :=
  (secondBounds lead).1 ≤ byte.toNat && byte.toNat ≤ (secondBounds lead).2

def payload (byte : UInt8) : Nat :=
  byte.toNat % 64

/-- Reads the character that starts with `lead`, or nothing if there is none,
and gives the bytes that are still to be read. -/
def step (lead : UInt8) (rest : List UInt8) : Option Char × List UInt8 :=
  if lead.toNat < 0x80 then
    (some (Char.ofNat lead.toNat), rest)
  else if 0xc2 ≤ lead.toNat && lead.toNat ≤ 0xdf then
    match rest with
    | second :: others =>
        if isContinuation second then
          (some (Char.ofNat (lead.toNat % 32 * 64 + payload second)), others)
        else (none, rest)
    | [] => (none, rest)
  else if 0xe0 ≤ lead.toNat && lead.toNat ≤ 0xef then
    match rest with
    | second :: others =>
        if isSecond lead second then
          match others with
          | third :: others' =>
              if isContinuation third then
                (some (Char.ofNat
                  ((lead.toNat % 16 * 64 + payload second) * 64
                    + payload third)), others')
              else (none, others)
          | [] => (none, others)
        else (none, rest)
    | [] => (none, rest)
  else if 0xf0 ≤ lead.toNat && lead.toNat ≤ 0xf4 then
    match rest with
    | second :: others =>
        if isSecond lead second then
          match others with
          | third :: others' =>
              if isContinuation third then
                match others' with
                | fourth :: others'' =>
                    if isContinuation fourth then
                      (some (Char.ofNat
                        (((lead.toNat % 8 * 64 + payload second) * 64
                          + payload third) * 64
                          + payload fourth)), others'')
                    else (none, others')
                | [] => (none, others')
              else (none, others)
          | [] => (none, others)
        else (none, rest)
    | [] => (none, rest)
  else
    (none, rest)

theorem length_step_le (lead : UInt8) (rest : List UInt8) :
    (step lead rest).2.length ≤ rest.length := by
  unfold step
  repeat' split
  all_goals (simp only [List.length_cons, List.length_nil]; omega)

def decode : List UInt8 → List (Option Char)
  | [] => []
  | lead :: rest => (step lead rest).1 :: decode (step lead rest).2
termination_by bytes => bytes.length
decreasing_by
  have := length_step_le lead rest
  simp only [List.length_cons]
  omega

def text? (bytes : List UInt8) : Option (List Char) :=
  (decode bytes).mapM id

/-- The text that the bytes write, with U+FFFD for every sequence that
is no character. -/
def lenientText (bytes : List UInt8) : List Char :=
  (decode bytes).map fun character => character.getD (Char.ofNat 0xfffd)

end DelphiRtti.Text.Utf8
