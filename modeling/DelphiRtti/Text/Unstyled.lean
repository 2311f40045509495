/-!
# Emphasis, and texts without it

On a terminal, parts of a message are set off by control sequences, which an
escape character begins.  Where there is no terminal the message is shown
without its sequences and without control characters other than white space.
Sequences that stand in quoted parts go the same way, whole or broken off.
-/

namespace DelphiRtti.Text

def emphasised (text : String) : String := "\x1b[1m" ++ text ++ "\x1b[0m"

def isControlSpace (character : Char) : Bool :=
  character = '\t' || character = '\n' || character.toNat = 0xc
    || character = '\r'

def isPlain (character : Char) : Bool :=
  (0x20 ≤ character.toNat && character.toNat ≠ 0x7f) || isControlSpace character

inductive SequencePlace where
  | outside
  | escape
  /-- After an escape character and intermediate characters. -/
  | intermediate
  | control
  /-- In a command to the operating system, which a bell ends. -/
  | systemCommand
  /-- At the start of a control string for a device. -/
  | device
  | deviceParameters
  | deviceIntermediate
  | string
deriving DecidableEq, Inhabited

namespace SequencePlace

/-- A control string ends with a character of which one byte in UTF-8 is that of
the string terminator. -/
def endsString (character : Char) : Bool :=
  (String.utf8EncodeChar character).contains 0x9c

/-- The place after a character.  A cancel or a substitute ends every sequence,
and an escape begins a new one. -/
def next (place : SequencePlace) (character : Char) : SequencePlace :=
  let code := character.toNat
  if code = 0x18 ∨ code = 0x1a then .outside
  else if code = 0x1b then .escape
  else
    match place with
    | .outside => .outside
    | .escape =>
        if code < 0x20 ∨ 0x7f ≤ code then .escape
        else if code < 0x30 then .intermediate
        else if character = '[' then .control
        else if character = ']' then .systemCommand
        else if character = 'P' then .device
        else if character = 'X' ∨ character = '^' ∨ character = '_' then .string
        else .outside
    | .intermediate =>
        if 0x30 ≤ code ∧ code < 0x7f then .outside else .intermediate
    | .control => if 0x40 ≤ code ∧ code < 0x7f then .outside else .control
    | .systemCommand => if code = 7 then .outside else .systemCommand
    | .device =>
        if code < 0x20 ∨ 0x7f ≤ code then .device
        else if code < 0x30 then .deviceIntermediate
        else if code < 0x40 then .deviceParameters
        else .string
    | .deviceParameters =>
        if code < 0x20 ∨ 0x7f ≤ code then .deviceParameters
        else if code < 0x30 then .deviceIntermediate
        else if code < 0x3c then .deviceParameters
        else .string
    | .deviceIntermediate =>
        if 0x30 ≤ code ∧ code < 0x7f then .string else .deviceIntermediate
    | .string => if endsString character then .outside else .string

def shows (place : SequencePlace) (character : Char) : Bool :=
  match place with
  | .outside => isPlain character
  | .escape => isControlSpace character
  | .intermediate => isControlSpace character
  | .control => isControlSpace character
  | _ => false

/-- The place to which a reader comes back after a character that is shown: a
sequence that white space has broken into goes on after the text, unless that
has a character beyond ASCII. -/
def afterShown (place : SequencePlace) (character : Char) : SequencePlace :=
  if 0x80 ≤ character.toNat then .outside else place

end SequencePlace

/-- The characters that are shown from a place on; `showing` tells
whether the last one was. -/
def unstyledFrom (showing : Bool) (place : SequencePlace) :
    List Char → List Char
  | [] => []
  | character :: rest =>
      if (showing && isPlain character) || place.shows character then
        character :: unstyledFrom true (place.afterShown character) rest
      else unstyledFrom false (place.next character) rest

def unstyled (text : String) : String :=
  String.ofList (unstyledFrom false .outside text.toList)

end DelphiRtti.Text
