import DelphiRtti.Address
import DelphiRtti.Text.Blank

/-!
# Commands of the shell

A command line is a word and, after the first space, an argument.
Blanks around the line and around the argument do not count; what stands
inside the argument is kept.
-/

namespace DelphiRtti

open Text

namespace Address

/-- Reads an address.  After `0x` or `0X` come hexadecimal digits; five or more
hexadecimal digits alone are hexadecimal, too; everything else is decimal. -/
def parse? (text : List Char) : Option Address :=
  let value? :=
    match trim text with
    | '0' :: 'x' :: digits => readNumber 16 wordBound digits
    | '0' :: 'X' :: digits => readNumber 16 wordBound digits
    | trimmed =>
        if trimmed.all isHexDigit && 4 < trimmed.length then
          readNumber 16 wordBound trimmed
        else readNumber 10 wordBound trimmed
  value?.map ofNat

end Address

namespace Shell

inductive Command where
  | openFile (path : String)
  | seek (address : Address)
  | hexdump (count : Nat)
  /-- Rebuilds the class at an address, or at the cursor. -/
  | rebuildClass (address : Option Address)
  | classes
  | functions (scope : Option String)
  | types
  | printType (name : String)
  | info
  | help
  | quit
  | unknown (text : String)
deriving DecidableEq, Inhabited

namespace Command

def defaultCount : Nat := 64

def ofWord (word : String) (argument : Option (List Char))
    (line : List Char) : Command :=
  match word with
  | "o" | "open" | "load" =>
      match argument with
      | some path => .openFile (String.ofList path)
      | none => .unknown "open requires a path"
  | "s" | "seek" =>
      match argument.map Address.parse? with
      | some (some address) => .seek address
      | some none => .unknown "Invalid address"
      | none => .unknown "seek requires an address"
  | "x" =>
      .hexdump ((argument.bind (readNumber 10 longBound)).getD defaultCount)
  | "pc" | "class" =>
      match argument.map Address.parse? with
      | some (some address) => .rebuildClass (some address)
      | some none => .unknown "Invalid address"
      | none => .rebuildClass none
  | "ns" | "classes" => .classes
  | "fns" | "functions" => .functions (argument.map String.ofList)
  | "types" => .types
  | "pt" =>
      match argument with
      | some name => .printType (String.ofList name)
      | none => .unknown "pt requires a type name"
  | "i" | "info" => .info
  | "help" | "?" => .help
  | "quit" | "exit" | "q" => .quit
  | _ => .unknown (String.ofList line)

/-- The argument of a line: what follows the first space, unless that
is blank. -/
def argument? (line : List Char) : Option (List Char) :=
  match trim (line.dropWhile (· ≠ ' ')) with
  | [] => none
  | argument => some argument

def parse (text : List Char) : Command :=
  let line := trim text
  ofWord (String.ofList (line.takeWhile (· ≠ ' '))) (argument? line) line

end Command

end Shell

end DelphiRtti
