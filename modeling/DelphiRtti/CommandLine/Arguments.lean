import DelphiRtti.Dialect
import DelphiRtti.Shell.Command
import DelphiRtti.Text.SignedNumber
import DelphiRtti.Text.Unstyled

/-!
# Arguments of the command line

Options stand behind a dash and a letter or behind two dashes and a name.  A
value follows in the same argument or in the next one, which then must not begin
with a dash.  Values are checked when the next option or the end comes, so an
argument that is no option at all is refused before the value in front of it.
-/

namespace DelphiRtti

open Text

namespace CommandLine

inductive Flag where
  | target
  | address
  | nameOffset
  | maxSlots
  | tag
  | verbose
  | help
  | version
deriving DecidableEq, Inhabited

namespace Flag

def ofLetter? : Char → Option Flag
  | 't' => some .target
  | 'a' => some .address
  | 'v' => some .verbose
  | 'h' => some .help
  | 'V' => some .version
  | _ => none

def ofName? : String → Option Flag
  | "target" => some .target
  | "address" => some .address
  | "name-offset" => some .nameOffset
  | "max-slots" => some .maxSlots
  | "tag" => some .tag
  | "verbose" => some .verbose
  | "help" => some .help
  | "version" => some .version
  | _ => none

def takesValue : Flag → Bool
  | .verbose => false
  | .help => false
  | .version => false
  | _ => true

def render : Flag → String
  | .target => "--target <TARGET>"
  | .address => "--address <ADDRESS>"
  | .nameOffset => "--name-offset <NAME_OFFSET>"
  | .maxSlots => "--max-slots <MAX_SLOTS>"
  | .tag => "--tag <TAG>"
  | .verbose => "--verbose..."
  | .help => "--help"
  | .version => "--version"

end Flag

/-- What is given on the command line, or the standard in its place. -/
structure Options where
  target : Option String
  address : Option Address
  dialect : Dialect
deriving DecidableEq

def Options.standard : Options := ⟨none, none, .standard⟩

instance : Inhabited Options := ⟨.standard⟩

inductive ArgumentError where
  | unexpected (argument : String)
  | invalidValue (value : String) (flag : Flag) (reason : String)
  | valueRequired (flag : Flag)
  | repeated (flag : Flag)
  | unneededValue (value : String) (flag : Flag)
deriving DecidableEq, Inhabited

namespace ArgumentError

/-- What is wrong, with what was given and what is named set off from
the text around. -/
def message : ArgumentError → String
  | .unexpected argument =>
      "unexpected argument '" ++ emphasised argument ++ "' found"
  | .invalidValue value flag reason =>
      "invalid value '" ++ emphasised value ++ "' for '"
        ++ emphasised flag.render ++ "': " ++ reason
  | .valueRequired flag =>
      "a value is required for '" ++ emphasised flag.render
        ++ "' but none was supplied"
  | .repeated flag =>
      "the argument '" ++ emphasised flag.render
        ++ "' cannot be used multiple times"
  | .unneededValue value flag =>
      "unexpected value '" ++ emphasised value ++ "' for '"
        ++ emphasised flag.render ++ "' found; no more were expected"

def report (cause : ArgumentError) : String :=
  emphasised "error:" ++ " " ++ cause.message
    ++ "\n\nFor more information, try '" ++ emphasised "--help" ++ "'.\n"

end ArgumentError

inductive Stop where
  | refused (cause : ArgumentError)
  | help
  | version
deriving DecidableEq, Inhabited

structure Reading where
  options : Options
  given : List Flag
  /-- The last option, with its value if that has come, while the
  value is not checked. -/
  pending : Option (Flag × Option (List Char))
  onlyValues : Bool

namespace Reading

def start : Reading := ⟨.standard, [], none, false⟩

/-- Reads a number that an option of 32 bits takes. -/
def number (flag : Flag) (value : List Char) : Except Stop UInt32 :=
  match readSigned value with
  | .error cause =>
      .error (.refused (.invalidValue (String.ofList value) flag cause.message))
  | .ok number =>
      if 0 ≤ number ∧ number < wordBound then .ok (UInt32.ofNat number.toNat)
      else
        .error (.refused (.invalidValue (String.ofList value) flag
          (String.ofList (signedDecimal number)
            ++ " is not in 0..=4294967295")))

def withValue (options : Options) (flag : Flag) (value : List Char) :
    Except Stop Options :=
  match flag with
  | .target => .ok { options with target := some (String.ofList value) }
  | .address =>
      match Address.parse? value with
      | some address => .ok { options with address := some address }
      | none =>
          .error (.refused (.invalidValue (String.ofList value) .address
            ("invalid address: " ++ String.ofList value)))
  | .nameOffset =>
      (number .nameOffset value).map fun nameOffset =>
        { options with dialect := { options.dialect with nameOffset } }
  | .maxSlots =>
      (number .maxSlots value).map fun maxSlots =>
        { options with dialect := { options.dialect with maxSlots } }
  | .tag =>
      .ok { options with
        dialect := { options.dialect with tag := String.ofList value } }
  | .verbose => .ok options
  | .help => .ok options
  | .version => .ok options

/-- Gives an option its value, which it may have only once. -/
def store (reading : Reading) (flag : Flag) (value : List Char) :
    Except Stop Reading :=
  if flag ∈ reading.given then .error (.refused (.repeated flag))
  else
    (withValue reading.options flag value).map fun options =>
      { reading with options, given := flag :: reading.given }

def settle (reading : Reading) : Except Stop Reading :=
  match reading.pending with
  | none => .ok reading
  | some (flag, none) => .error (.refused (.valueRequired flag))
  | some (flag, some value) => { reading with pending := none }.store flag value

def activate (reading : Reading) (flag : Flag) : Except Stop Reading :=
  match reading.settle with
  | .error stop => .error stop
  | .ok reading =>
      match flag with
      | .help => .error .help
      | .version => .error .version
      | _ => .ok reading

/-- An option that takes a value, which may stand in the same argument. -/
def expect (reading : Reading) (flag : Flag) (attached : Option (List Char)) :
    Except Stop Reading :=
  match reading.settle with
  | .error stop => .error stop
  | .ok reading =>
      match attached with
      | some value => reading.store flag value
      | none => .ok { reading with pending := some (flag, none) }

/-- What stands behind a letter in the same argument, less an equals
sign in front. -/
def attachedValue? : List Char → Option (List Char)
  | [] => none
  | '=' :: value => some value
  | value => some value

def letters (reading : Reading) : List Char → Except Stop Reading
  | [] => .ok reading
  | letter :: rest =>
      match Flag.ofLetter? letter with
      | none => .error (.refused (.unexpected (String.ofList ['-', letter])))
      | some flag =>
          if flag.takesValue then reading.expect flag (attachedValue? rest)
          else
            match reading.activate flag with
            | .error stop => .error stop
            | .ok reading => letters reading rest

/-- Reads what stands behind two dashes: a name and, after an equals
sign, a value. -/
def longName (reading : Reading) (text : List Char) : Except Stop Reading :=
  let name := String.ofList (text.takeWhile (· ≠ '='))
  let attached := match text.dropWhile (· ≠ '=') with
    | _ :: value => some value
    | [] => none
  match Flag.ofName? name with
  | none => .error (.refused (.unexpected ("--" ++ name)))
  | some flag =>
      if flag.takesValue then reading.expect flag attached
      else
        match attached with
        | some value =>
            .error (.refused (.unneededValue (String.ofList value) flag))
        | none => reading.activate flag

/-- Reads an argument that is no option: the value that is waited for,
if there is one. -/
def plain (reading : Reading) (argument : List Char) : Except Stop Reading :=
  match reading.pending with
  | some (flag, none) =>
      .ok { reading with pending := some (flag, some argument) }
  | _ => .error (.refused (.unexpected (String.ofList argument)))

def step (reading : Reading) (argument : List Char) : Except Stop Reading :=
  if reading.onlyValues then
    .error (.refused (.unexpected (String.ofList argument)))
  else
    match argument with
    | ['-', '-'] => .ok { reading with onlyValues := true }
    | '-' :: '-' :: text => reading.longName text
    | '-' :: letter :: rest => reading.letters (letter :: rest)
    | _ => reading.plain argument

def all (reading : Reading) : List String → Except Stop Reading
  | [] => reading.settle
  | argument :: rest =>
      match reading.step argument.toList with
      | .error stop => .error stop
      | .ok reading => reading.all rest

end Reading

def Options.parse (arguments : List String) : Except Stop Options :=
  (Reading.start.all arguments).map Reading.options

end CommandLine

end DelphiRtti
