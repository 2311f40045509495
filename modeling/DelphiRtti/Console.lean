import DelphiRtti.Text.Wrapped
import DelphiRtti.Transcript

/-!
# The analyst's console

Scripts write tagged lines, and every line and popup is also left in the log.  A
terminal shows a popup as a box of wrapped lines.
-/

namespace DelphiRtti

namespace Console

def tagged (tag message : String) : String :=
  "[" ++ tag ++ "] " ++ message

def write (level : Level) (tag message : String) : Transcript :=
  [.logged ⟨level, tagged tag message⟩, .line (tagged tag message)]

def say (tag message : String) : Transcript := write .info tag message

def warn (tag message : String) : Transcript := write .warn tag message

/-- Shows a message; the log holds it behind the tag. -/
def popup (tag message : String) : Transcript :=
  [.logged ⟨.warn, tagged tag ("popup: " ++ message)⟩, .popup message]

def occurs (needle : List Char) : List Char → Bool
  | [] => needle.isEmpty
  | character :: rest =>
      needle.isPrefixOf (character :: rest) || occurs needle rest

def mentions (transcript : Transcript) (needle : String) : Bool :=
  transcript.lines.any fun line => occurs needle.toList line.toList

def popupWidth : Nat := 60

def popupTop : String := "┌─ Dhrake ─────────────────────────────"

def popupBottom : String := "└──────────────────────────────────────"

/-- The lines of the box in which a terminal shows a message. -/
def popupBox (message : String) : List String :=
  popupTop :: (Text.wrap popupWidth message.toList).map
    (fun line => "│ " ++ String.ofList line)
    ++ [popupBottom]

/-- What a terminal shows of a transcript, line by line. -/
def terminalLines (transcript : Transcript) : List String :=
  transcript.flatMap fun
    | .line text => [text]
    | .popup message => popupBox message
    | _ => []

end Console

end DelphiRtti
