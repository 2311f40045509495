import DelphiRtti.Address

/-!
# The prompt

The prompt names the loaded binary and the cursor.  The binary's name is the
last part of its path, after a slash of either kind.
-/

namespace DelphiRtti

namespace Shell

/-- The part of a path after its last slash or backslash. -/
def fileName (path : String) : String :=
  String.ofList (path.toList.reverse.takeWhile fun character =>
    character ≠ '/' && character ≠ '\\').reverse

namespace Prompt

/-- What stands for the binary when none is loaded. -/
def noBinary : String := "---"

def left (path : Option String) (cursor : Address) : String :=
  "[" ++ (path.map fileName).getD noBinary ++ ":0x" ++ cursor.render ++ "]"

def right : String := ""

def indicator : String := "> "

def continuation : String := "... "

def search (failing : Bool) (term : String) : String :=
  "(search: " ++ (if failing then "(failed) " else "") ++ term ++ ") "

end Prompt

end Shell

end DelphiRtti
