import DelphiRtti.Text.Blank

/-!
# Wrapped text

Words are put on lines greedily: a word starts a new line when the line before
it would become wider than the width.  Widths count the bytes of the UTF-8 form.
-/

namespace DelphiRtti.Text

/-- The number of bytes in the UTF-8 form of a text. -/
def byteLength : List Char → Nat
  | [] => 0
  | character :: rest => character.utf8Size + byteLength rest

def fillLines (width : Nat) (line : List Char) :
    List (List Char) → List (List Char)
  | [] => [line]
  | word :: rest =>
      if width < byteLength line + 1 + byteLength word then
        line :: fillLines width word rest
      else
        fillLines width (line ++ ' ' :: word) rest

/-- The lines of a text that is wrapped at `width`; a text without
words has none. -/
def wrap (width : Nat) (text : List Char) : List (List Char) :=
  match words text with
  | [] => []
  | word :: rest => fillLines width word rest

end DelphiRtti.Text
