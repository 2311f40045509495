/-!
# Blank characters, trimming and words

A character is blank when it has Unicode's `White_Space` property.  Trimming
removes blanks from the two ends of a text, and the words of a text are its
maximal runs of other characters.
-/

namespace DelphiRtti.Text

/-- Unicode's `White_Space` property: twenty-five characters. -/
def isBlank (character : Char) : Bool :=
  let code := character.toNat
  (0x09 ≤ code && code ≤ 0x0d) || code == 0x20 || code == 0x85 || code == 0xa0
    || code == 0x1680
    || (0x2000 ≤ code && code ≤ 0x200a) || code == 0x2028 || code == 0x2029
      || code == 0x202f
    || code == 0x205f || code == 0x3000

def trimStart (text : List Char) : List Char :=
  text.dropWhile isBlank

def trimEnd (text : List Char) : List Char :=
  (text.reverse.dropWhile isBlank).reverse

def trim (text : List Char) : List Char :=
  trimEnd (trimStart text)

/-- The words of `text`, where `pending` holds, last character first, the
word that is being read. -/
def wordsFrom (pending : List Char) : List Char → List (List Char)
  | [] => if pending.isEmpty then [] else [pending.reverse]
  | character :: rest =>
      if isBlank character then
        if pending.isEmpty then wordsFrom [] rest else
          pending.reverse :: wordsFrom [] rest
      else
        wordsFrom (character :: pending) rest

/-- The maximal runs of characters that are not blank, in order. -/
def words (text : List Char) : List (List Char) :=
  wordsFrom [] text

theorem ne_nil_of_mem_wordsFrom (text : List Char) :
    ∀ pending word, word ∈ wordsFrom pending text → word ≠ [] := by
  induction text with
  | nil =>
      intro pending word member
      cases pending <;> simp_all [wordsFrom]
  | cons character rest induction =>
      intro pending word member
      simp only [wordsFrom] at member
      split at member
      · split at member
        · exact induction _ _ member
        · rcases List.mem_cons.1 member with rfl | later
          · cases pending <;> simp_all
          · exact induction _ _ later
      · exact induction _ _ member

theorem ne_nil_of_mem_words {text word : List Char}
    (member : word ∈ words text) : word ≠ [] :=
  ne_nil_of_mem_wordsFrom text [] word member

end DelphiRtti.Text
