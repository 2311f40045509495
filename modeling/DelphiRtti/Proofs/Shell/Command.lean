import DelphiRtti.Proofs.Text.Blank
import DelphiRtti.Shell.Command

/-!
# How command lines are read

A command line is a word and an argument behind the first space.  Blanks
around the line and around the argument do not count, whatever blanks they
are, and an argument of blanks alone is none.  What stands inside of the
argument is kept as it is.
-/

namespace DelphiRtti

open Text

/-- An address is read from what trimming leaves. -/
theorem Address.parse?_congr {text other : List Char}
    (same : trim text = trim other) : parse? text = parse? other := by
  simp only [parse?, same]

namespace Shell

namespace Command

variable {word text inner before after : List Char} {name : String}

def openers : List String := ["o", "open", "load"]

def seekers : List String := ["s", "seek"]

def rebuilders : List String := ["pc", "class"]

def listers : List String := ["fns", "functions"]

/-- All words that name a command. -/
def vocabulary : List String :=
  openers ++ seekers ++ rebuilders ++ listers
    ++ ["x", "ns", "classes", "types", "pt", "i", "info", "help", "?", "quit",
      "exit", "q"]

theorem isWord_of_listed (listed : name ∈ vocabulary) : IsWord name.toList := by
  have all : vocabulary.all (fun name => !name.toList.isEmpty
      && name.toList.all fun character => !isBlank character)
      = true := by decide
  have both := List.all_eq_true.1 all name listed
  simp only [Bool.and_eq_true, Bool.not_eq_true', List.isEmpty_eq_false_iff,
    List.all_eq_true] at both
  exact ⟨both.1, both.2⟩

theorem ofWord_congr (listed : name ∈ vocabulary)
    (argument : Option (List Char)) (line other : List Char) :
    ofWord name argument line = ofWord name argument other := by
  unfold ofWord
  split
  -- Only the last case looks at the line, and there the word is none of those
  -- that are listed.
  case h_22 => simp_all [vocabulary, openers, seekers, rebuilders, listers]
  all_goals rfl

theorem ofWord_of_unlisted (unlisted : name ∉ vocabulary)
    (argument : Option (List Char)) (line : List Char) :
    ofWord name argument line = .unknown (String.ofList line) := by
  simp only [vocabulary, openers, seekers, rebuilders,
    listers, List.cons_append, List.nil_append, List.mem_cons, List.not_mem_nil,
    or_false, not_or] at unlisted
  simp [ofWord, unlisted]

theorem ofWord_of_seeker (line : List Char) :
    ∀ name ∈ seekers, ofWord name none line
      = .unknown "seek requires an address" := by
  simp [seekers, ofWord]

private theorem ne_space_of_unbroken
    (unbroken : ∀ character ∈ text, isBlank character = false) :
    ∀ character ∈ text, decide (character ≠ ' ') = true := by
  intro character member
  apply decide_eq_true
  rintro rfl
  have white : isBlank ' ' = true := by decide
  simp [unbroken _ member] at white

theorem argument?_of_trims (trims : Trims text inner) (nonempty : inner ≠ []) :
    argument? (' ' :: text) = some inner := by
  have space : ∀ character ∈ [' '], isBlank character = true := by
    simp [isBlank]
  have trimmed : trim (' ' :: text) = inner :=
    (trim_append_of_blank space text).trans trims.trim_eq
  obtain ⟨first, rest, rfl⟩ := List.exists_cons_of_ne_nil nonempty
  simp [argument?, trimmed]

/-- A trimmed line that goes on with a space behind a word is split there. -/
theorem parse_of_trim (isWord : IsWord word)
    (trimmed : trim text = word ++ after)
    (spaced : ∀ first ∈ after.head?, first = ' ') :
    parse text = ofWord (String.ofList word) (argument? after) (trim text) := by
  have noSpace := ne_space_of_unbroken isWord.unbroken
  have stops : after.takeWhile (· ≠ ' ') = []
      ∧ after.dropWhile (· ≠ ' ') = after := by
    cases after with
    | nil => simp
    | cons first rest =>
        obtain rfl := spaced first rfl
        simp
  have front : (trim text).takeWhile (· ≠ ' ') = word := by
    rw [trimmed, List.takeWhile_append_of_pos noSpace, stops.1, List.append_nil]
  have back : argument? (trim text) = argument? after := by
    rw [argument?, argument?, trimmed, List.dropWhile_append_of_pos noSpace]
  rw [parse, front, back]

theorem parse_word (isWord : IsWord word)
    (blankAfter : ∀ character ∈ after, isBlank character = true) :
    parse (word ++ after) = ofWord (String.ofList word) none word := by
  have noBlanks : ∀ character ∈ ([] : List Char),
      isBlank character = true := by simp
  have trimmed : trim (word ++ after) = word ++ [] := by
    simpa using trim_enclosed noBlanks blankAfter isWord.unbroken
  rw [parse_of_trim isWord trimmed (by simp), trimmed, List.append_nil]
  rfl

theorem parse_word_alone (isWord : IsWord word) :
    parse word = ofWord (String.ofList word) none word := by
  have noBlanks : ∀ character ∈ ([] : List Char),
      isBlank character = true := by simp
  simpa using parse_word isWord noBlanks

/-- The argument of a line is what trimming leaves of the text behind
the word. -/
theorem parse_word_argument (isWord : IsWord word) (trims : Trims text inner)
    (nonempty : inner ≠ []) :
    ∃ line, parse (word ++ ' ' :: text)
      = ofWord (String.ofList word) (some inner) line := by
  obtain ⟨⟨before, after, rfl, blankBefore, blankAfter⟩, starts, ends⟩ := trims
  have trimmed : trim (word ++ ' ' :: (before ++ inner ++ after))
      = word ++ ' ' :: (before ++ inner) := by
    apply Trims.trim_eq
    refine ⟨⟨[], after, by simp, by simp, blankAfter⟩, ?_, ?_⟩
    · obtain ⟨first, rest, rfl⟩ := List.exists_cons_of_ne_nil isWord.nonempty
      simpa using isWord.unbroken first List.mem_cons_self
    · rw [← List.cons_append, ← List.append_assoc,
        List.getLast?_append_of_ne_nil _ nonempty]
      exact ends
  have front : Trims (before ++ inner) inner :=
    ⟨⟨before, [], by simp, blankBefore, by simp⟩, starts, ends⟩
  exact ⟨_, by rw [parse_of_trim isWord trimmed
    (by simp), argument?_of_trims front nonempty]⟩

/-- What a word and an argument come to: text is carried as it is, and a place
only if it can be read as an address. -/
structure Carries (name : String) (argument : List Char)
    (command : Command) : Prop where
  path : name ∈ openers → command = .openFile (String.ofList argument)
  scope : name ∈ listers → command = .functions (some (String.ofList argument))
  typeName : name = "pt" → command = .printType (String.ofList argument)
  sought : ∀ address, name ∈ seekers → Address.parse? argument = some address →
    command = .seek address
  rebuilt : ∀ address, name ∈ rebuilders →
    Address.parse? argument = some address →
    command = .rebuildClass (some address)
  noPlace : name ∈ seekers ∨ name ∈ rebuilders →
    Address.parse? argument = none →
    command = .unknown "Invalid address"

theorem carries_ofWord (name : String) (argument line : List Char) :
    Carries name argument (ofWord name (some argument) line) := by
  constructor
  · revert name
    simp [openers, ofWord]
  · revert name
    simp [listers, ofWord]
  · revert name
    simp [ofWord]
  · intro address
    revert name
    simp +contextual [seekers, ofWord]
  · intro address
    revert name
    simp +contextual [rebuilders, ofWord]
  · revert name
    simp +contextual [seekers, rebuilders, ofWord, or_imp]

/-- Blanks around a line do not change its command.  Behind a word that names a
command, an argument gives the same command as its trimmed form, which is
carried as it is where the command takes text, and an argument that is no
address moves nothing and rebuilds nothing.  An argument of blanks alone is
none.  Every other line is unknown as a whole. -/
theorem command_read_through_blanks :
    (∀ before text after : List Char,
      (∀ character ∈ before, isBlank character = true) →
        (∀ character ∈ after, isBlank character = true) →
          parse (before ++ text ++ after) = parse text)
      ∧ (∀ name ∈ vocabulary, ∀ padding argument inner : List Char,
        (∀ character ∈ padding, isBlank character = true) →
          Trims argument inner → inner ≠ [] →
        parse (name.toList ++ ' ' :: (padding ++ argument))
          = parse (name.toList ++ ' ' :: inner)
          ∧ Address.parse? argument = Address.parse? inner
          ∧ Carries name inner
            (parse (name.toList ++ ' ' :: (padding ++ argument))))
      ∧ (∀ name ∈ vocabulary, ∀ padding : List Char,
        (∀ character ∈ padding, isBlank character = true) →
        parse (name.toList ++ ' ' :: padding) = parse name.toList
          ∧ (name ∈ seekers →
            parse name.toList = .unknown "seek requires an address"))
      ∧ ∀ text, String.ofList ((trim text).takeWhile (· ≠ ' ')) ∉ vocabulary →
        parse text = .unknown (String.ofList (trim text)) := by
  refine ⟨?_, ?_, ?_, ?_⟩
  · intro before text after blankBefore blankAfter
    simp only [parse, trim_surrounded blankBefore blankAfter]
  · intro name listed padding argument inner blankPadding trims nonempty
    have isWord := isWord_of_listed listed
    have padded : Trims (padding ++ argument) inner :=
      trim_eq_iff.1
        ((trim_append_of_blank blankPadding argument).trans trims.trim_eq)
    obtain ⟨line, read⟩ := parse_word_argument isWord padded nonempty
    obtain ⟨other, readAlone⟩ :=
      parse_word_argument isWord trims.itself nonempty
    rw [read, readAlone, String.ofList_toList]
    refine ⟨ofWord_congr listed _ line other, ?_,
      carries_ofWord name inner line⟩
    apply Address.parse?_congr
    rw [trims.trim_eq, trims.itself.trim_eq]
  · intro name listed padding blankPadding
    have isWord := isWord_of_listed listed
    have blanks : ∀ character ∈ ' ' :: padding, isBlank character = true := by
      simpa [isBlank] using blankPadding
    have absent := parse_word isWord blanks
    have bare := parse_word_alone isWord
    refine ⟨absent.trans bare.symm, ?_⟩
    intro seeks
    rw [bare, String.ofList_toList]
    exact ofWord_of_seeker name.toList name seeks
  · intro text unlisted
    exact ofWord_of_unlisted unlisted _ _

/-- A path with a space inside, between a tab, a space and a space that does not
break; and a place that is no address. -/
theorem command_read_through_blanks_around_path :
    (∀ character ∈ ['\t'], isBlank character = true)
      ∧ Trims " my unit.exe\u00a0".toList "my unit.exe".toList
      ∧ parse ("open".toList ++ ' ' :: (['\t'] ++ " my unit.exe\u00a0".toList))
        = .openFile "my unit.exe"
      ∧ Address.parse? "zz".toList = none
      ∧ parse ("seek".toList ++ ' ' :: (['\t'] ++ "zz".toList))
        = .unknown "Invalid address"
      ∧ parse ("pc".toList ++ ' ' :: ['\t']) = parse "pc".toList := by
  have padding : ∀ character ∈ ['\t'], isBlank character = true :=
    List.all_eq_true.1 (by decide)
  have path : Trims " my unit.exe\u00a0".toList "my unit.exe".toList :=
    trim_eq_iff.1 (by decide)
  have place : Trims "zz".toList "zz".toList := trim_eq_iff.1 (by decide)
  have refused : Address.parse? "zz".toList = none := by decide
  obtain ⟨-, argument, absent, -⟩ := command_read_through_blanks
  obtain ⟨-, -, opened⟩ :=
    argument "open" (by decide) ['\t'] _ _ padding path (by decide)
  obtain ⟨-, -, moved⟩ :=
    argument "seek" (by decide) ['\t'] _ _ padding place (by decide)
  refine ⟨padding, path, ?_, refused,
    moved.noPlace (.inl (by decide)) refused, ?_⟩
  · simpa using opened.path (by decide)
  · exact (absent "pc" (by decide) ['\t'] padding).1

end Command

end Shell

end DelphiRtti
