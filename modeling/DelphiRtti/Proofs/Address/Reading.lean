import DelphiRtti.Proofs.Address.Arithmetic
import DelphiRtti.Proofs.Text.Blank
import DelphiRtti.Proofs.Text.Digits
import DelphiRtti.Shell.Command

/-!
# How addresses are read

A text between blanks denotes a number in one of three forms: hexadecimal after
a mark, hexadecimal by its digits alone if there are more than four, and
decimal otherwise.  An address is read from a text exactly if the text denotes
the number of the address.
-/

namespace DelphiRtti

open Text

namespace Address

variable {text inner digits : List Char} {value : Nat} {address : Address}

/-- The text starts with the mark of hexadecimal numbers, with a
letter of either case. -/
def Marked (text : List Char) : Prop :=
  ∃ letter digits, text = '0' :: letter :: digits
    ∧ (letter = 'x' ∨ letter = 'X')

/-- More than four characters, all of them hexadecimal digits. -/
def LooksHexadecimal (text : List Char) : Prop :=
  4 < text.length ∧ ∀ character ∈ text, ∃ value, IsDigit 16 character value

/-- What number a text without blanks around it denotes as an address. -/
inductive Denotes : List Char → Nat → Prop where
  | marked {letter : Char} {digits : List Char} {value : Nat}
      (mark : letter = 'x' ∨ letter = 'X')
      (number : SignedNumeral 16 digits value) :
      Denotes ('0' :: letter :: digits) value
  | hexadecimal {text : List Char} {value : Nat} (unmarked : ¬ Marked text)
      (looks : LooksHexadecimal text)
      (number : Numeral 16 text value) : Denotes text value
  | decimal {text : List Char} {value : Nat} (unmarked : ¬ Marked text)
      (other : ¬ LooksHexadecimal text)
      (number : SignedNumeral 10 text value) : Denotes text value

private theorem map_ofNat_eq_some_iff {base : Nat} (fits : base ≤ 16) :
    (readNumber base wordBound digits).map ofNat = some address
    ↔ SignedNumeral base digits address.toNat := by
  rw [Option.map_eq_some_iff]
  constructor
  · rintro ⟨value, read, rfl⟩
    obtain ⟨small, number⟩ := (readNumber_eq_some_iff fits).1 read
    rw [toNat_ofNat_of_lt small]
    exact number
  · intro number
    exact ⟨_, (readNumber_eq_some_iff fits).2 ⟨address.toNat_lt, number⟩,
      ofNat_toNat address⟩

theorem isHexDigit_iff {character : Char} :
    isHexDigit character = true ↔ ∃ value, IsDigit 16 character value := by
  simp only [isHexDigit, Option.isSome_iff_exists,
    digitValue_eq_some_iff (Nat.le_refl 16)]

theorem looksHexadecimal_iff :
    LooksHexadecimal text
      ↔ (text.all isHexDigit && 4 < text.length) = true := by
  simp only [LooksHexadecimal, Bool.and_eq_true, List.all_eq_true,
    isHexDigit_iff, decide_eq_true_iff, and_comm]

theorem LooksHexadecimal.signedNumeral_iff (looks : LooksHexadecimal text) :
    SignedNumeral 16 text value ↔ Numeral 16 text value := by
  constructor
  · intro signed
    rcases signed with number | ⟨unsigned, rfl, number⟩
    · exact number
    · obtain ⟨_, isDigit⟩ := looks.2 '+' List.mem_cons_self
      exact (plus_notMem_digits isDigit.mem).elim
  · exact fun number => .inl number

private theorem denotes_marked_iff
    {letter : Char} (mark : letter = 'x' ∨ letter = 'X') :
    Denotes ('0' :: letter :: digits) value
      ↔ SignedNumeral 16 digits value := by
  have marked : Marked ('0' :: letter :: digits) := ⟨letter, digits, rfl, mark⟩
  constructor
  · intro denotes
    cases denotes with
    | marked _ number => exact number
    | hexadecimal unmarked => exact (unmarked marked).elim
    | decimal unmarked => exact (unmarked marked).elim
  · exact fun number => .marked mark number

private theorem denotes_hexadecimal_iff (unmarked : ¬ Marked text)
    (looks : LooksHexadecimal text) :
    Denotes text value ↔ Numeral 16 text value := by
  constructor
  · intro denotes
    cases denotes with
    | marked mark => exact (unmarked ⟨_, _, rfl, mark⟩).elim
    | hexadecimal _ _ number => exact number
    | decimal _ other => exact (other looks).elim
  · exact fun number => .hexadecimal unmarked looks number

private theorem denotes_decimal_iff
    (unmarked : ¬ Marked text) (other : ¬ LooksHexadecimal text) :
    Denotes text value ↔ SignedNumeral 10 text value := by
  constructor
  · intro denotes
    cases denotes with
    | marked mark => exact (unmarked ⟨_, _, rfl, mark⟩).elim
    | hexadecimal _ looks => exact (other looks).elim
    | decimal _ _ number => exact number
  · exact fun number => .decimal unmarked other number

theorem Denotes.eq_of_denotes {other : Nat} (denotes : Denotes text value)
    (same : Denotes text other) : value = other := by
  cases denotes with
  | marked mark number =>
      exact number.eq_of_signedNumeral (by decide)
        ((denotes_marked_iff mark).1 same)
  | hexadecimal unmarked looks number =>
      have another := (denotes_hexadecimal_iff unmarked looks).1 same
      exact SignedNumeral.eq_of_signedNumeral (by decide) (.inl number)
        (.inl another)
  | decimal unmarked other number =>
      exact number.eq_of_signedNumeral (by decide)
        ((denotes_decimal_iff unmarked other).1 same)

private theorem parse?_of_marked
    {letter : Char} (mark : letter = 'x' ∨ letter = 'X')
    (trimmed : trim text = '0' :: letter :: digits) :
    parse? text = (readNumber 16 wordBound digits).map ofNat := by
  rcases mark with rfl | rfl
  · simp only [parse?, trimmed]
  · simp only [parse?, trimmed]

private theorem parse?_of_unmarked (unmarked : ¬ Marked (trim text)) :
    parse? text = (if (trim text).all isHexDigit && 4 < (trim text).length then
        readNumber 16 wordBound (trim text)
      else readNumber 10 wordBound (trim text)).map ofNat := by
  have small : ∀ digits, trim text ≠ '0' :: 'x' :: digits :=
    fun digits same => unmarked ⟨'x', digits, same, .inl rfl⟩
  have capital : ∀ digits, trim text ≠ '0' :: 'X' :: digits :=
    fun digits same => unmarked ⟨'X', digits, same, .inr rfl⟩
  simp only [parse?]

theorem parse?_eq_some_iff :
    parse? text = some address ↔ Denotes (trim text) address.toNat := by
  by_cases marked : Marked (trim text)
  · obtain ⟨letter, digits, trimmed, mark⟩ := marked
    rw [parse?_of_marked mark trimmed, trimmed, denotes_marked_iff mark,
      map_ofNat_eq_some_iff (by decide)]
  · rw [parse?_of_unmarked marked]
    by_cases looks : LooksHexadecimal (trim text)
    · rw [if_pos (looksHexadecimal_iff.1 looks),
        map_ofNat_eq_some_iff (by decide), looks.signedNumeral_iff,
        denotes_hexadecimal_iff marked looks]
    · rw [if_neg (mt looksHexadecimal_iff.2 looks),
        map_ofNat_eq_some_iff (by decide), denotes_decimal_iff marked looks]

theorem parse?_eq_none_iff :
    parse? text = none
      ↔ ∀ value, Denotes (trim text) value → wordBound ≤ value := by
  rw [Option.eq_none_iff_forall_ne_some]
  constructor
  · intro refused value denotes
    apply Nat.le_of_not_lt
    intro small
    apply refused (ofNat value)
    rw [parse?_eq_some_iff, toNat_ofNat_of_lt small]
    exact denotes
  · intro large address read
    exact Nat.not_le_of_lt address.toNat_lt
      (large _ (parse?_eq_some_iff.1 read))

/-- Of a text that denotes a number the address of that number is
read, if it has 32 bits. -/
theorem parse?_of_denotes (denotes : Denotes (trim text) value) :
    parse? text = if value < wordBound then some (ofNat value) else none := by
  split
  case isTrue small =>
      rw [parse?_eq_some_iff, toNat_ofNat_of_lt small]
      exact denotes
  case isFalse large =>
      rw [parse?_eq_none_iff]
      intro other same
      rw [← denotes.eq_of_denotes same]
      exact Nat.le_of_not_lt large

theorem unbroken_of_numeral (number : Numeral 16 digits value) :
    ∀ character ∈ digits, isBlank character = false := by
  have unbroken : (smallDigits ++ capitalDigits).all
      (fun character => !isBlank character) = true := by decide
  intro character member
  simpa using List.all_eq_true.1 unbroken character
    (number.mem character member)

theorem unbroken_marked (number : Numeral 16 digits value) :
    ∀ character ∈ '0' :: 'x' :: digits, isBlank character = false := by
  have mark : isBlank '0' = false ∧ isBlank 'x' = false := by decide
  simpa [mark] using unbroken_of_numeral number

/-- An address is read from a text exactly if what is left between the blanks of
the text denotes its number, and none is read exactly if no number of 32 bits is
denoted.  Zeros in front of the digits do not count, however many they are. -/
theorem parse?_reads_denoted :
    (∀ text address, parse? text = some address ↔ ∃ inner, Trims text inner
      ∧ Denotes inner address.toNat)
      ∧ (∀ text, parse? text = none ↔ ∀ inner value, Trims text inner →
        Denotes inner value → wordBound ≤ value)
      ∧ ∀ digits value, Numeral 16 digits value → ∀ count,
        parse? ('0' :: 'x' :: (List.replicate count '0' ++ digits))
          = if value < wordBound then some (ofNat value) else none := by
  refine ⟨?_, ?_, ?_⟩
  · intro text address
    rw [parse?_eq_some_iff]
    constructor
    · exact fun denotes => ⟨_, trims_trim text, denotes⟩
    · rintro ⟨inner, trims, denotes⟩
      rw [trims.trim_eq]
      exact denotes
  · intro text
    rw [parse?_eq_none_iff]
    constructor
    · intro large inner value trims denotes
      apply large
      rw [trims.trim_eq]
      exact denotes
    · exact fun large value denotes => large _ value (trims_trim text) denotes
  · intro digits value number count
    have padded := number.zeros (by decide) count
    apply parse?_of_denotes
    rw [trim_unbroken (unbroken_marked padded)]
    exact .marked (.inl rfl) (.inl padded)

/-- Four digits alone are decimal and five are hexadecimal, and three hundred
zeros after a mark do not count. -/
theorem parse?_reads_denoted_boundary :
    (∃ inner, Trims ['\t', '9', '9', '9', '9', ' '] inner ∧ Denotes inner 9999)
      ∧ (∃ inner, Trims ['1', '0', '0', '0', '0', '\n'] inner
        ∧ Denotes inner 65536)
      ∧ Numeral 16 ['4', '0', '1', '0', '0', '0'] 4198400
      ∧ parse? ('0' :: 'x'
        :: (List.replicate 300 '0' ++ ['4', '0', '1', '0', '0', '0']))
        = some (.ofNat 4198400) := by
  obtain ⟨accepts, -, zeros⟩ := parse?_reads_denoted
  have number : Numeral 16 ['4', '0', '1', '0', '0', '0'] 4198400 :=
    (digitsValue_eq_some_iff (Nat.le_refl 16)).1 rfl
  exact ⟨(accepts _ (.ofNat 9999)).1 rfl, (accepts _ (.ofNat 65536)).1 rfl,
    number, zeros _ _ number 300⟩

end Address

end DelphiRtti
