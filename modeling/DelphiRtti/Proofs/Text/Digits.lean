import Mathlib.Data.Nat.Digits.Lemmas
import DelphiRtti.Text.Digits

/-!
# Numerals

A numeral is a row of one or more digits, and the number it writes is the
sum of the digits times the powers of the base.  Reading gives exactly this
number, if it is in bounds, and every way of writing a number in base
sixteen is a numeral for it.
-/

namespace DelphiRtti.Text

variable {base bound value before count : Nat} {character : Char}
  {text : List Char} {write : Nat → Char}

/-- The digits up to base sixteen with small letters. -/
def smallDigits : List Char :=
  ['0', '1', '2', '3', '4', '5', '6', '7', '8', '9', 'a', 'b', 'c',
    'd', 'e', 'f']

/-- The digits up to base sixteen with capital letters. -/
def capitalDigits : List Char :=
  ['0', '1', '2', '3', '4', '5', '6', '7', '8', '9', 'A', 'B', 'C',
    'D', 'E', 'F']

/-- Whether a character is the digit for a value in a base. -/
def IsDigit (base : Nat) (character : Char) (value : Nat) : Prop :=
  value < base ∧ (smallDigits[value]? = some character
    ∨ capitalDigits[value]? = some character)

theorem getElem?_smallDigits (small : value < 16) :
    smallDigits[value]? = some (digit value) := by
  have listed : ∀ value : Fin 16,
      smallDigits[value.val]? = some (digit value) := by decide
  exact listed ⟨value, small⟩

theorem getElem?_capitalDigits (small : value < 16) :
    capitalDigits[value]? = some (capitalDigit value) := by
  have listed : ∀ value : Fin 16,
      capitalDigits[value.val]? = some (capitalDigit value) := by decide
  exact listed ⟨value, small⟩

theorem isDigit_digit (small : value < 16) : IsDigit 16 (digit value) value :=
  ⟨small, .inl (getElem?_smallDigits small)⟩

theorem isDigit_capitalDigit (small : value < 16) :
    IsDigit 16 (capitalDigit value) value :=
  ⟨small, .inr (getElem?_capitalDigits small)⟩

private theorem toNat_digit (small : value < 16) :
    (digit value).toNat
      = if value < 10 then 0x30 + value else 0x61 + (value - 10) := by
  have codes : ∀ value : Fin 16,
      (digit value).toNat = if value.val < 10 then 0x30 + value.val else
        0x61 + (value.val - 10) := by decide
  exact codes ⟨value, small⟩

private theorem toNat_capitalDigit (small : value < 16) :
    (capitalDigit value).toNat
      = if value < 10 then 0x30 + value else 0x41 + (value - 10) := by
  have codes : ∀ value : Fin 16,
      (capitalDigit value).toNat = if value.val < 10 then 0x30 + value.val else
        0x41 + (value.val - 10) := by
    decide
  exact codes ⟨value, small⟩

theorem isDigit_iff (fits : base ≤ 16) :
    IsDigit base character value
      ↔ value < base
        ∧ (digit value = character ∨ capitalDigit value = character) := by
  constructor
  · rintro ⟨small, listed⟩
    rw [getElem?_smallDigits (by omega),
      getElem?_capitalDigits (by omega)] at listed
    simpa using And.intro small listed
  · rintro ⟨small, written⟩
    refine ⟨small, ?_⟩
    rw [getElem?_smallDigits (by omega), getElem?_capitalDigits (by omega)]
    simpa using written

theorem digitValue_eq_some_iff (fits : base ≤ 16) :
    digitValue base character = some value ↔ IsDigit base character value := by
  have codes : digitValue base character = some value ↔ value < base
      ∧ (character.toNat = (if value < 10 then 0x30 + value else
        0x61 + (value - 10))
        ∨ character.toNat = (if value < 10 then 0x30 + value else
          0x41 + (value - 10))) := by
    simp only [digitValue, Option.ite_none_right_eq_some, Option.some.injEq,
      Bool.and_eq_true, decide_eq_true_eq]
    split_ifs <;> omega
  rw [codes, isDigit_iff fits]
  apply and_congr_right
  intro small
  rw [← toNat_digit (by omega), ← toNat_capitalDigit (by omega), Char.toNat_inj,
    Char.toNat_inj, eq_comm, @eq_comm _ character]

theorem IsDigit.mem (isDigit : IsDigit base character value) :
    character ∈ smallDigits ++ capitalDigits := by
  rcases isDigit.2 with small | capital
  · exact List.mem_append_left _ (List.mem_of_getElem? small)
  · exact List.mem_append_right _ (List.mem_of_getElem? capital)

/-- A plus sign is no digit, so it is a sign or does not belong to a number. -/
theorem plus_notMem_digits : '+' ∉ smallDigits ++ capitalDigits := by
  decide

/-- Whether a text is a row of one or more digits that writes a number
in a base. -/
def Numeral (base : Nat) (text : List Char) (value : Nat) : Prop :=
  text ≠ [] ∧ ∃ digits, List.Forall₂ (IsDigit base) text digits
    ∧ Nat.ofDigits base digits.reverse = value

/-- Whether a text is a numeral that may have a plus sign in front. -/
def SignedNumeral (base : Nat) (text : List Char) (value : Nat) : Prop :=
  Numeral base text value ∨ ∃ unsigned, text = '+' :: unsigned
    ∧ Numeral base unsigned value

private theorem digitsValueFrom_cons_eq_some_iff (fits : base ≤ 16) :
    digitsValueFrom base before (character :: text) = some value
      ↔ ∃ first, IsDigit base character first
        ∧ digitsValueFrom base (before * base + first) text = some value := by
  simp only [digitsValueFrom, ← digitValue_eq_some_iff fits]
  cases digitValue base character with
  | none => simp
  | some first => simp

private theorem digitsValueFrom_eq_some_iff (fits : base ≤ 16) :
    digitsValueFrom base before text = some value ↔ ∃ digits,
      List.Forall₂ (IsDigit base) text digits
      ∧ before * base ^ digits.length + Nat.ofDigits base digits.reverse
        = value := by
  induction text generalizing before with
  | nil => simp [digitsValueFrom]
  | cons character rest induction =>
      have place : ∀ (first : Nat) (digits : List Nat),
          before * base ^ (first :: digits).length
            + Nat.ofDigits base (first :: digits).reverse
            = (before * base + first) * base ^ digits.length
              + Nat.ofDigits base digits.reverse := by
        intro first digits
        rw [List.reverse_cons, Nat.ofDigits_append, Nat.ofDigits_singleton,
          List.length_reverse, List.length_cons]
        ring
      rw [digitsValueFrom_cons_eq_some_iff fits]
      constructor
      · rintro ⟨first, isDigit, read⟩
        obtain ⟨digits, areDigits, same⟩ := induction.1 read
        exact ⟨first :: digits, .cons isDigit areDigits,
          (place first digits).trans same⟩
      · rintro ⟨digits, areDigits, same⟩
        cases areDigits with
        | cons isDigit areDigits =>
            rw [place] at same
            exact ⟨_, isDigit, induction.2 ⟨_, areDigits, same⟩⟩

theorem digitsValue_eq_some_iff (fits : base ≤ 16) :
    digitsValue base text = some value ↔ Numeral base text value := by
  cases text with
  | nil => simp [digitsValue, Numeral]
  | cons character rest =>
      simp [digitsValue, Numeral, digitsValueFrom_eq_some_iff fits]

theorem Numeral.isDigit (numeral : Numeral base text value) :
    ∀ character ∈ text, ∃ value, IsDigit base character value := by
  obtain ⟨-, digits, areDigits, -⟩ := numeral
  have valued := areDigits.imp
    fun character value (isDigit : IsDigit base character value) =>
    And.intro (Exists.intro value isDigit) isDigit
  exact ((List.forall₂_and_left _ _).1 valued).1

theorem Numeral.mem (numeral : Numeral base text value) :
    ∀ character ∈ text, character ∈ smallDigits ++ capitalDigits := by
  intro character member
  obtain ⟨_, isDigit⟩ := numeral.isDigit character member
  exact isDigit.mem

private theorem readNumber_plus (unsigned : List Char) :
    readNumber base bound ('+' :: unsigned)
      = (digitsValue base unsigned).filter
        (fun value => decide (value < bound)) := by
  simp only [readNumber]
  cases digitsValue base unsigned with
  | none => rfl
  | some value => simp [Option.filter]

private theorem readNumber_of_unsigned (unsigned : ∀ rest, text ≠ '+' :: rest) :
    readNumber base bound text
      = (digitsValue base text).filter fun value => decide (value < bound) := by
  simp only [readNumber]
  cases digitsValue base text with
  | none => rfl
  | some value => simp [Option.filter]

theorem readNumber_eq_some_iff (fits : base ≤ 16) :
    readNumber base bound text = some value
      ↔ value < bound ∧ SignedNumeral base text value := by
  have bounded : ∀ digits, (digitsValue base digits).filter
      (fun value => decide (value < bound)) = some value
      ↔ value < bound ∧ Numeral base digits value := by
    intro digits
    rw [Option.filter_eq_some_iff, digitsValue_eq_some_iff fits,
      decide_eq_true_iff, and_comm]
  by_cases signed : ∃ rest, text = '+' :: rest
  · obtain ⟨rest, rfl⟩ := signed
    have noDigit : ¬ Numeral base ('+' :: rest) value :=
      fun numeral => plus_notMem_digits (numeral.mem '+' List.mem_cons_self)
    rw [readNumber_plus, bounded]
    simp [SignedNumeral, noDigit]
  · have unsigned : ∀ rest, text ≠ '+' :: rest :=
      fun rest same => signed ⟨rest, same⟩
    rw [readNumber_of_unsigned unsigned, bounded]
    simp [SignedNumeral, unsigned]

theorem SignedNumeral.eq_of_signedNumeral
    {other : Nat} (fits : base ≤ 16) (number : SignedNumeral base text value)
    (same : SignedNumeral base text other) : value = other := by
  -- A text writes only one number, for it is read as one.
  have read : readNumber base (value + other + 1) text = some value :=
    (readNumber_eq_some_iff fits).2 ⟨by omega, number⟩
  have readOther : readNumber base (value + other + 1) text = some other :=
    (readNumber_eq_some_iff fits).2 ⟨by omega, same⟩
  exact Option.some.inj (read.symm.trans readOther)

theorem Numeral.single (isDigit : IsDigit base character value) :
    Numeral base [character] value :=
  ⟨List.cons_ne_nil _ _, [value], .cons isDigit .nil, by simp⟩

theorem Numeral.concat {last : Nat} (numeral : Numeral base text value)
    (isDigit : IsDigit base character last) :
    Numeral base (text ++ [character]) (value * base + last) := by
  obtain ⟨nonempty, digits, areDigits, same⟩ := numeral
  refine ⟨by
    simp, digits ++ [last], List.rel_append areDigits (.cons isDigit .nil), ?_⟩
  rw [List.reverse_append, List.reverse_singleton, List.singleton_append,
    Nat.ofDigits_cons, same]
  ring

/-- Zeros in front do not change the number. -/
theorem Numeral.zeros (positive : 0 < base) (numeral : Numeral base text value)
    (count : Nat) : Numeral base (List.replicate count '0' ++ text) value := by
  induction count with
  | zero => exact numeral
  | succ count induction =>
      obtain ⟨_, digits, areDigits, same⟩ := induction
      have zero : IsDigit base '0' 0 := ⟨positive, .inl rfl⟩
      refine ⟨List.cons_ne_nil _ _, 0 :: digits, .cons zero areDigits, ?_⟩
      rw [List.reverse_cons, Nat.ofDigits_append, Nat.ofDigits_singleton,
        Nat.mul_zero, Nat.add_zero, same]

/-- The last places of a number, with digits for all values below sixteen, write
what is left of the number. -/
theorem numeral_hexDigits
    (writes : ∀ value < 16, IsDigit 16 (write value) value)
    (count value : Nat) :
    Numeral 16 (hexDigits write (count + 1) value)
      (value % 16 ^ (count + 1)) := by
  induction count generalizing value with
  | zero => simpa [hexDigits] using Numeral.single (writes (value % 16)
    (Nat.mod_lt _ (by decide)))
  | succ count induction =>
      have last := writes (value % 16) (Nat.mod_lt _ (by decide))
      have split : value % 16 ^ (count + 1 + 1) = value / 16 % 16 ^ (count + 1)
          * 16 + value % 16 := by
        rw [Nat.pow_succ', Nat.mod_mul]
        ring
      rw [split, hexDigits]
      exact (induction (value / 16)).concat last

theorem numeral_shortestHex (value : Nat) :
    Numeral 16 (shortestHex value) value := by
  induction value using shortestHex.induct with
  | case1 value small =>
      rw [shortestHex, if_pos small]
      exact .single (isDigit_digit small)
  | case2 value large induction =>
      have last := isDigit_digit (Nat.mod_lt value (by decide : 0 < 16))
      have split := Nat.div_add_mod' value 16
      rw [shortestHex, if_neg large]
      simpa only [split] using induction.concat last

/-- Whether a text writes a number with a count of digits in base sixteen, all
of them with small letters. -/
structure WritesHex (count : Nat) (text : List Char) (value : Nat) : Prop where
  length : text.length = count
  small : ∀ character ∈ text, character ∈ smallDigits
  number : Numeral 16 text value

private theorem small_of_mem_hexDigits
    (member : character ∈ hexDigits digit count value) :
    character ∈ smallDigits := by
  induction count generalizing value with
  | zero => cases member
  | succ count induction =>
      rcases List.mem_append.1 member with front | last
      · exact induction front
      · rw [List.mem_singleton.1 last]
        exact List.mem_of_getElem?
          (getElem?_smallDigits (Nat.mod_lt _ (by decide)))

theorem writesHex_hexDigits (count : Nat) (small : value < 16 ^ (count + 1)) :
    WritesHex (count + 1) (hexDigits digit (count + 1) value) value := by
  have number := numeral_hexDigits (fun _ => isDigit_digit) count value
  rw [Nat.mod_eq_of_lt small] at number
  exact ⟨length_hexDigits _ _ _,
    fun _ member => small_of_mem_hexDigits member, number⟩

end DelphiRtti.Text
