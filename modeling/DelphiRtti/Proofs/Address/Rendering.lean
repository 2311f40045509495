import DelphiRtti.MethodTable
import DelphiRtti.Proofs.Address.Reading

/-!
# How addresses are shown

Addresses are shown in six forms, all of them hexadecimal.  Those without a
mark have eight digits, so they are read as hexadecimal even if all of the
digits are decimal.  Every form is read as the address that it shows, so no two
addresses are shown alike.
-/

namespace DelphiRtti

open Text

namespace Address

/-- The forms in which addresses are shown: by eight digits of either
case, with a mark or without one, or with a mark by the fewest digits
or in twelve columns. -/
inductive Form where
  | plain
  | marked
  | capital
  | markedCapital
  | short
  | wide
deriving DecidableEq

def Form.write : Form → Address → String
  | .plain, address => address.render
  | .marked, address => "0x" ++ address.render
  | .capital, address => address.renderCapital
  | .markedCapital, address => "0x" ++ address.renderCapital
  | .short, address => address.renderMarked
  | .wide, address => address.renderWide

inductive Shows : List Char → Nat → Prop where
  | bare {digits : List Char} {value : Nat} (long : 4 < digits.length)
      (number : Numeral 16 digits value) :
      Shows digits value
  | marked {digits : List Char} {value : Nat}
      (number : Numeral 16 digits value) :
      Shows ('0' :: 'x' :: digits) value

variable {text before after : List Char} {value : Nat} {address : Address}

theorem unmarked_of_numeral (number : Numeral 16 text value) :
    ¬ Marked text := by
  rintro ⟨letter, digits, rfl, mark⟩
  have listed := number.mem letter (by simp)
  have noDigits : 'x' ∉ smallDigits ++ capitalDigits
      ∧ 'X' ∉ smallDigits ++ capitalDigits := by decide
  rcases mark with rfl | rfl
  · exact noDigits.1 listed
  · exact noDigits.2 listed

theorem Shows.denotes (shown : Shows text value) : Denotes text value := by
  cases shown with
  | bare long number =>
      have unmarked := unmarked_of_numeral number
      exact .hexadecimal unmarked ⟨long, number.isDigit⟩ number
  | marked number => exact .marked (.inl rfl) (.inl number)

theorem Shows.unbroken (shown : Shows text value) :
    ∀ character ∈ text, isBlank character = false := by
  cases shown with
  | bare long number => exact unbroken_of_numeral number
  | marked number => exact unbroken_marked number

/-- Eight digits hold every address, and more digits do so, too. -/
theorem numeral_hexDigits_toNat {write : Nat → Char}
    (writes : ∀ value < 16, IsDigit 16 (write value) value)
    (extra : Nat) (address : Address) :
    Numeral 16 (hexDigits write (7 + extra + 1) address.toNat)
      address.toNat := by
  have number := numeral_hexDigits writes (7 + extra) address.toNat
  have small : address.toNat < 16 ^ (7 + extra + 1) := by
    calc
      address.toNat < 16 ^ 8 := address.toNat_lt
      _ ≤ 16 ^ (7 + extra + 1) := Nat.pow_le_pow_right (by decide) (by omega)
  rw [Nat.mod_eq_of_lt small] at number
  exact number

theorem Form.shows_write (form : Form) (address : Address) :
    Shows (form.write address).toList address.toNat := by
  have small := numeral_hexDigits_toNat (fun _ => isDigit_digit)
  have capital := numeral_hexDigits_toNat (fun _ => isDigit_capitalDigit)
  cases form with
  | plain =>
      apply Shows.bare
      · simp [write, render, length_hexDigits]
      · simpa [write, render] using small 0 address
  | marked => simpa [write, render] using Shows.marked (small 0 address)
  | capital =>
      apply Shows.bare
      · simp [write, renderCapital, length_hexDigits]
      · simpa [write, renderCapital] using capital 0 address
  | markedCapital =>
      simpa [write, renderCapital] using Shows.marked (capital 0 address)
  | short => simpa [write, renderMarked,
    renderShort] using Shows.marked (numeral_shortestHex address.toNat)
  | wide => simpa [write, renderWide] using Shows.marked (capital 2 address)

theorem Shows.parse?_eq_some (shown : Shows text address.toNat) :
    parse? text = some address := by
  rw [parse?_eq_some_iff, trim_unbroken shown.unbroken]
  exact shown.denotes

theorem Shows.parse?_enclosed (shown : Shows text address.toNat)
    (blankBefore : ∀ character ∈ before, isBlank character = true)
    (blankAfter : ∀ character ∈ after, isBlank character = true) :
    parse? (before ++ text ++ after) = some address := by
  rw [parse?_eq_some_iff, trim_enclosed blankBefore blankAfter shown.unbroken]
  exact shown.denotes

/-- With any blanks around it, every form of an address is read as the address.
So two addresses are not shown alike, not even in different forms, and their
stubs have different names. -/
theorem written_address_reads_back :
    (∀ (form : Form) (address : Address) (before after : List Char),
        (∀ character ∈ before, isBlank character = true) →
          (∀ character ∈ after, isBlank character = true) →
        parse? (before ++ (form.write address).toList ++ after) = some address)
      ∧ (∀ (form other : Form) (left right : Address), form.write left
        = other.write right → left = right)
      ∧ ∀ left right, MethodTable.stubName left = MethodTable.stubName right →
        left = right := by
  have readBack : ∀ (form : Form) address,
      parse? (form.write address).toList = some address := by
    intro form address
    exact (form.shows_write address).parse?_eq_some
  have distinct : ∀ (form other : Form) left right,
      form.write left = other.write right → left = right := by
    intro form other left right same
    apply Option.some.inj
    rw [← readBack form left, same, readBack other right]
  refine ⟨?_, distinct, ?_⟩
  · exact fun form address before after =>
      (form.shows_write address).parse?_enclosed
  · intro left right same
    apply distinct .capital .capital
    simpa [MethodTable.stubName, Form.write] using same

/-- An address whose eight digits are all decimal is read back as hexadecimal
between a tab and a line end. -/
theorem written_address_reads_back_padded :
    (∀ character ∈ ['\t'], isBlank character = true)
      ∧ (∀ character ∈ ['\n'], isBlank character = true)
      ∧ (Form.plain.write (.ofNat 4198400)).toList
        = ['0', '0', '4', '0', '1', '0', '0', '0']
      ∧ parse? (['\t'] ++ (Form.plain.write (.ofNat 4198400)).toList ++ ['\n'])
        = some (.ofNat 4198400) := by
  have blankBefore : ∀ character ∈ ['\t'], isBlank character = true :=
    List.all_eq_true.1 (by decide)
  have blankAfter : ∀ character ∈ ['\n'], isBlank character = true :=
    List.all_eq_true.1 (by decide)
  refine ⟨blankBefore, blankAfter, ?_, ?_⟩
  · simp [Form.write, render, hexDigits, Address.toNat, ofNat, digit]
  · exact written_address_reads_back.1 .plain (.ofNat 4198400) ['\t']
      ['\n'] blankBefore blankAfter

end Address

end DelphiRtti
