import DelphiRtti.Address

/-!
# Addresses as numbers

An address is its number, which is below 2^32, and places in a row are multiples
of a size away from the first one, around the end of the address space too.
-/

namespace DelphiRtti

open Text

namespace Address

theorem toNat_ofNat_of_lt {value : Nat} (small : value < wordBound) :
    (ofNat value).toNat = value :=
  UInt32.toNat_ofNat_of_lt small

theorem ofNat_toNat (address : Address) : ofNat address.toNat = address :=
  toNat_injective (toNat_ofNat_of_lt address.toNat_lt)

/-- Neither the product nor the sum needs to fit in 32 bits. -/
theorem add_multiple (base : Address) (number size : Nat) :
    base + UInt32.ofNat number * UInt32.ofNat size
      = .ofNat (base.toNat + size * number) := by
  apply toNat_injective
  rw [toNat_add]
  have step : (UInt32.ofNat number * UInt32.ofNat size).toNat
      = (size * number) % wordBound := by
    rw [UInt32.toNat_mul, UInt32.toNat_ofNat', UInt32.toNat_ofNat',
      ← Nat.mul_mod, Nat.mul_comm]
    rfl
  rw [step]
  simp only [ofNat, toNat, UInt32.toNat_ofNat', wordBound]
  omega

end Address

end DelphiRtti
