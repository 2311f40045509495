import Mathlib.Algebra.Group.Nat.Defs
import DelphiRtti.Memory

/-!
# Bounded numbers

Some bytes write a number below a bound that depends on how many they are.
Places and sizes are counted in 64 bits:  a sum that needs more bits is refused
or cut down to the largest count, and a slice is refused where its places are
out of order or outside.
-/

namespace DelphiRtti

theorem littleEndian_lt (bytes : List UInt8) :
    littleEndian bytes < 256 ^ bytes.length := by
  induction bytes with
  | nil => exact Nat.one_pos
  | cons byte rest induction =>
      have small := byte.toNat_lt
      rw [littleEndian, List.length_cons, Nat.pow_succ]
      omega

def countBound : Nat := 2 ^ 64

/-- The sum of two counts, if it is a count: one that wrapped around is smaller
than what was added to. -/
def checkedSum (left right : UInt64) : Option UInt64 :=
  if left + right < left then none else some (left + right)

/-- The sum of two counts, or the largest count if it is none. -/
def saturatedSum (left right : UInt64) : UInt64 :=
  (checkedSum left right).getD (.ofNat (countBound - 1))

def sliceBetween? (bytes : Array UInt8) (start stop : Nat) :
    Option (Array UInt8) :=
  if start ≤ stop ∧ stop ≤ bytes.size then
    some (bytes.extract start stop) else none

variable {left right : UInt64}

theorem checkedSum_eq_some (small : left.toNat + right.toNat < countBound) :
    checkedSum left right = some (left + right)
      ∧ (left + right).toNat = left.toNat + right.toNat := by
  have whole : (left + right).toNat = left.toNat + right.toNat := by
    rw [UInt64.toNat_add]
    exact Nat.mod_eq_of_lt small
  refine ⟨if_neg ?_, whole⟩
  rw [UInt64.lt_iff_toNat_lt, whole]
  omega

theorem checkedSum_eq_none (large : countBound ≤ left.toNat + right.toNat) :
    checkedSum left right = none := by
  have leftSmall := left.toNat_lt
  have rightSmall := right.toNat_lt
  rw [countBound] at large
  apply if_pos
  rw [UInt64.lt_iff_toNat_lt, UInt64.toNat_add]
  omega

theorem toNat_saturatedSum (left right : UInt64) :
    (saturatedSum left right).toNat
      = min (left.toNat + right.toNat) (countBound - 1) := by
  rw [saturatedSum]
  rcases Nat.lt_or_ge (left.toNat + right.toNat) countBound with small | large
  · obtain ⟨isSum, whole⟩ := checkedSum_eq_some small
    rw [isSum, Option.getD_some, whole]
    omega
  · rw [checkedSum_eq_none large, Option.getD_none, Nat.min_eq_right (by omega)]
    rfl

end DelphiRtti
