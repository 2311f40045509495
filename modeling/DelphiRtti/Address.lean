import DelphiRtti.SortedMap
import DelphiRtti.Text.Digits

/-!
# Addresses of a 32-bit image

Arithmetic on addresses wraps at 2^32, as the pointers of the image do.
-/

namespace DelphiRtti

open Text

structure Address where
  value : UInt32
deriving DecidableEq, Inhabited

namespace Address

/-- The address with the code `value`, reduced modulo 2^32. -/
def ofNat (value : Nat) : Address := ⟨UInt32.ofNat value⟩

def toNat (address : Address) : Nat := address.value.toNat

/-- A signed word that was read from memory, taken as a pointer. -/
def ofWord (word : Int32) : Address := ⟨word.toUInt32⟩

instance : HAdd Address UInt32 Address :=
    ⟨fun address bytes => ⟨address.value + bytes⟩⟩

instance : LT Address := ⟨fun left right => left.toNat < right.toNat⟩

instance (left right : Address) : Decidable (left < right) :=
  inferInstanceAs (Decidable (left.toNat < right.toNat))

theorem toNat_lt (address : Address) : address.toNat < wordBound :=
    address.value.toNat_lt

theorem toNat_add (address : Address) (bytes : UInt32) :
    (address + bytes).toNat = (address.toNat + bytes.toNat) % wordBound :=
  UInt32.toNat_add address.value bytes

theorem toNat_injective {left right : Address}
    (same : left.toNat = right.toNat) : left = right := by
  cases left
  cases right
  exact congrArg Address.mk (UInt32.toNat_inj.mp same)

instance : KeyOrder Address where
  before left right := decide (left < right)
  irrefl key := decide_eq_false (Nat.lt_irrefl key.toNat)
  trans := by
    intro first second third before after
    simp only [decide_eq_true_eq] at *
    exact Nat.lt_trans before after
  connected := by
    intro left right notBefore notAfter
    simp only [decide_eq_false_iff_not] at *
    exact toNat_injective
      (Nat.le_antisymm (Nat.not_lt.1 notAfter) (Nat.not_lt.1 notBefore))

/-- The form in which addresses are shown: eight digits with small letters. -/
def render (address : Address) : String :=
  String.ofList (hexDigits digit 8 address.toNat)

def renderCapital (address : Address) : String :=
  String.ofList (hexDigits capitalDigit 8 address.toNat)

def renderShort (address : Address) : String :=
  String.ofList (shortestHex address.toNat)

def renderMarked (address : Address) : String := "0x" ++ address.renderShort

/-- Twelve columns: the mark `0x` and ten digits with capital letters. -/
def renderWide (address : Address) : String :=
  "0x" ++ String.ofList (hexDigits capitalDigit 10 address.toNat)

/-- The decimal value inside the name of the type. -/
def renderInner (address : Address) : String :=
  "Address(" ++ String.ofList (decimal address.toNat) ++ ")"

end Address

/-- Whether a text comes before another one: the first different character
decides by its code, so the UTF-8 forms have the same order. -/
def textBefore (left right : String) : Bool :=
  @decide (@LT.lt String String.instLT left right) (left.decidableLT right)

instance : KeyOrder String where
  before := textBefore
  irrefl key := decide_eq_false (String.lt_irrefl key)
  trans before after :=
    decide_eq_true
      (String.lt_trans (of_decide_eq_true before) (of_decide_eq_true after))
  connected notBefore notAfter :=
    String.le_antisymm (String.not_lt.1 (of_decide_eq_false notAfter))
      (String.not_lt.1 (of_decide_eq_false notBefore))

end DelphiRtti
