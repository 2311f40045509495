import DelphiRtti.Proofs.Counts
import DelphiRtti.Proofs.Memory.Mapping

/-!
# What is read from memory

A read gives the bytes of the one region that contains its address, or says that
there is none or that it is too short.  This is said with numbers of any size,
and the same comes out with counts of 64 bits, for which sums are checked.
Buffers, single bytes and words are filled with what is read.
-/

namespace DelphiRtti

variable {image : Image} {region : Region} {address : Address} {size : Nat}
  {bytes : List UInt8}

namespace Image

/-- Whether a region is the only one that contains an address. -/
def Alone (image : Image) (region : Region) (address : Address) : Prop :=
  image.regions.filter (fun region => region.contains address) = [region]

/-- What reading a number of bytes at an address gives, told by the regions. -/
inductive Reads (image : Image) (address : Address) (size : Nat) :
    Except MemoryError (List UInt8) → Prop where
  | nothing (empty : size = 0) : Reads image address size (.ok [])
  | unmapped (positive : 0 < size)
      (outside : ∀ region ∈ image.regions, region.contains address = false) :
      Reads image address size (.error (.unmapped address))
  | bytes {region : Region} {bytes : List UInt8} (positive : 0 < size)
      (alone : image.Alone region address)
      (long : region.offset address + size ≤ region.bytes.size)
      (length : bytes.length = size)
      (holds : region.Holds address bytes) :
      Reads image address size (.ok bytes)
  | truncated {region : Region} (positive : 0 < size)
      (alone : image.Alone region address)
      (short : region.bytes.size < region.offset address + size) :
      Reads image address size (.error (.truncated address size))

theorem Alone.regionAt? (alone : image.Alone region address) :
    image.regionAt? address = some region := by
  rw [Image.regionAt?, ← List.head?_filter, alone]
  rfl

theorem Apart.alone
    (apart : image.Apart) (found : image.regionAt? address = some region) :
    image.Alone region address := by
  have first :
      (image.regions.filter fun region => region.contains address).head?
        = some region := by
    rw [List.head?_filter]
    exact found
  obtain ⟨others, split⟩ := List.head?_eq_some_iff.1 first
  have few := apart.length_containing_le address
  rw [split, List.length_cons] at few
  have noOthers : others = [] := List.eq_nil_of_length_eq_zero (by omega)
  rw [Alone, split, noOthers]

theorem Apart.reads (apart : image.Apart) (address : Address) (size : Nat) :
    image.Reads address size (image.read address size) := by
  rcases Nat.eq_zero_or_pos size with rfl | positive
  · exact .nothing rfl
  · cases found : image.regionAt? address with
    | none =>
        rw [read_of_unmapped positive found]
        exact .unmapped positive (regionAt?_eq_none_iff.1 found)
    | some region =>
        have alone := apart.alone found
        rw [read_of_regionAt? positive found]
        split
        case isTrue long =>
            refine .bytes positive alone long ?_
              (.slice (mem_of_regionAt? found).2 size)
            rw [Array.length_toList, Array.size_extract, Nat.min_eq_left long,
              Nat.add_sub_cancel_left]
        case isFalse notLong =>
            exact .truncated positive alone (Nat.lt_of_not_le notLong)

theorem Reads.read_eq {outcome : Except MemoryError (List UInt8)}
    (apart : image.Apart) (reads : image.Reads address size outcome) :
    image.read address size = outcome := by
  cases reads with
  | nothing empty => exact if_pos empty
  | unmapped positive outside =>
      exact read_of_unmapped positive (regionAt?_eq_none_iff.2 outside)
  | bytes positive alone long length holds =>
      rw [← length]
      exact apart.read_eq_of_holds (mem_of_regionAt? alone.regionAt?).1 holds
  | truncated positive alone short =>
      rw [read_of_regionAt? positive alone.regionAt?,
        if_neg (Nat.not_le.2 short)]

theorem Apart.read_eq_iff
    {outcome : Except MemoryError (List UInt8)} (apart : image.Apart) :
    image.read address size = outcome ↔ image.Reads address size outcome := by
  constructor
  · rintro rfl
    exact apart.reads address size
  · exact fun reads => reads.read_eq apart

end Image

namespace Region

/-- The bytes of a region from an address on, with counts of 64 bits.  Their
end is a checked sum. -/
def countedSlice? (region : Region) (address : Address) (size : UInt64) :
    Option (List UInt8) :=
  let start := (address.value - region.base.value).toUInt64
  (checkedSum start size).bind fun stop =>
    (sliceBetween? region.bytes start.toNat stop.toNat).map Array.toList

/-- The distance of an address from the base of its region does not
wrap around. -/
theorem toNat_distance (inside : region.contains address = true) :
    (address.value - region.base.value).toUInt64.toNat
    = region.offset address := by
  have low : region.base.value ≤ address.value := (contains_iff.1 inside).1
  rw [UInt32.toNat_toUInt64, UInt32.toNat_sub_of_le _ _ low]
  rfl

theorem countedSlice?_eq (inside : region.contains address = true)
    (counted : region.bytes.size < countBound) (size : UInt64) :
    region.countedSlice? address size
      = if region.offset address + size.toNat ≤ region.bytes.size then
          some (region.bytes.extract (region.offset address)
            (region.offset address + size.toNat)).toList
        else none := by
  have distance := toNat_distance inside
  rw [countedSlice?]
  generalize (address.value - region.base.value).toUInt64 = start at distance ⊢
  rw [← distance]
  rcases Nat.lt_or_ge (start.toNat + size.toNat) countBound with fits | large
  · obtain ⟨isSum, whole⟩ := checkedSum_eq_some fits
    simp only [isSum, Option.bind_some, sliceBetween?, whole,
      Nat.le_add_right, true_and]
    split
    case isTrue => rfl
    case isFalse => rfl
  · rw [if_neg (by omega), checkedSum_eq_none large, Option.bind_none]

end Region

namespace Image

def readCounted (image : Image) (address : Address) (size : UInt64) :
    Except MemoryError (List UInt8) :=
  if size = 0 then .ok []
  else
    match image.regionAt? address with
    | none => .error (.unmapped address)
    | some region =>
        match region.countedSlice? address size with
        | some bytes => .ok bytes
        | none => .error (.truncated address size.toNat)

/-- If the sizes of the regions are counts, counting in 64 bits makes
no difference. -/
theorem readCounted_eq
    (counted : ∀ region ∈ image.regions, region.bytes.size < countBound)
    (address : Address) (size : UInt64) :
    image.readCounted address size = image.read address size.toNat := by
  rw [readCounted]
  split
  case isTrue empty =>
      rw [empty]
      rfl
  case isFalse notEmpty =>
      have positive : 0 < size.toNat :=
        Nat.pos_of_ne_zero fun zero => notEmpty (UInt64.toNat_inj.1 zero)
      cases found : image.regionAt? address with
      | none => exact (read_of_unmapped positive found).symm
      | some region =>
          obtain ⟨listed, inside⟩ := mem_of_regionAt? found
          rw [read_of_regionAt? positive found]
          simp only [Region.countedSlice?_eq inside (counted region listed)]
          by_cases long : region.offset address + size.toNat ≤ region.bytes.size
          · simp only [if_pos long]
          · simp only [if_neg long]

theorem read_eq_readInto (image : Image) (address : Address)
    (buffer : Vector UInt8 size) :
    image.read address size
      = (image.readInto address buffer).1.map fun _ =>
        (image.readInto address buffer).2.toList := by
  rw [readInto]
  split
  case h_1 bytes readable => exact readable
  case h_2 failure unreadable => exact unreadable

theorem readInto_of_error {failure : MemoryError} {buffer : Vector UInt8 size}
    (failed : (image.readInto address buffer).1 = .error failure) :
    (image.readInto address buffer).2 = buffer := by
  rw [readInto] at failed ⊢
  split at failed
  case h_1 => cases failed
  case h_2 unreadable => rfl

theorem read_one_eq (image : Image) (address : Address) :
    image.read address 1 = (image.readByte address).map fun byte => [byte] := by
  rw [readByte]
  cases readable : image.read address 1 with
  | error failure => rfl
  | ok bytes =>
      obtain ⟨byte, rfl⟩ := List.length_eq_one_iff.1 (length_of_read readable)
      rfl

theorem read_four_eq (image : Image) (address : Address) :
    (image.read address 4).map littleEndian
      = (image.readWord address).map fun word =>
        (Address.ofWord word).toNat := by
  rw [readWord]
  cases readable : image.read address 4 with
  | error failure => rfl
  | ok bytes =>
      have small := littleEndian_lt bytes
      rw [length_of_read readable] at small
      have kept : (UInt32.ofNat (littleEndian bytes)).toNat
          = littleEndian bytes :=
        UInt32.toNat_ofNat_of_lt small
      exact congrArg Except.ok kept.symm

/-- In an image that regions were offered to, the regions alone decide what a
read gives, and counting in 64 bits gives the same.  A buffer is filled with
what a read of its size gives, or left as it was; a byte is what a read of
one byte gives, and a word, taken as an address, is the number that the four
bytes of a read write. -/
theorem reads_exact (offered : List Region) (address : Address) :
    let image := offerAll offered .empty
    (∀ size outcome, image.read address size = outcome
      ↔ image.Reads address size outcome)
      ∧ ((∀ region ∈ image.regions, region.bytes.size < countBound) →
        ∀ size, image.readCounted address size = image.read address size.toNat)
      ∧ (∀ size (buffer : Vector UInt8 size),
        (image.read address size
          = (image.readInto address buffer).1.map fun _ =>
            (image.readInto address buffer).2.toList)
        ∧ ∀ failure, (image.readInto address buffer).1 = .error failure →
          (image.readInto address buffer).2 = buffer)
      ∧ (image.read address 1 = (image.readByte address).map fun byte => [byte])
      ∧ (image.read address 4).map littleEndian
        = (image.readWord address).map fun word =>
          (Address.ofWord word).toNat := by
  intro image
  have apart : image.Apart := apart_offerAll offered
  refine ⟨?_, ?_, ?_, read_one_eq image address, read_four_eq image address⟩
  · intro size outcome
    exact apart.read_eq_iff
  · intro counted size
    exact readCounted_eq counted address size
  · intro size buffer
    exact ⟨read_eq_readInto image address buffer,
      fun _ failed => readInto_of_error failed⟩

theorem reads_exact_neighbours :
    let image := offerAll Region.neighbours .empty
    (∀ region ∈ image.regions, region.bytes.size < countBound)
      ∧ image.readCounted (.ofNat 4098) (.ofNat (countBound - 1))
        = .error (.truncated (.ofNat 4098) (countBound - 1))
      ∧ image.Reads (.ofNat 4098) 2 (.ok [3, 4])
      ∧ image.Reads (.ofNat 4098) 3 (.error (.truncated (.ofNat 4098) 3))
      ∧ image.readInto (.ofNat 4098) #v[9, 9, 9]
        = (.error (.truncated (.ofNat 4098) 3), #v[9, 9, 9])
      ∧ image.Reads (.ofNat 4104) 1 (.error (.unmapped (.ofNat 4104)))
      ∧ image.Reads (.ofNat 4104) 0 (.ok []) := by
  intro image
  have counted : ∀ region ∈ image.regions, region.bytes.size < countBound := by
    decide +kernel
  obtain ⟨inside, sameCounted, buffers, -⟩ :=
    reads_exact Region.neighbours (.ofNat 4098)
  have outside := (reads_exact Region.neighbours (.ofNat 4104)).1
  have refused : (image.readInto (.ofNat 4098) #v[9, 9, 9]).1
      = .error (.truncated (.ofNat 4098) 3) := rfl
  refine ⟨counted, ?_, (inside 2 _).1 rfl, (inside 3 _).1 rfl, ?_,
    (outside 1 _).1 rfl, (outside 0 _).1 rfl⟩
  · rw [sameCounted counted]
    rfl
  · exact Prod.ext refused ((buffers 3 _).2 _ refused)

end Image

end DelphiRtti
