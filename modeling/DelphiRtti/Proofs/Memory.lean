import DelphiRtti.Memory
import Mathlib.Data.List.Pairwise

/-!
# Regions that lie apart

No two mapped regions overlap.  So an address is in one region at most, and
what can be read from an address on can also be read from the next address on,
unless that is zero again.
-/

namespace DelphiRtti

open Text

namespace Region

variable {region left right : Region} {address : Address}

theorem contains_iff :
    region.contains address = true
      ↔ region.base.toNat ≤ address.toNat ∧ address.toNat < region.limit := by
  rw [contains, Bool.and_eq_true, decide_eq_true_eq, decide_eq_true_eq]

/-- Whether two regions do not overlap. -/
def Apart (left right : Region) : Prop := left.overlaps right = false

theorem Apart.symm (apart : left.Apart right) : right.Apart left := by
  rw [Apart, overlaps, Bool.and_comm]
  exact apart

instance : Std.Symm Apart := ⟨fun _ _ => Apart.symm⟩

theorem overlaps_of_contains (inLeft : left.contains address = true)
    (inRight : right.contains address = true) : left.overlaps right = true := by
  rw [contains_iff] at inLeft inRight
  rw [overlaps, Bool.and_eq_true, decide_eq_true_eq, decide_eq_true_eq]
  constructor
  · exact Nat.lt_of_le_of_lt inLeft.1 inRight.2
  · exact Nat.lt_of_le_of_lt inRight.1 inLeft.2

def offset (region : Region) (address : Address) : Nat :=
  address.toNat - region.base.toNat

/-- Whether as many bytes from an address on all lie in a region. -/
def Encloses (region : Region) (start : Address) (size : Nat) : Prop :=
  region.base.toNat ≤ start.toNat ∧ start.toNat + size ≤ region.limit

theorem Encloses.contains {start : Address} {size : Nat}
    (encloses : region.Encloses start size) (positive : 0 < size) :
    region.contains start = true :=
  contains_iff.2 ⟨encloses.1, Nat.lt_of_lt_of_le
    (Nat.lt_add_of_pos_right positive) encloses.2⟩

/-- Whether a region has certain bytes from an address on. -/
structure Holds (region : Region) (start : Address)
    (bytes : List UInt8) : Prop where
  base : region.base.toNat ≤ start.toNat
  bytes : bytes <+: region.bytes.toList.drop (start.toNat - region.base.toNat)

namespace Holds

variable {start : Address} {byte : UInt8} {bytes rest : List UInt8}

theorem of_append (holds : region.Holds start (bytes ++ rest)) :
    region.Holds start bytes where
  base := holds.base
  bytes := (List.prefix_append bytes rest).trans holds.bytes

theorem advance {front : List UInt8}
    {count : UInt32} (holds : region.Holds start (front ++ rest))
    (counted : front.length = count.toNat)
    (inside : start.toNat + count.toNat < wordBound) :
    region.Holds (start + count) rest := by
  have later : (start + count).toNat = start.toNat + count.toNat := by
    rw [Address.toNat_add, Nat.mod_eq_of_lt inside]
  constructor
  · rw [later]
    exact Nat.le_add_right_of_le holds.base
  · obtain ⟨after, split⟩ := holds.bytes
    rw [later, Nat.sub_add_comm holds.base, ← List.drop_drop, ← split,
      ← counted, List.append_assoc, List.drop_left]
    exact List.prefix_append rest after

theorem next (holds : region.Holds start (byte :: rest))
    (inside : start.toNat + 1 < wordBound) :
    region.Holds (start + (1 : UInt32)) rest := by
  have afterFirst : region.Holds start ([byte] ++ rest) := holds
  exact afterFirst.advance rfl inside

theorem single (base : region.base.toNat ≤ start.toNat)
    (there : region.bytes[region.offset start]? = some byte) :
    region.Holds start [byte] where
  base := base
  bytes := by
    obtain ⟨inside, rfl⟩ := Array.getElem?_eq_some_iff.1 there
    exact ⟨_, (List.drop_eq_getElem_cons inside).symm⟩

theorem slice (inside : region.contains start = true) (size : Nat) :
    region.Holds start
      (region.bytes.extract (region.offset start)
        (region.offset start + size)).toList where
  base := (contains_iff.1 inside).1
  bytes := by
    rw [Array.toList_extract, List.extract_eq_take_drop]
    exact List.take_prefix _ _

theorem length_le
    (holds : region.Holds start bytes) (notEmpty : bytes.length ≠ 0) :
    start.toNat - region.base.toNat + bytes.length ≤ region.bytes.size := by
  have whole : region.bytes.toList.length = region.bytes.size := rfl
  have short := holds.bytes.length_le
  rw [List.length_drop, whole] at short
  omega

end Holds

end Region

namespace Image

variable {image next : Image} {region : Region} {address start : Address}
  {size : Nat} {bytes : List UInt8}

theorem place_perm (region : Region) (regions : List Region) :
    (place region regions).Perm (region :: regions) := by
  induction regions with
  | nil => exact .refl _
  | cons head rest induction =>
      rw [place]
      split
      case isTrue => exact (induction.cons head).trans (.swap region head rest)
      case isFalse => exact .refl _

/-- Whether no two regions overlap. -/
def Apart (image : Image) : Prop :=
  image.regions.Pairwise Region.Apart

theorem apart_empty : Apart .empty := .nil

theorem map_eq_ok (mapped : image.map region = .ok next) :
    (∀ other ∈ image.regions, region.Apart other)
      ∧ next.regions.Perm (region :: image.regions) := by
  rw [map] at mapped
  split at mapped
  case isTrue => cases mapped
  case isFalse free =>
      cases mapped
      refine ⟨?_, place_perm region image.regions⟩
      simpa [Region.Apart] using free

theorem exists_map_eq_ok_iff :
    (∃ next, image.map region = .ok next)
      ↔ ∀ other ∈ image.regions, region.Apart other := by
  constructor
  · rintro ⟨next, mapped⟩
    exact (map_eq_ok mapped).1
  · intro free
    refine ⟨⟨place region image.regions⟩, ?_⟩
    rw [map, if_neg]
    simpa [Region.Apart] using free

theorem Apart.map (apart : image.Apart) (mapped : image.map region = .ok next) :
    next.Apart := by
  obtain ⟨free, placed⟩ := map_eq_ok mapped
  rw [Apart, placed.pairwise_iff Region.Apart.symm]
  exact List.pairwise_cons.2 ⟨free, apart⟩

theorem mem_of_regionAt? (found : image.regionAt? address = some region) :
    region ∈ image.regions ∧ region.contains address = true := by
  have contained := @List.find?_some _ (fun region : Region =>
    region.contains address) _ _ found
  exact ⟨List.mem_of_find?_eq_some found, contained⟩

theorem regionAt?_eq_none_iff :
    image.regionAt? address = none
      ↔ ∀ region ∈ image.regions, region.contains address = false := by
  simp [regionAt?]

/-- In regions that lie apart, the one that contains an address is the
one that is found. -/
theorem Apart.regionAt?_eq_some (apart : image.Apart)
    (listed : region ∈ image.regions)
    (inside : region.contains address = true) :
    image.regionAt? address = some region := by
  cases found : image.regionAt? address with
  | none =>
      rw [regionAt?_eq_none_iff.1 found region listed] at inside
      cases inside
  | some other =>
      obtain ⟨otherListed, otherInside⟩ := mem_of_regionAt? found
      by_contra different
      have separate : other.Apart region :=
        apart.forall otherListed listed fun same =>
          different (congrArg some same)
      rw [Region.Apart,
        Region.overlaps_of_contains otherInside inside] at separate
      cases separate

theorem Apart.regionAt?_eq_some_iff (apart : image.Apart) :
    image.regionAt? address = some region
      ↔ region ∈ image.regions ∧ region.contains address = true := by
  constructor
  · exact mem_of_regionAt?
  · rintro ⟨listed, inside⟩
    exact apart.regionAt?_eq_some listed inside

/-- In regions that lie apart, executable addresses are those in an
executable region. -/
theorem Apart.isExecutable_iff (apart : image.Apart) :
    image.isExecutable address = true
      ↔ ∃ region ∈ image.regions,
          region.contains address = true
            ∧ region.protection.executable = true := by
  rw [isExecutable]
  constructor
  · intro executable
    split at executable
    case h_1 region found =>
        obtain ⟨listed, inside⟩ := mem_of_regionAt? found
        exact ⟨region, listed, inside, executable⟩
    case h_2 => cases executable
  · rintro ⟨region, listed, inside, executable⟩
    rw [apart.regionAt?_eq_some listed inside]
    exact executable

theorem read_of_regionAt? (positive : 0 < size)
    (found : image.regionAt? address = some region) :
    image.read address size
      = if region.offset address + size ≤ region.bytes.size then
          .ok (region.bytes.extract (region.offset address)
            (region.offset address + size)).toList
        else .error (.truncated address size) := by
  rw [read, if_neg (Nat.ne_of_gt positive), found]
  rfl

theorem read_of_unmapped
    (positive : 0 < size) (unmapped : image.regionAt? address = none) :
    image.read address size = .error (.unmapped address) := by
  rw [read, if_neg (Nat.ne_of_gt positive), unmapped]

/-- A read of at least one byte stays inside the region of its first byte. -/
theorem readable_iff (positive : 0 < size) :
    (∃ bytes, image.read address size = .ok bytes)
      ↔ ∃ region, image.regionAt? address = some region
        ∧ address.toNat + size ≤ region.limit := by
  cases found : image.regionAt? address with
  | none => simp [read_of_unmapped positive found]
  | some region =>
      have inside := Region.contains_iff.1 (mem_of_regionAt? found).2
      have fits : region.offset address + size ≤ region.bytes.size
          ↔ address.toNat + size ≤ region.limit := by
        rw [Region.offset, Region.limit]
        omega
      rw [read_of_regionAt? positive found]
      by_cases short : address.toNat + size ≤ region.limit
      · simp [fits, short]
      · simp [fits, short]

theorem enclosed_of_read (readable : image.read start size = .ok bytes)
    (positive : 0 < size) :
    ∃ region ∈ image.regions, region.Encloses start size := by
  obtain ⟨region, found, short⟩ := (readable_iff positive).1 ⟨bytes, readable⟩
  obtain ⟨listed, inside⟩ := mem_of_regionAt? found
  exact ⟨region, listed, (Region.contains_iff.1 inside).1, short⟩

/-- In regions that lie apart, a read succeeds exactly if it reads nothing or
one region has all its bytes. -/
theorem Apart.readable_iff_enclosed (apart : image.Apart) :
    (∃ bytes, image.read start size = .ok bytes)
      ↔ size = 0 ∨ ∃ region ∈ image.regions, region.Encloses start size := by
  constructor
  · rintro ⟨bytes, readable⟩
    rcases Nat.eq_zero_or_pos size with nothing | positive
    · exact .inl nothing
    · exact .inr (enclosed_of_read readable positive)
  · rintro (rfl | ⟨region, listed, encloses⟩)
    · exact ⟨[], rfl⟩
    · rcases Nat.eq_zero_or_pos size with rfl | positive
      · exact ⟨[], rfl⟩
      · have found :=
          apart.regionAt?_eq_some listed (encloses.contains positive)
        exact (readable_iff positive).2 ⟨region, found, encloses.2⟩

theorem readByte_of_mapped (listed : region ∈ image.regions)
    (inside : region.contains address = true) :
    ∃ byte, image.readByte address = .ok byte := by
  cases found : image.regionAt? address with
  | none =>
      rw [regionAt?_eq_none_iff.1 found region listed] at inside
      cases inside
  | some other =>
      have last := (Region.contains_iff.1 (mem_of_regionAt? found).2).2
      obtain ⟨bytes, readable⟩ :=
        (readable_iff Nat.one_pos).2 ⟨other, found, last⟩
      exact ⟨bytes.headD 0, by rw [readByte, readable]⟩

/-- In regions that lie apart, what one of them holds is what is read. -/
theorem Apart.read_eq_of_holds (apart : image.Apart)
    (listed : region ∈ image.regions) (holds : region.Holds start bytes) :
    image.read start bytes.length = .ok bytes := by
  by_cases nothing : bytes.length = 0
  · rw [List.eq_nil_of_length_eq_zero nothing]
    rfl
  · have base := holds.base
    have short := holds.length_le nothing
    have inside : region.contains start = true := by
      rw [Region.contains_iff, Region.limit]
      omega
    rw [read, if_neg nothing, apart.regionAt?_eq_some listed inside]
    simp only [if_pos short, Array.toList_extract, List.extract_eq_take_drop,
      Nat.add_sub_cancel_left]
    exact congrArg _ (List.prefix_iff_eq_take.1 holds.bytes).symm

theorem holds_of_read
    (readable : image.read start size = .ok bytes) (positive : 0 < size) :
    ∃ region ∈ image.regions, region.Holds start bytes := by
  cases found : image.regionAt? start with
  | none =>
      rw [read_of_unmapped positive found] at readable
      cases readable
  | some region =>
      obtain ⟨listed, inside⟩ := mem_of_regionAt? found
      rw [read_of_regionAt? positive found] at readable
      split at readable
      case isTrue =>
          cases readable
          exact ⟨region, listed, .slice inside size⟩
      case isFalse => cases readable

/-- The first bytes of a read can be read by themselves. -/
theorem Apart.read_front {more : Nat} (apart : image.Apart)
    (readable : image.read start (size + more) = .ok bytes) :
    image.read start size = .ok (bytes.take size) := by
  have length := length_of_read readable
  rcases Nat.eq_zero_or_pos size with rfl | positive
  · rfl
  · obtain ⟨region, listed, holds⟩ :=
      holds_of_read readable (Nat.add_pos_left positive more)
    rw [← List.take_append_drop size bytes] at holds
    have front := apart.read_eq_of_holds listed holds.of_append
    rw [List.length_take, length,
      Nat.min_eq_left (Nat.le_add_right size more)] at front
    exact front

/-- The bytes after the first ones can be read by themselves, unless their
address wraps around. -/
theorem Apart.read_rest {count : UInt32} (apart : image.Apart)
    (readable : image.read start (count.toNat + size) = .ok bytes)
    (reached : size = 0 ∨ start.toNat + count.toNat < wordBound) :
    image.read (start + count) size = .ok (bytes.drop count.toNat) := by
  have length := length_of_read readable
  rcases Nat.eq_zero_or_pos size with rfl | positive
  · have all : bytes.length ≤ count.toNat := Nat.le_of_eq length
    rw [List.drop_of_length_le all]
    rfl
  · obtain ⟨region, listed, holds⟩ :=
      holds_of_read readable (Nat.add_pos_right count.toNat positive)
    rw [← List.take_append_drop count.toNat bytes] at holds
    have counted : (bytes.take count.toNat).length = count.toNat := by
      rw [List.length_take, length,
        Nat.min_eq_left (Nat.le_add_right count.toNat size)]
    have inside := reached.resolve_left (Nat.ne_of_gt positive)
    have rest := apart.read_eq_of_holds listed (holds.advance counted inside)
    rw [List.length_drop, length, Nat.add_sub_cancel_left] at rest
    exact rest

theorem Apart.readByte_eq_of_holds {byte : UInt8}
    {rest : List UInt8} (apart : image.Apart) (listed : region ∈ image.regions)
    (holds : region.Holds start (byte :: rest)) :
    image.readByte start = .ok byte := by
  have first : region.Holds start ([byte] ++ rest) := holds
  have readable := apart.read_eq_of_holds listed first.of_append
  rw [readByte, ← List.length_singleton (a := byte), readable]
  rfl

end Image

end DelphiRtti
