import DelphiRtti.Proofs.Memory.Mapping
import DelphiRtti.Proofs.Project.Listing

/-!
# The memory under the listing

An item is placed only where all its bytes can be read, and with the length that
its type has there, which for a string is read from the memory.  Regions are
only ever added and lie apart, so what was read stays.  In a reachable project
the items of the listing therefore still say of the memory what is there.
-/

namespace DelphiRtti

open Text

theorem toNat_stringLength (length : UInt8) :
    (1 + length.toUInt32).toNat = 1 + length.toNat := by
  have := length.toNat_lt
  rw [UInt32.toNat_add, UInt8.toNat_toUInt32, UInt32.toNat_one]
  apply Nat.mod_eq_of_lt
  omega

/-- Whether a type has a certain length at an address.  A string is
one byte longer than the number in its first byte says, and a function
has no length anywhere. -/
inductive Image.Measures (image : Image) (address : Address) :
    DataType → Nat → Prop where
  | fixed {dataType : DataType} {length : UInt32}
      (sized : dataType.length? = some length) :
      Measures image address dataType length.toNat
  | string {count : UInt8} (readable : image.readByte address = .ok count) :
      Measures image address .pascalString (1 + count.toNat)

theorem DataType.length?_pascalString :
    DataType.pascalString.length? = none := by
  rw [DataType.length?]

namespace Image.Measures

variable {image next : Image} {address : Address} {dataType : DataType}
  {length : UInt32} {size : Nat}

theorem iff_length :
    image.Measures address dataType length.toNat
      ↔ dataType.length? = some length
        ∨ dataType = .pascalString
          ∧ ∃ count, image.readByte address = .ok count
            ∧ length.toNat = 1 + count.toNat := by
  constructor
  · intro measures
    generalize sized : length.toNat = size at measures
    cases measures with
    | fixed fits =>
        rw [UInt32.toNat_inj.1 sized]
        exact .inl fits
    | string readable => exact .inr ⟨rfl, _, readable, rfl⟩
  · rintro (fits | ⟨rfl, count, readable, sized⟩)
    · exact .fixed fits
    · rw [sized]
      exact .string readable

theorem isFunction_eq_false (measures : image.Measures address dataType size) :
    dataType.isFunction = false := by
  cases measures with
  | fixed sized =>
      cases dataType with
      | function definition => simp [DataType.length?] at sized
      | _ => rfl
  | string => rfl

theorem map {region : Region} (measures : image.Measures address dataType size)
    (apart : image.Apart) (mapped : image.map region = .ok next) :
    next.Measures address dataType size := by
  cases measures with
  | fixed sized => exact .fixed sized
  | string readable => exact .string (apart.readByte_map mapped readable)

end Image.Measures

namespace Project

variable {project : Project} {address : Address} {dataType : DataType}
  {length : UInt32}

theorem placedLength_pascalString (start : Address) :
    project.placedLength start .pascalString
      = match project.image.readByte start with
        | .ok count => .ok (1 + count.toUInt32)
        | .error failure => .error (.memory failure) := by
  rw [placedLength, DataType.length?_pascalString]
  exact if_pos rfl

theorem placedLength_eq_ok_iff :
    project.placedLength address dataType = .ok length
      ↔ project.image.Measures address dataType length.toNat := by
  rw [Image.Measures.iff_length]
  cases sized : dataType.length? with
  | some fixed =>
      have notString : dataType ≠ .pascalString := by
        rintro rfl
        cases DataType.length?_pascalString.symm.trans sized
      simp [placedLength, sized, notString]
  | none =>
      by_cases string : dataType = .pascalString
      · subst string
        rw [placedLength_pascalString]
        cases project.image.readByte address with
        | error => simp
        | ok count =>
            have lengths : 1 + count.toUInt32 = length
                ↔ length.toNat = 1 + count.toNat := by
              rw [← UInt32.toNat_inj, toNat_stringLength, eq_comm]
            simp [lengths]
      · simp [placedLength, sized, string]

end Project

/-- Whether an item has the length that its type has at its address, and one
region has all its bytes. -/
structure DataItem.Describes (item : DataItem) (image : Image) : Prop where
  measures : image.Measures item.address item.dataType item.length.toNat
  enclosed : 0 < item.length.toNat →
    ∃ region ∈ image.regions, region.Encloses item.address item.length.toNat

theorem DataItem.Describes.map {item : DataItem} {image next : Image}
    {region : Region} (describes : item.Describes image) (apart : image.Apart)
    (mapped : image.map region = .ok next) : item.Describes next where
  measures := describes.measures.map apart mapped
  enclosed positive := by
    obtain ⟨other, listed, encloses⟩ := describes.enclosed positive
    refine ⟨other, ?_, encloses⟩
    rw [(Image.map_eq_ok mapped).2.mem_iff]
    exact .tail _ listed

namespace Project

/-- Whether the regions lie apart and all items of the listing describe them. -/
structure Described (project : Project) : Prop where
  apart : project.image.Apart
  describes : ∀ {key : Address} {item : DataItem},
    project.listing.get? key = some item →
    item.Describes project.image

/-- Whether every byte that an item of the listing covers is mapped. -/
def Mapped (project : Project) : Prop :=
  ∀ {key address : Address} {item : DataItem},
    project.listing.get? key = some item →
    item.Covers address → ∃ region ∈ project.image.regions,
      region.contains address = true

variable {project next : Project} {key : Address} {item : DataItem}

theorem Described.change (described : project.Described)
    (change : Change project next) : next.Described := by
  cases change with
  | map mapped =>
      exact ⟨described.apart.map mapped,
        fun listed => (described.describes listed).map described.apart mapped⟩
  | clearData start stop =>
      exact ⟨described.apart,
        fun listed =>
          described.describes (Listing.get?_clear_eq_some_iff.1 listed).1⟩
  | placeItem sized readable =>
      refine ⟨described.apart, ?_⟩
      intro key other listed
      rw [withItem, SortedMap.get?_insert] at listed
      split at listed
      case isTrue =>
          cases listed
          exact ⟨placedLength_eq_ok_iff.1 sized,
            Image.enclosed_of_read readable⟩
      case isFalse => exact described.describes listed
  | _ => exact ⟨described.apart, described.describes⟩

theorem Described.empty : Described .empty where
  apart := .nil
  describes listed := by
    rw [Project.empty, ofImage, SortedMap.get?_empty] at listed
    cases listed

theorem Reachable.described (reachable : project.Reachable) :
    project.Described :=
  reachable.keeps .empty Described.change

theorem Reachable.apart (reachable : project.Reachable) : project.image.Apart :=
  reachable.described.apart

theorem Reachable.mapped (reachable : project.Reachable) : project.Mapped := by
  intro key address item listed covers
  obtain ⟨low, high⟩ := covers
  have positive : 0 < item.length.toNat := by
    rw [DataItem.limit] at high
    omega
  obtain ⟨region, there, encloses⟩ :=
    (reachable.described.describes listed).enclosed positive
  refine ⟨region, there, Region.contains_iff.2 ⟨?_, ?_⟩⟩
  · exact Nat.le_trans encloses.1 low
  · exact Nat.lt_of_lt_of_le high encloses.2

theorem Mapped.clear_of_unreadable
    (mapped : project.Mapped) {place : Address} {cause : MemoryError}
    (unread : project.image.readByte place = .error cause) :
    project.listing.clear place (place + (1 : UInt32)) = project.listing := by
  apply Listing.clear_of_uncovered
  intro address item listed covers
  obtain ⟨region, there, inside⟩ := mapped listed covers
  obtain ⟨byte, readable⟩ := Image.readByte_of_mapped there inside
  rw [unread] at readable
  cases readable

/-- In every reachable project, an item of the listing is found at its own
address and is no function.  It has the length of its type, and a string is
one byte longer than its first byte in memory now says.  If it has bytes, they
all lie in one region. -/
theorem listing_describes_memory (reachable : project.Reachable)
    (listed : project.dataAt? key = some item) :
    item.address = key ∧ item.dataType.isFunction = false
      ∧ (item.dataType.length? = some item.length
        ∨ item.dataType = .pascalString
          ∧ ∃ count, project.image.readByte item.address = .ok count
            ∧ item.length.toNat = 1 + count.toNat)
      ∧ (0 < item.length.toNat → ∃ region ∈ project.image.regions,
        region.base.toNat ≤ item.address.toNat
          ∧ item.limit ≤ region.limit) := by
  have describes := reachable.described.describes listed
  exact ⟨reachable.keyed listed, describes.measures.isFunction_eq_false,
    Image.Measures.iff_length.1 describes.measures, describes.enclosed⟩

end Project

/-- The record of a class `TA`, with its name behind it. -/
def Region.recorded : Region :=
  ⟨"image", .ofNat 4096, #[0, 0, 0, 0, 8, 16, 0, 0, 2, 84, 65],
    ⟨true, false, false⟩⟩

namespace Project

/-- A project in which the class is rebuilt, so that its name is placed, and a
region is mapped right behind. -/
def extended : Project :=
  .perform (.map ⟨"behind", .ofNat 4107, #[1, 2, 3], ⟨true, true, false⟩⟩) <|
    .perform (.rebuild (.ofNat 4096) { Dialect.standard with
      nameOffset := 4 }) <|
      .perform (.map .recorded) .empty

theorem listing_describes_memory_extended :
    extended.Reachable ∧ extended.image.regions.length = 2
      ∧ extended.dataAt? (.ofNat 4104) = some ⟨.ofNat 4104, 3, .pascalString⟩
      ∧ ∃ region ∈ extended.image.regions, region.base.toNat ≤ 4104
        ∧ 4107 ≤ region.limit := by
  have reachable : extended.Reachable :=
    .perform _ (.perform _ (.perform _ .empty))
  have listed : extended.dataAt? (.ofNat 4104)
      = some ⟨.ofNat 4104, 3, .pascalString⟩ := by
    decide +kernel
  obtain ⟨_, _, _, enclosed⟩ := listing_describes_memory reachable listed
  exact ⟨reachable, by decide +kernel, listed, enclosed (by decide)⟩

end Project

end DelphiRtti
