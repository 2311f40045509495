import DelphiRtti.Proofs.Binary.Loading

/-!
# The contents of sections

A section takes its bytes from a run of the file, which its own sizes and the
end of the file cut short, and goes on with zeros up to its size in memory.
Cutting the run out between two places fails only where the file ends before it
begins, so no byte that is there gets lost.
-/

namespace DelphiRtti

open Text

/-- Bytes that are cut down, or filled up with zeros, to a size. -/
def resized (bytes : Array UInt8) (size : Nat) : Array UInt8 :=
  bytes.take size ++ Array.replicate (size - bytes.size) 0

theorem getElem?_resized (bytes : Array UInt8) (size place : Nat) :
    (resized bytes size)[place]?
      = if place < size then some ((bytes[place]?).getD 0) else none := by
  rw [resized, Array.take_eq_extract, Array.getElem?_append,
    Array.getElem?_extract, Array.getElem?_replicate, Array.size_extract,
    Nat.sub_zero, Nat.zero_add]
  rcases Nat.lt_or_ge place (min size bytes.size) with given | filled
  · have there : place < bytes.size := by omega
    rw [if_pos given, if_pos given, if_pos (by omega),
      Array.getElem?_eq_getElem there]
    rfl
  · rw [if_neg (Nat.not_lt.2 filled)]
    by_cases inside : place < size
    · rw [if_pos (by omega), if_pos inside, Array.getElem?_eq_none (by omega)]
      rfl
    · rw [if_neg (by omega), if_neg inside]

theorem extract_to_end (bytes : Array UInt8) (start stop : Nat) :
    bytes.extract start (min stop bytes.size) = bytes.extract start stop := by
  apply Array.ext_getElem?
  intro place
  rw [Array.getElem?_extract, Array.getElem?_extract, Nat.min_assoc,
    Nat.min_self]

namespace Section

variable {entry : Section} {data : Array UInt8} {place : Nat}

def byteAt (entry : Section) (data : Array UInt8) (place : Nat) : UInt8 :=
  if place < entry.fileSize.toNat then
    (data[entry.fileOffset.toNat + place]?).getD 0 else 0

def taken (entry : Section) : Nat := min entry.fileSize.toNat entry.mappedSize

/-- The run of the file from which a section takes its bytes. -/
def run (entry : Section) (data : Array UInt8) : Array UInt8 :=
  data.extract entry.fileOffset.toNat (entry.fileOffset.toNat + entry.taken)

theorem mappedBytes_eq (entry : Section) (data : Array UInt8) :
    entry.mappedBytes data = resized (entry.run data) entry.mappedSize := by
  have few : entry.taken ≤ entry.mappedSize := Nat.min_le_right _ _
  have short : (entry.run data).size ≤ entry.mappedSize := by
    rw [run, Array.size_extract]
    omega
  rw [resized, Array.take_eq_extract, Array.extract_eq_self_of_le short]
  rfl

theorem getD_run (inside : place < entry.mappedSize) :
    ((entry.run data)[place]?).getD 0 = entry.byteAt data place := by
  have sizes : entry.taken = min entry.fileSize.toNat entry.mappedSize := rfl
  rw [run, Array.getElem?_extract, byteAt]
  by_cases inFile : place < entry.fileSize.toNat
  · rw [if_pos inFile]
    split
    case isTrue => rfl
    case isFalse ended =>
        have beyond : data.size ≤ entry.fileOffset.toNat + place := by omega
        rw [Array.getElem?_eq_none beyond]
  · rw [if_neg inFile, if_neg (by omega), Option.getD_none]

theorem getElem?_mappedBytes (entry : Section) (data : Array UInt8)
    (place : Nat) :
    (entry.mappedBytes data)[place]?
      = if place < entry.mappedSize then
        some (entry.byteAt data place) else none := by
  rw [mappedBytes_eq, getElem?_resized]
  split
  case isTrue inside => rw [getD_run inside]
  case isFalse => rfl

/-- Where the run of a section ends in a file, with counts of 64 bits. -/
def fileStop (entry : Section) (data : Array UInt8) : Nat :=
  min (saturatedSum entry.fileOffset.toUInt64
    (.ofNat entry.taken)).toNat data.size

/-- The contents in memory, with the run cut out between two places
that are checked. -/
def checkedBytes (entry : Section) (data : Array UInt8) : Array UInt8 :=
  resized ((sliceBetween? data entry.fileOffset.toNat
    (entry.fileStop data)).getD #[]) entry.mappedSize

/-- The end of the run is too small to be cut down to the largest count. -/
theorem fileStop_eq (entry : Section) (data : Array UInt8) :
    entry.fileStop data
      = min (entry.fileOffset.toNat + entry.taken) data.size := by
  have offset := entry.fileOffset.toNat_lt
  have size := entry.fileSize.toNat_lt
  have few : entry.taken ≤ entry.fileSize.toNat := Nat.min_le_left _ _
  have kept : (UInt64.ofNat entry.taken).toNat = entry.taken :=
    UInt64.toNat_ofNat_of_lt (by
    rw [UInt64.size]
    omega)
  have unsaturated : entry.fileOffset.toNat + entry.taken ≤ countBound - 1 := by
    rw [countBound]
    omega
  rw [fileStop, toNat_saturatedSum, kept, UInt32.toNat_toUInt64,
    Nat.min_eq_left unsaturated]

theorem sliceBetween?_eq_none_iff :
    sliceBetween? data entry.fileOffset.toNat (entry.fileStop data) = none
      ↔ data.size < entry.fileOffset.toNat := by
  rw [sliceBetween?, fileStop_eq]
  split
  case isTrue inside => exact iff_of_false nofun (by omega)
  case isFalse outside => exact iff_of_true rfl (by omega)

theorem mappedBytes_eq_checkedBytes (entry : Section) (data : Array UInt8) :
    entry.mappedBytes data = entry.checkedBytes data := by
  have cut :
      entry.run data = (sliceBetween? data entry.fileOffset.toNat
        (entry.fileStop data)).getD #[] := by
    rcases Nat.lt_or_ge data.size entry.fileOffset.toNat with beyond | reached
    · rw [sliceBetween?_eq_none_iff.2 beyond]
      exact Array.extract_eq_empty_of_le (by omega)
    · rw [sliceBetween?, fileStop_eq, if_pos (by omega), extract_to_end]
      rfl
  rw [mappedBytes_eq, cut, checkedBytes]

end Section

namespace Binary

variable {binary : Binary} {project : Project} {entry : Section}

theorem apart_of_toProject (loaded : binary.toProject.1 = .ok project) :
    project.image.Apart := by
  have apart := (Section.regions_apart_iff binary.data binary.sections).2
    (sectionsApart_of_toProject loaded)
  exact ((describes_of_toProject loaded).regions.pairwise_iff
    Region.Apart.symm).2 apart

theorem readByte_of_section (loaded : binary.toProject.1 = .ok project)
    (listed : entry ∈ binary.sections)
    {place : UInt32} (inside : place.toNat < entry.mappedSize)
    (reached : entry.address.toNat + place.toNat < wordBound) :
    project.image.readByte (entry.address + place)
      = .ok (entry.byteAt binary.data place.toNat) := by
  have takes : entry.mappedSize ≠ 0 := Nat.ne_of_gt (Nat.zero_lt_of_lt inside)
  have kept : entry ∈ Section.notEmpty binary.sections :=
    List.mem_filter.2 ⟨listed, decide_eq_true takes⟩
  have mapped : entry.region binary.data ∈ project.image.regions :=
    (describes_of_toProject loaded).regions.mem_iff.2 (List.mem_map_of_mem kept)
  have later :
      (entry.address + place).toNat = entry.address.toNat + place.toNat := by
    rw [Address.toNat_add, Nat.mod_eq_of_lt reached]
  have base : (entry.region binary.data).base.toNat = entry.address.toNat := rfl
  have offset : (entry.region binary.data).offset (entry.address + place)
      = place.toNat := by
    rw [Region.offset, later, base, Nat.add_sub_cancel_left]
  have there :
      (entry.region binary.data).bytes[
        (entry.region binary.data).offset (entry.address + place)]?
        = some (entry.byteAt binary.data place.toNat) := by
    rw [offset]
    exact (entry.getElem?_mappedBytes binary.data place.toNat).trans
      (if_pos inside)
  apply (apart_of_toProject loaded).readByte_eq_of_holds mapped
  apply Region.Holds.single _ there
  rw [base, later]
  exact Nat.le_add_right _ _

end Binary

namespace Section

/-- A section is as long in memory as it says there, or in the file if it says
nothing, and has the byte of the file at every place that both its run and the
file reach, and zero elsewhere.  Cutting the run out between two places gives
the same, and fails only if the file ends before the run begins.  A project has
these bytes in its memory. -/
theorem contents_mapped_exactly (entry : Section) (data : Array UInt8) :
    (entry.mappedBytes data).size
        = (if entry.virtualSize = 0 then entry.fileSize else
          entry.virtualSize).toNat
      ∧ (∀ place, (entry.mappedBytes data)[place]?
        = if place < entry.mappedSize then
          some (entry.byteAt data place) else none)
      ∧ entry.mappedBytes data = entry.checkedBytes data
      ∧ (sliceBetween? data entry.fileOffset.toNat (entry.fileStop data) = none
        ↔ data.size < entry.fileOffset.toNat)
      ∧ ∀ (binary : Binary) (project : Project), binary.data = data →
        entry ∈ binary.sections →
        binary.toProject.1 = .ok project →
        ∀ place : UInt32, place.toNat < entry.mappedSize →
          entry.address.toNat + place.toNat < wordBound →
        project.image.readByte (entry.address + place)
          = .ok (entry.byteAt data place.toNat) := by
  refine ⟨?_, entry.getElem?_mappedBytes data,
    entry.mappedBytes_eq_checkedBytes data, sliceBetween?_eq_none_iff, ?_⟩
  · rw [size_mappedBytes, mappedSize]
    by_cases unsized : entry.virtualSize = 0
    · rw [if_neg (not_not.2 unsized), if_pos unsized]
    · rw [if_pos unsized, if_neg unsized]
  · rintro binary project rfl listed loaded place inside reached
    exact Binary.readByte_of_section loaded listed inside reached

theorem contents_mapped_exactly_shuffled :
    ∃ project, Binary.shuffled.toProject.1 = .ok project
      ∧ project.image.readByte (Address.ofNat 8192 + (3 : UInt32)) = .ok 0xc3
      ∧ project.image.readByte (Address.ofNat 8192 + (4 : UInt32)) = .ok 0 := by
  have apart : Binary.shuffled.SectionsApart := by decide +kernel
  obtain ⟨project, loaded⟩ :=
    (Binary.exists_toProject_iff Binary.shuffled).2 apart
  have listed : ⟨".data", .ofNat 8192, 16, 0, 4, ⟨true, true, false⟩⟩
      ∈ Binary.shuffled.sections :=
    List.mem_cons_self
  have mapped := (contents_mapped_exactly _ Binary.shuffled.data).2.2.2.2
    Binary.shuffled project rfl listed loaded
  exact ⟨project, loaded, mapped 3 (by decide) (by decide),
    mapped 4 (by decide) (by decide)⟩

end Section

end DelphiRtti
