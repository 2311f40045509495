import Mathlib.Order.CompletePartialOrder
import Mathlib.Order.Interval.Set.Disjoint
import DelphiRtti.Binary
import DelphiRtti.Proofs.Memory.Mapping

/-!
# The sections of a binary in memory

The sections that are not empty are mapped one after another.  That succeeds
exactly if no two of them meet, in whatever order they come, and then the memory
is made up of their regions.
-/

namespace DelphiRtti

namespace Section

variable {entry other : Section} {data : Array UInt8}

/-- The places of a section in memory, as plain numbers: they may be
2^32 or more. -/
def range (entry : Section) : Set Nat :=
  Set.Ico entry.address.toNat (entry.address.toNat + entry.mappedSize)

instance (entry : Section) (place : Nat) : Decidable (place ∈ entry.range) :=
  inferInstanceAs (Decidable (_ ∧ _))

instance (entry other : Section) :
    Decidable (Disjoint entry.range other.range) :=
  decidable_of_iff _ Set.Ico_disjoint_Ico.symm

theorem size_mappedBytes (entry : Section) (data : Array UInt8) :
    (entry.mappedBytes data).size = entry.mappedSize := by
  rw [mappedBytes, Array.size_append, Array.size_replicate, Array.size_extract]
  omega

theorem isEmpty_region :
    (entry.region data).bytes.isEmpty = true ↔ entry.mappedSize = 0 := by
  rw [Array.isEmpty_iff_size_eq_zero, region, size_mappedBytes]

theorem limit_region (entry : Section) (data : Array UInt8) :
    (entry.region data).limit = entry.address.toNat + entry.mappedSize := by
  rw [Region.limit, region, size_mappedBytes]

theorem contains_region {address : Address} :
    (entry.region data).contains address = true
      ↔ address.toNat ∈ entry.range := by
  rw [Region.contains_iff, limit_region]
  rfl

theorem apart_region_iff (notEmpty : entry.mappedSize ≠ 0)
    (otherNotEmpty : other.mappedSize ≠ 0) :
    (entry.region data).Apart (other.region data)
      ↔ Disjoint entry.range other.range := by
  have base (entry : Section) : (entry.region data).base.toNat
      = entry.address.toNat := rfl
  rw [Region.Apart, Region.overlaps, limit_region, limit_region, base, base,
    range, range, Set.Ico_disjoint_Ico, Bool.and_eq_false_iff,
    decide_eq_false_iff_not, decide_eq_false_iff_not]
  omega

def notEmpty (sections : List Section) : List Section :=
  sections.filter fun entry => entry.mappedSize ≠ 0

def regions (data : Array UInt8) (sections : List Section) : List Region :=
  (notEmpty sections).map fun entry => entry.region data

theorem regions_cons_of_empty (empty : entry.mappedSize = 0)
    (rest : List Section) :
    regions data (entry :: rest) = regions data rest := by
  rw [regions, notEmpty, List.filter_cons_of_neg (by simpa using empty)]
  rfl

theorem regions_cons_of_notEmpty
    (takes : entry.mappedSize ≠ 0) (rest : List Section) :
    regions data (entry :: rest) = entry.region data :: regions data rest := by
  rw [regions, notEmpty, List.filter_cons_of_pos (by simpa using takes)]
  rfl

theorem regions_apart_iff (data : Array UInt8) (sections : List Section) :
    (regions data sections).Pairwise Region.Apart
      ↔ (notEmpty sections).Pairwise fun left right =>
        Disjoint left.range right.range := by
  rw [regions, List.pairwise_map]
  apply List.Pairwise.iff_of_mem
  intro left right leftThere rightThere
  have takes := (List.mem_filter.1 leftThere).2
  have otherTakes := (List.mem_filter.1 rightThere).2
  rw [decide_eq_true_eq] at takes otherTakes
  exact apart_region_iff takes otherTakes

end Section

namespace Binary

open Section

variable {project next : Project} {data : Array UInt8} {entry : Section}
  {sections : List Section}

theorem mapSections_cons_of_empty (empty : entry.mappedSize = 0) :
    mapSections data project (entry :: sections)
      = mapSections data project sections := by
  rw [mapSections]
  exact if_pos (isEmpty_region.2 empty)

theorem mapSections_cons_of_notEmpty (takes : entry.mappedSize ≠ 0) :
    (mapSections data project (entry :: sections)).1
      = match project.map (entry.region data) with
        | .error cause => .error (.unmappable entry.name cause)
        | .ok mapped => (mapSections data mapped sections).1 := by
  rw [mapSections]
  simp only [if_neg (fun empty => takes (isEmpty_region.1 empty))]
  cases project.map (entry.region data) with
  | error => rfl
  | ok => rfl

/-- Sections are mapped as their regions are, and nothing changes but
the memory. -/
theorem mapSections_eq_ok_iff :
    (mapSections data project sections).1 = .ok next
      ↔ ∃ image, project.image.mapAll (regions data sections) = .ok image
        ∧ next = { project with image } := by
  induction sections generalizing project with
  | nil =>
      constructor
      · intro mapped
        exact ⟨project.image, rfl, (Except.ok.inj mapped).symm⟩
      · rintro ⟨image, mappedAll, rfl⟩
        cases mappedAll
        rfl
  | cons entry rest induction =>
      by_cases empty : entry.mappedSize = 0
      · rw [mapSections_cons_of_empty empty, regions_cons_of_empty empty]
        exact induction
      · rw [mapSections_cons_of_notEmpty empty, regions_cons_of_notEmpty empty,
          Project.map, Image.mapAll]
        cases project.image.map (entry.region data) with
        | error cause =>
            constructor
            · intro mapped
              cases mapped
            · rintro ⟨image, mappedAll, _⟩
              cases mappedAll
        | ok image => exact induction

/-- Sections are mapped exactly if their regions overlap neither each
other nor what is there. -/
theorem exists_mapSections_eq_ok_iff (apart : project.image.Apart)
    (data : Array UInt8) (sections : List Section) :
    (∃ next, (mapSections data project sections).1 = .ok next)
      ↔ (project.image.regions ++ regions data sections).Pairwise
        Region.Apart := by
  rw [← Image.exists_mapAll_eq_ok_iff apart]
  constructor
  · rintro ⟨next, mapped⟩
    obtain ⟨image, mappedAll, _⟩ := mapSections_eq_ok_iff.1 mapped
    exact ⟨image, mappedAll⟩
  · rintro ⟨image, mappedAll⟩
    exact ⟨_, mapSections_eq_ok_iff.2 ⟨image, mappedAll, rfl⟩⟩

/-- What mapping sections makes of nothing: the memory of their
regions, which lie apart. -/
theorem mapSections_empty_eq_ok
    (mapped : (mapSections data .empty sections).1 = .ok next) :
    next = .ofImage next.image ∧ next.image.Apart
      ∧ next.image.regions.Perm (regions data sections) := by
  obtain ⟨image, mappedAll, rfl⟩ := mapSections_eq_ok_iff.1 mapped
  have listed : image.regions.Perm (regions data sections) :=
    Image.mapAll_eq_ok mappedAll
  have apart : (regions data sections).Pairwise Region.Apart :=
    (Image.exists_mapAll_eq_ok_iff Image.apart_empty _).1 ⟨image, mappedAll⟩
  exact ⟨rfl, (listed.pairwise_iff Region.Apart.symm).2 apart, listed⟩

/-- An address is executable in the mapped memory exactly if an
executable section reaches it. -/
theorem isExecutable_mapSections_iff
    (mapped : (mapSections data .empty sections).1 = .ok next)
    (address : Address) :
    next.image.isExecutable address = true
      ↔ ∃ entry ∈ sections, address.toNat ∈ entry.range
        ∧ entry.protection.executable = true := by
  obtain ⟨_, apart, listed⟩ := mapSections_empty_eq_ok mapped
  rw [apart.isExecutable_iff]
  constructor
  · rintro ⟨region, regionListed, inside, executable⟩
    obtain ⟨entry, entryListed, rfl⟩ :=
      List.mem_map.1 (listed.mem_iff.1 regionListed)
    exact ⟨entry, (List.mem_filter.1 entryListed).1,
      contains_region.1 inside, executable⟩
  · rintro ⟨entry, entryListed, inside, executable⟩
    have takes : entry.mappedSize ≠ 0 := by
      have bounds : entry.address.toNat ≤ address.toNat
        ∧ address.toNat < entry.address.toNat + entry.mappedSize := inside
      omega
    have entryKept : entry ∈ notEmpty sections :=
      List.mem_filter.2 ⟨entryListed, decide_eq_true takes⟩
    exact ⟨entry.region data, listed.mem_iff.2 (List.mem_map_of_mem entryKept),
      contains_region.2 inside, executable⟩

end Binary

end DelphiRtti
