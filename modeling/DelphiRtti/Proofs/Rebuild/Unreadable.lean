import DelphiRtti.Proofs.Rebuild.Refusal

/-!
# Unreadable metadata

A rebuild finds its metadata unreadable only while it reads the record
or the name.  The record is read before anything is changed, but the
byte at which the name starts is cleared before the length of the name
is known to fit into its region.
-/

namespace DelphiRtti

open Text

namespace Project

/-- How a name that starts at an address can be unreadable, with the
listing that is left. -/
inductive UnreadableName (project : Project) (start : Address) :
    MemoryError → Listing → Prop where
  /-- Where no memory is mapped, there was nothing to clear. -/
  | length {cause : MemoryError}
      (unread : project.image.readByte start = .error cause) :
      UnreadableName project start cause project.listing
  /-- The name goes on after the end of its region. -/
  | text {cause : MemoryError} {length : UInt8}
      (sized : project.image.readByte start = .ok length)
      (unread : project.image.read start (1 + length.toNat) = .error cause) :
      UnreadableName project start cause
        (project.listing.clear start (start + (1 : UInt32)))
  /-- The name starts at the last address, in a region that goes on, and is
  placed before it is read from address zero on. -/
  | wrapped {cause : MemoryError} {length : UInt8} {bytes : List UInt8}
      (last : wordBound ≤ start.toNat + 1)
      (sized : project.image.readByte start = .ok length)
      (covered : project.image.read start (1 + length.toNat) = .ok bytes)
      (free :
        project.listing.conflict? start (start + (1 + length.toUInt32)) = none)
      (unread :
        project.image.read (start + (1 : UInt32)) length.toNat = .error cause) :
      UnreadableName project start cause
        (project.listing.insert start
          ⟨start, 1 + length.toUInt32, .pascalString⟩)

variable {project : Project} {start : Address} {cause : MemoryError}
  {listing : Listing} {length : UInt8} {bytes : List UInt8}

theorem nameAt_of_misplaced {refusal : HostError}
    (refused : (project.clearData start
      (start + (1 : UInt32))).createData start .pascalString = .error refusal) :
    project.nameAt start = .error (ClassName.placementFailure refusal)
      ∧ (project.afterName start).listing
        = project.listing.clear start (start + (1 : UInt32)) := by
  rw [nameAt_eq, afterName, refused]
  exact ⟨rfl, rfl⟩

theorem createName_of_unmapped
    (sized : project.image.readByte start = .error cause) :
    (project.clearData start (start + (1 : UInt32))).createData
      start .pascalString = .error (.memory cause) := by
  rw [createData_pascalString]
  simp only [clearData, sized]

theorem createName_of_cut (sized : project.image.readByte start = .ok length)
    (unread : project.image.read start (1 + length.toNat) = .error cause) :
    (project.clearData start (start + (1 : UInt32))).createData
      start .pascalString = .error (.memory cause) := by
  rw [createData_pascalString]
  simp only [clearData, toNat_stringLength, sized, unread]

theorem createName_of_taken
    {other : DataItem} (sized : project.image.readByte start = .ok length)
    (covered : project.image.read start (1 + length.toNat) = .ok bytes)
    (taken : (project.listing.clear start (start + (1 : UInt32))).conflict?
      start (start + (1 + length.toUInt32)) = some other) :
    (project.clearData start (start + (1 : UInt32))).createData
      start .pascalString
      = .error (.conflictingData other.dataType.name other.address) := by
  rw [createData_pascalString]
  simp only [clearData, toNat_stringLength, sized, covered, taken]

theorem nameAt_of_free (sized : project.image.readByte start = .ok length)
    (covered : project.image.read start (1 + length.toNat) = .ok bytes)
    (free : (project.listing.clear start (start + (1 : UInt32))).conflict? start
      (start + (1 + length.toUInt32)) = none) :
    project.nameAt start
        = ((project.image.read (start + (1 : UInt32)) length.toNat).mapError
          .metadataUnreadable).map
          ClassName.mk
      ∧ (project.afterName start).listing
        = project.listing.placeAnew
          ⟨start, 1 + length.toUInt32, .pascalString⟩ := by
  rw [nameAt_eq, afterName, createData_pascalString]
  simp only [clearData, toNat_stringLength, sized, covered, free,
    Image.nameBytes, mapError_ok]
  exact ⟨rfl, rfl⟩

/-- A name that begins before the last address can be read once it is placed. -/
theorem wordBound_le_of_unread (apart : project.image.Apart)
    (covered : project.image.read start (1 + length.toNat) = .ok bytes)
    (unread : project.image.read (start + (1 : UInt32)) length.toNat
      = .error cause) : wordBound ≤ start.toNat + 1 := by
  by_contra inside
  have readable : project.image.read (start + (1 : UInt32)) length.toNat
      = .ok (bytes.drop 1) :=
    apart.read_rest covered (.inr (Nat.lt_of_not_le inside))
  cases unread.symm.trans readable

theorem unreadableName_of_nameAt
    (apart : project.image.Apart) (mapped : project.Mapped)
    (failed : project.nameAt start = .error (.metadataUnreadable cause)) :
    project.UnreadableName start cause (project.afterName start).listing := by
  cases sized : project.image.readByte start with
  | error failure =>
      obtain ⟨outcome, listing⟩ :=
        nameAt_of_misplaced (createName_of_unmapped sized)
      cases outcome.symm.trans failed
      rw [listing, mapped.clear_of_unreadable sized]
      exact .length sized
  | ok length =>
      cases covered : project.image.read start (1 + length.toNat) with
      | error failure =>
          obtain ⟨outcome, listing⟩ :=
            nameAt_of_misplaced (createName_of_cut sized covered)
          cases outcome.symm.trans failed
          rw [listing]
          exact .text sized covered
      | ok bytes =>
          cases taken :
            (project.listing.clear start (start + (1 : UInt32))).conflict? start
              (start + (1 + length.toUInt32)) with
          | some other =>
              have outcome := (nameAt_of_misplaced
                (createName_of_taken sized covered taken)).1
              cases outcome.symm.trans failed
          | none =>
              obtain ⟨outcome, listing⟩ := nameAt_of_free sized covered taken
              rw [outcome] at failed
              cases unread :
                project.image.read (start + (1 : UInt32)) length.toNat with
              | ok rest =>
                  rw [unread] at failed
                  cases failed
              | error failure =>
                  rw [unread] at failed
                  cases failed
                  have last := wordBound_le_of_unread apart covered unread
                  rw [Listing.clear_last last] at taken
                  rw [listing, Listing.placeAnew, Listing.clear_last last]
                  exact .wrapped last sized covered taken unread

/-- A reachable project meets its unreadable names in no other ways, and in each
of them the name is found unreadable. -/
theorem nameAt_unreadable_iff (apart : project.image.Apart)
    (mapped : project.Mapped) :
    project.nameAt start = .error (.metadataUnreadable cause)
        ∧ (project.afterName start).listing = listing
      ↔ project.UnreadableName start cause listing := by
  constructor
  · rintro ⟨failed, rfl⟩
    exact unreadableName_of_nameAt apart mapped failed
  · intro unreadable
    cases unreadable with
    | length unread =>
        rw [← mapped.clear_of_unreadable unread]
        exact nameAt_of_misplaced (createName_of_unmapped unread)
    | text sized unread =>
        exact nameAt_of_misplaced (createName_of_cut sized unread)
    | wrapped last sized covered free unread =>
        rw [← Listing.clear_last last project.listing] at free
        obtain ⟨outcome, listing⟩ := nameAt_of_free sized covered free
        rw [unread] at outcome
        rw [Listing.placeAnew, Listing.clear_last last] at listing
        exact ⟨outcome, listing⟩

end Project

variable {project last : Project} {address : Address} {dialect : Dialect}
  {cause : MemoryError}

theorem Rebuild.stages_unreadable_iff
    (root : (project.namespace? .global).isSome) :
    (stages address dialect).result Project.host project
        = (.error (.metadataUnreadable cause), last)
      ↔ project.image.recordAt address dialect = .error cause ∧ last = project
        ∨ ∃ record, project.image.recordAt address dialect = .ok record
          ∧ project.nameAt record.nameAddress
            = .error (.metadataUnreadable cause)
          ∧ last = project.afterName record.nameAddress := by
  rw [stages_eq_error_iff]
  constructor
  · intro refused
    cases refused with
    | record unread => exact .inl ⟨unread, rfl⟩
    | name readable unnamed => exact .inr ⟨_, readable, unnamed, rfl⟩
    | created readable named accepted refused =>
        rw [← project.namespace?_afterName] at root
        rcases ClassNamespace.create_eq_error root refused with other | other
        · cases other
        · cases other
  · intro unreadable
    rcases unreadable with ⟨unread, rfl⟩ | ⟨record, readable, unnamed, rfl⟩
    · exact .record unread
    · exact .name readable unnamed

/-- A rebuild of a reachable project finds its metadata unreadable exactly if
the record cannot be read, which leaves the project as it was, or the name
cannot, which leaves everything but the listing as it was. -/
theorem rebuild_unreadable_iff (reachable : project.Reachable) :
    (rebuild address dialect Project.host project).value
          = .error (.metadataUnreadable cause)
        ∧ (rebuild address dialect Project.host project).state = last
      ↔ project.image.recordAt address dialect = .error cause ∧ last = project
        ∨ ∃ record listing, project.image.recordAt address dialect = .ok record
          ∧ project.UnreadableName record.nameAddress cause listing
          ∧ last = { project with listing } := by
  rw [← Prod.mk.injEq, rebuild_result,
    Rebuild.stages_unreadable_iff reachable.rooted.global_known]
  apply or_congr_right
  constructor
  · intro unreadable
    obtain ⟨record, found, unread, rfl⟩ := unreadable
    exact ⟨record, _, found,
      Project.unreadableName_of_nameAt reachable.apart reachable.mapped unread,
      Project.afterName_frame ..⟩
  · intro unreadable
    obtain ⟨record, listing, found, way, rfl⟩ := unreadable
    obtain ⟨unread, rfl⟩ :=
      (Project.nameAt_unreadable_iff reachable.apart reachable.mapped).2 way
    exact ⟨record, found, unread, (Project.afterName_frame ..).symm⟩

/-- A record whose name is cut off by the end of the region, after
three of its nine bytes. -/
def Region.cutName : Region :=
  ⟨"image", .ofNat 4096, #[0, 0, 0, 0, 8, 16, 0, 0, 9, 0, 0, 0],
    ⟨true, false, false⟩⟩

/-- A project in which the analyst has placed a pointer where that
name starts. -/
def Project.cutName : Project :=
  .perform (.answer (.createData (.ofNat 4104) (.pointer .pascalString 4)))
    (.perform (.map .cutName) .empty)

theorem Project.cutName_reachable : Project.cutName.Reachable := .perform _
    (.perform _ .empty)

theorem Project.cutName_recordAt :
    Project.cutName.image.recordAt (.ofNat 4096) .compact
      = .ok ⟨.ofNat 4096, .ofNat 0, .ofNat 4104⟩ := rfl

theorem Project.cutName_readByte : Project.cutName.image.readByte
    (.ofNat 4104) = .ok 9 := rfl

theorem Project.cutName_read :
    Project.cutName.image.read (.ofNat 4104) 10
      = .error (.truncated (.ofNat 4104) 10) := rfl

theorem rebuild_unreadable_cutName :
    (rebuild (.ofNat 4096) .compact Project.host .cutName).value
        = .error (.metadataUnreadable (.truncated (.ofNat 4104) 10))
      ∧ (rebuild (.ofNat 4096) .compact Project.host .cutName).state
        = { Project.cutName with
            listing :=
              Project.cutName.listing.clear (.ofNat 4104) (.ofNat 4105) } := by
  have way :=
    Project.UnreadableName.text Project.cutName_readByte Project.cutName_read
  exact (rebuild_unreadable_iff Project.cutName_reachable).2
    (.inr ⟨_, _, Project.cutName_recordAt, way, rfl⟩)

/-- The pointer is gone, so a rebuild that finds its metadata unreadable
may change the project. -/
theorem rebuild_unreadable_changes :
    Project.cutName.Reachable
      ∧ (rebuild (.ofNat 4096) .compact Project.host .cutName).value
        = .error (.metadataUnreadable (.truncated (.ofNat 4104) 10))
      ∧ Project.cutName.dataAt? (.ofNat 4104)
        = some ⟨.ofNat 4104, 4, .pointer .pascalString 4⟩
      ∧ (rebuild (.ofNat 4096) .compact Project.host .cutName).state.dataAt?
        (.ofNat 4104) = none
      ∧ (rebuild (.ofNat 4096) .compact Project.host .cutName).state
        ≠ .cutName := by
  have cut :=
    Project.createName_of_cut Project.cutName_readByte Project.cutName_read
  have unread := (Project.nameAt_of_misplaced cut).1
  have root := Project.cutName_reachable.rooted.global_known
  have ran := (Rebuild.stages_unreadable_iff root).2
    (.inr ⟨_, Project.cutName_recordAt, unread, rfl⟩)
  have placed : Project.cutName.dataAt? (.ofNat 4104)
      = some ⟨.ofNat 4104, 4, .pointer .pascalString 4⟩ := by
    decide +kernel
  have gone :
      (rebuild (.ofNat 4096) .compact Project.host .cutName).state.dataAt?
        (.ofNat 4104) = none := by
    decide +kernel
  refine ⟨Project.cutName_reachable, ?_, placed, gone, ?_⟩
  · rw [rebuild_value, ran]
  · intro same
    rw [same, placed] at gone
    cases gone

end DelphiRtti
