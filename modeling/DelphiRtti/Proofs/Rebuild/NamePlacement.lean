import DelphiRtti.Proofs.Rebuild.Unreadable

/-!
# Names that can be placed

Before a name is placed, what lies at its length byte is cleared, and nothing
else is.  So data that starts before the name or with it is never in the way,
however far it goes, but data that starts inside the text is.
-/

namespace DelphiRtti

open Text

theorem ClassName.toNat_text (name : ClassName) :
    name.text.toList.map Char.toNat = name.bytes.map UInt8.toNat := by
  rw [text, String.toList_ofList, latinText, List.map_map]
  exact List.map_congr_left fun byte _ => toNat_charOfByte byte

/-- Whether an item starts at one of the bytes after the length byte
of a name. -/
def DataItem.StartsWithin (item : DataItem) (start : Address)
    (length : UInt8) : Prop :=
  start.toNat < item.address.toNat
    ∧ item.address.toNat ≤ start.toNat + length.toNat

instance (item : DataItem) (start : Address) (length : UInt8) :
    Decidable (item.StartsWithin start length) :=
  inferInstanceAs (Decidable (_ ∧ _))

variable {project : Project} {region : Region} {start key : Address}
  {length : UInt8} {text : List UInt8} {item : DataItem}

theorem Address.toNat_add_stringLength
    (inside : start.toNat + 1 + length.toNat < wordBound) :
    (start + (1 + length.toUInt32)).toNat = start.toNat + 1 + length.toNat := by
  rw [Address.toNat_add, toNat_stringLength, ← Nat.add_assoc,
    Nat.mod_eq_of_lt inside]

theorem DataItem.startsWithin_iff
    (inside : start.toNat + 1 + length.toNat < wordBound) :
    item.StartsWithin start length
      ↔ item.intersects start (start + (1 : UInt32)) = false
        ∧ item.intersects start (start + (1 + length.toUInt32)) = true := by
  have next : (start + (1 : UInt32)).toNat = start.toNat + 1 := by
    rw [Address.toNat_add, UInt32.toNat_one, Nat.mod_eq_of_lt (by omega)]
  rw [StartsWithin, intersects, intersects, next,
    Address.toNat_add_stringLength inside, limit, Bool.and_eq_true,
    Bool.and_eq_false_iff, decide_eq_true_eq, decide_eq_true_eq,
    decide_eq_false_iff_not, decide_eq_false_iff_not]
  omega

namespace Project

/-- Whether a name with this text is in one region, and ends before
the last address. -/
structure HoldsName (project : Project) (start : Address) (length : UInt8)
    (text : List UInt8) : Prop where
  held : ∃ region ∈ project.image.regions, region.Holds start (length :: text)
  sized : text.length = length.toNat
  inside : start.toNat + 1 + length.toNat < wordBound

namespace HoldsName

theorem readByte (holds : project.HoldsName start length text)
    (apart : project.image.Apart) :
    project.image.readByte start = .ok length := by
  obtain ⟨region, listed, held⟩ := holds.held
  exact apart.readByte_eq_of_holds listed held

theorem read (holds : project.HoldsName start length text)
    (apart : project.image.Apart) :
    project.image.read start (1 + length.toNat) = .ok (length :: text) := by
  obtain ⟨region, listed, held⟩ := holds.held
  rw [← holds.sized, Nat.add_comm]
  exact apart.read_eq_of_holds listed held

theorem readText (holds : project.HoldsName start length text)
    (apart : project.image.Apart) :
    project.image.read (start + (1 : UInt32)) length.toNat = .ok text := by
  obtain ⟨region, listed, held⟩ := holds.held
  have next : start.toNat + 1 < wordBound :=
    Nat.lt_of_le_of_lt (Nat.le_add_right ..) holds.inside
  rw [← holds.sized]
  exact apart.read_eq_of_holds listed (held.next next)

theorem decodes
    (holds : project.HoldsName start length text) (apart : project.image.Apart)
    (free : ∀ key item, project.dataAt? key = some item →
      ¬ item.StartsWithin start length) :
    project.nameAt start = .ok ⟨text⟩
      ∧ (project.afterName start).dataAt? start
        = some ⟨start, 1 + length.toUInt32, .pascalString⟩ := by
  have clear :
      (project.listing.clear start (start + (1 : UInt32))).conflict? start
        (start + (1 + length.toUInt32)) = none := by
    rw [Listing.conflict?_eq_none_iff]
    intro key item found
    obtain ⟨listed, kept⟩ := Listing.get?_clear_eq_some_iff.1 found
    rw [Bool.eq_false_iff]
    intro meets
    exact free key item listed
      ((DataItem.startsWithin_iff holds.inside).2 ⟨kept, meets⟩)
  obtain ⟨outcome, listing⟩ :=
    nameAt_of_free (holds.readByte apart) (holds.read apart) clear
  rw [holds.readText apart] at outcome
  refine ⟨outcome, ?_⟩
  rw [dataAt?, listing, Listing.placeAnew, SortedMap.get?_insert, if_pos rfl]

theorem refused (holds : project.HoldsName start length text)
    (apart : project.image.Apart) (listed : project.dataAt? key = some item)
    (within : item.StartsWithin start length) :
    ∃ key other, project.dataAt? key = some other
      ∧ other.StartsWithin start length
      ∧ project.nameAt start
        = .error
          (.host (.conflictingData other.dataType.name other.address)) := by
  obtain ⟨kept, meets⟩ := (DataItem.startsWithin_iff holds.inside).1 within
  have remains := Listing.get?_clear_eq_some_iff.2 ⟨listed, kept⟩
  cases taken :
    (project.listing.clear start (start + (1 : UInt32))).conflict? start
      (start + (1 + length.toUInt32)) with
  | none =>
      rw [Listing.conflict?_eq_none_iff.1 taken remains] at meets
      cases meets
  | some other =>
      obtain ⟨place, found, otherMeets⟩ := Listing.conflict?_eq_some taken
      obtain ⟨otherListed, otherKept⟩ := Listing.get?_clear_eq_some_iff.1 found
      have refusal :=
        createName_of_taken (holds.readByte apart) (holds.read apart) taken
      exact ⟨place, other, otherListed,
        (DataItem.startsWithin_iff holds.inside).2 ⟨otherKept, otherMeets⟩,
        (nameAt_of_misplaced refusal).1⟩

end HoldsName

/-- In every reachable project, a name that is in one region and ends before the
last address is decoded, byte for byte, and placed as a string, exactly if no
item of the listing starts inside its text.  Otherwise such an item is what the
decoding fails for.  The decoded name has one character for each byte. -/
theorem readable_name_decodes_iff (reachable : project.Reachable)
    (holds : project.HoldsName start length text) :
    let decoded := (ClassName.read start).result Project.host project
    (decoded.1 = .ok ⟨text⟩
        ∧ decoded.2.dataAt? start
          = some ⟨start, 1 + length.toUInt32, .pascalString⟩
      ↔ ∀ key item, project.dataAt? key = some item →
        ¬ item.StartsWithin start length)
    ∧ (∀ failure, decoded.1 = .error failure →
      ∃ key item, project.dataAt? key = some item
      ∧ item.StartsWithin start length
      ∧ failure = .host (.conflictingData item.dataType.name item.address))
    ∧ (ClassName.mk text).text.toList.map Char.toNat
      = text.map UInt8.toNat := by
  intro decoded
  have outcome : decoded = (project.nameAt start, project.afterName start) :=
    ClassName.read_result start
  rw [outcome]
  by_cases free : ∀ key item, project.dataAt? key = some item →
    ¬ item.StartsWithin start length
  · obtain ⟨named, placed⟩ := holds.decodes reachable.apart free
    refine ⟨iff_of_true ⟨named, placed⟩ free, ?_, ClassName.toNat_text _⟩
    intro failure failed
    cases named.symm.trans failed
  · obtain ⟨key, item, listed, within⟩ : ∃ key item,
      project.dataAt? key = some item
        ∧ item.StartsWithin start length := by
      simpa using free
    obtain ⟨place, other, otherListed, otherWithin, refusal⟩ :=
      holds.refused reachable.apart listed within
    refine ⟨iff_of_false ?_ free, ?_, ClassName.toNat_text _⟩
    · rintro ⟨named, _⟩
      cases named.symm.trans refusal
    · intro failure failed
      cases refusal.symm.trans failed
      exact ⟨place, other, otherListed, otherWithin, rfl⟩

end Project

def Region.shortName : Region :=
  ⟨"image", .ofNat 4096, #[0, 0, 2, 84, 65, 0, 0], ⟨true, false, false⟩⟩

namespace Project

/-- A project in which pointers are placed over the start of the name
and after its end. -/
def nameMarkedAround : Project :=
  .perform (.placePointer 4101 2) <| .perform (.placePointer 4096 4) <|
    .perform (.map .shortName) .empty

theorem readable_name_decodes_marked :
    nameMarkedAround.Reachable
      ∧ nameMarkedAround.HoldsName (.ofNat 4098) 2 [84, 65]
      ∧ nameMarkedAround.dataAt? (.ofNat 4096)
        = some ⟨.ofNat 4096, 4, .pointer .pascalString 4⟩
      ∧ nameMarkedAround.dataAt? (.ofNat 4101)
        = some ⟨.ofNat 4101, 2, .pointer .pascalString 2⟩
      ∧ ((ClassName.read (.ofNat 4098)).result Project.host nameMarkedAround).1
        = .ok ⟨[84, 65]⟩ := by
  have reachable : nameMarkedAround.Reachable :=
    .perform _ (.perform _ (.perform _ .empty))
  have holds : nameMarkedAround.HoldsName (.ofNat 4098) 2 [84, 65] :=
    ⟨⟨.shortName, by decide, by decide, by decide⟩, rfl, by decide⟩
  refine ⟨reachable, holds, by decide +kernel, by decide +kernel, ?_⟩
  refine ((readable_name_decodes_iff reachable holds).1.2 ?_).1
  intro key item listed
  have apart : ∀ entry ∈ nameMarkedAround.listing.toList,
      ¬ entry.2.StartsWithin (.ofNat 4098) 2 := by
    decide +kernel
  exact apart _ (SortedMap.get?_eq_some_iff.1 listed)

/-- A project in which a pointer is placed on the first character of
the name. -/
def nameMarkedWithin : Project :=
  .perform (.placePointer 4099 1) <| .perform (.map .shortName) .empty

/-- The name is in one region, but the pointer is in its way. -/
theorem readable_name_fails :
    nameMarkedWithin.Reachable
      ∧ nameMarkedWithin.HoldsName (.ofNat 4098) 2 [84, 65]
      ∧ ((ClassName.read (.ofNat 4098)).result Project.host nameMarkedWithin).1
        = .error (.host (.conflictingData "PascalString255 *" (.ofNat 4099)))
      ∧ ((ClassName.read (.ofNat 4098)).result Project.host
        nameMarkedWithin).2.dataAt? (.ofNat 4098)
        = none := by
  have holds : nameMarkedWithin.HoldsName (.ofNat 4098) 2 [84, 65] :=
    ⟨⟨.shortName, by decide, by decide, by decide⟩, rfl, by decide⟩
  have reachable : nameMarkedWithin.Reachable := .perform _ (.perform _ .empty)
  have taken :
      (nameMarkedWithin.listing.clear (.ofNat 4098) (.ofNat 4099)).conflict?
        (.ofNat 4098) (.ofNat 4101)
        = some ⟨.ofNat 4099, 1, .pointer .pascalString 1⟩ := by
    decide +kernel
  have refusal := nameAt_of_misplaced
    (createName_of_taken (holds.readByte reachable.apart)
      (holds.read reachable.apart) taken)
  refine ⟨reachable, holds, ?_, by decide +kernel⟩
  rw [ClassName.read_result, refusal.1]
  rfl

end Project

end DelphiRtti
