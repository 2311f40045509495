import DelphiRtti.Proofs.Project.Mapped
import DelphiRtti.Proofs.Project.Overlap

/-!
# Placing data

An item is placed only where its bytes can be read and no other item is seen in
its way, and items at other addresses always stay.  Two items at the same
address, however, are not always seen to be in the way of each other: one
without bytes meets nothing, and the range of one that reaches the end of the
address space is named by an end that has wrapped.  The listing holds one item
for each address, so there the new item takes the place of the old one.
-/

namespace DelphiRtti

open Text

namespace DataItem

variable {item other : DataItem}

/-- Whether an item, when it is placed, is not seen to meet another
one at the same address. -/
def PassesOver (item other : DataItem) : Prop :=
  item.length = 0 ∨ other.length = 0 ∨ wordBound ≤ item.limit

theorem passesOver_iff (together : other.address = item.address) :
    item.PassesOver other
      ↔ other.intersects item.address (item.address + item.length) = false := by
  have low : item.address.toNat < wordBound := item.address.toNat_lt
  have short : item.length.toNat < wordBound := item.length.toNat_lt
  -- The end of the range wraps exactly if the item ends after the last address,
  -- and is then not after its start.
  have stop : (item.address + item.length).toNat
      = (item.address.toNat + item.length.toNat) % wordBound :=
    Address.toNat_add ..
  rw [PassesOver, intersects, together, stop, limit, limit, together,
    Bool.and_eq_false_iff, decide_eq_false_iff_not, decide_eq_false_iff_not,
    ← UInt32.toNat_inj, ← UInt32.toNat_inj, UInt32.toNat_zero]
  rw [wordBound] at low short ⊢
  omega

end DataItem

namespace Project

variable {project next : Project} {item : DataItem} {address : Address}
  {dataType : DataType}

/-- Whether an item can be placed: it has the length of its type, its bytes are
in one region, and it is not seen to meet any other item. -/
structure Admits (project : Project) (item : DataItem) : Prop where
  measures : project.image.Measures item.address item.dataType item.length.toNat
  enclosed : item.length.toNat = 0
    ∨ ∃ region ∈ project.image.regions,
      region.Encloses item.address item.length.toNat
  elsewhere : ∀ key other, project.dataAt? key = some other →
    key ≠ item.address →
    other.intersects item.address (item.address + item.length) = false
  here : ∀ other, project.dataAt? item.address = some other →
    item.PassesOver other

theorem conflict?_eq_none_iff_admitted (keyed : project.listing.Keyed) :
    project.listing.conflict? item.address (item.address + item.length) = none
      ↔ (∀ key other, project.dataAt? key = some other → key ≠ item.address →
          other.intersects item.address (item.address + item.length) = false)
        ∧ ∀ other, project.dataAt? item.address = some other →
          item.PassesOver other := by
  rw [Listing.conflict?_eq_none_iff]
  constructor
  · intro free
    exact ⟨fun key other listed _ => free listed,
      fun other listed =>
        (DataItem.passesOver_iff (keyed listed)).2 (free listed)⟩
  · rintro ⟨elsewhere, here⟩ key other listed
    by_cases together : key = item.address
    · subst together
      exact (DataItem.passesOver_iff (keyed listed)).1 (here other listed)
    · exact elsewhere key other listed together

theorem Reachable.createData_eq_ok_iff (reachable : project.Reachable) :
    project.createData address dataType = .ok next
      ↔ ∃ item, item.address = address ∧ item.dataType = dataType
        ∧ project.Admits item
        ∧ next = project.withItem item := by
  constructor
  · intro created
    obtain ⟨length, bytes, sized, readable, free, rfl⟩ :=
      createData_eq_ok created
    obtain ⟨elsewhere, here⟩ :=
      (@conflict?_eq_none_iff_admitted _ ⟨address, length, dataType⟩
        reachable.keyed).1 free
    have enclosed := reachable.apart.readable_iff_enclosed.1 ⟨bytes, readable⟩
    exact ⟨⟨address, length, dataType⟩, rfl, rfl,
      ⟨placedLength_eq_ok_iff.1 sized, enclosed, elsewhere, here⟩, rfl⟩
  · rintro ⟨item, rfl, rfl, admits, rfl⟩
    obtain ⟨bytes, readable⟩ :=
      reachable.apart.readable_iff_enclosed.2 admits.enclosed
    have free := (conflict?_eq_none_iff_admitted reachable.keyed).2
      ⟨admits.elsewhere, admits.here⟩
    exact createData_of_free
      (placedLength_eq_ok_iff.2 admits.measures) readable free

theorem dataAt?_withItem (project : Project) (item : DataItem) (key : Address) :
    (project.withItem item).dataAt? key
      = if item.address = key then some item else project.dataAt? key :=
  SortedMap.get?_insert ..

/-- In every reachable project, placing a type either fails and changes nothing,
or succeeds and gives the listing one item.  It succeeds exactly if an item of
this type can be placed.  All items at other addresses stay as they are, and no
item was at the address before, unless that one or the new one is empty or the
new one reaches the end of the address space. -/
theorem placing_adds_or_passes_over (reachable : project.Reachable)
    (address : Address) (dataType : DataType) :
    let answered := project.respond (.createData address dataType)
    ((∃ failure, answered = (.error failure, project))
        ∧ ¬ ∃ item, item.address = address ∧ item.dataType = dataType
          ∧ project.Admits item)
      ∨ ∃ item, item.address = address ∧ item.dataType = dataType
        ∧ project.Admits item
        ∧ answered.1 = .ok ()
        ∧ answered.2 = { project with listing := answered.2.listing }
        ∧ answered.2.dataAt? address = some item
        ∧ (∀ key, key ≠ address → answered.2.dataAt? key = project.dataAt? key)
        ∧ (project.dataAt? address = none
          ∨ ∃ old, project.dataAt? address = some old
            ∧ (item.length = 0 ∨ old.length = 0 ∨ wordBound ≤ item.limit)) := by
  rw [respond]
  cases created : project.createData address dataType with
  | error failure =>
      refine .inl ⟨⟨failure, rfl⟩, ?_⟩
      rintro ⟨item, atAddress, ofType, admits⟩
      have placed :=
        reachable.createData_eq_ok_iff.2 ⟨item, atAddress, ofType, admits, rfl⟩
      cases created.symm.trans placed
  | ok next =>
      obtain ⟨item, rfl, rfl, admits, rfl⟩ :=
        reachable.createData_eq_ok_iff.1 created
      refine .inr ⟨item, rfl, rfl, admits, rfl, rfl, ?_, ?_, ?_⟩
      · exact (dataAt?_withItem project item _).trans (if_pos rfl)
      · intro key elsewhere
        exact (dataAt?_withItem project item key).trans
          (if_neg (Ne.symm elsewhere))
      · cases before : project.dataAt? item.address with
        | none => exact .inl rfl
        | some old => exact .inr ⟨old, rfl, admits.here old before⟩

def topmost : Project :=
  .perform (.placePointer 4294967292 4) <| .perform (.map .lastBytes) .empty

theorem placing_adds_or_passes_over_topmost :
    topmost.Reachable
      ∧ topmost.dataAt? (.ofNat 4294967292)
        = some ⟨.ofNat 4294967292, 4, .pointer .pascalString 4⟩
      ∧ topmost.Admits
        ⟨.ofNat 4294967292, 4, .pointer (.pointer .pascalString 4) 4⟩
      ∧ ∃ item next, topmost.respond (.createData (.ofNat 4294967292)
          (.pointer (.pointer .pascalString 4) 4)) = (.ok (), next)
        ∧ item.dataType = .pointer (.pointer .pascalString 4) 4
        ∧ next.dataAt? (.ofNat 4294967292) = some item := by
  have reachable : topmost.Reachable := .perform _ (.perform _ .empty)
  have single : ∀ entry ∈ topmost.listing.toList,
      entry.1 = .ofNat 4294967292 := by decide +kernel
  have region : Region.lastBytes ∈ topmost.image.regions := by decide +kernel
  have admits : topmost.Admits
      ⟨.ofNat 4294967292, 4, .pointer (.pointer .pascalString 4) 4⟩ := by
    refine ⟨.fixed (by rfl), .inr ⟨_, region, by decide, by decide⟩, ?_, ?_⟩
    · intro key other listed elsewhere
      exact (elsewhere (single _ (SortedMap.get?_eq_some_iff.1 listed))).elim
    · intro other _
      exact .inr (.inr (by decide))
  refine ⟨reachable, by decide +kernel, admits, ?_⟩
  rcases placing_adds_or_passes_over reachable (.ofNat 4294967292)
    (.pointer (.pointer .pascalString 4) 4) with
    ⟨_, refused⟩ | ⟨item, _, ofType, _, answered, _, placed, _⟩
  · exact (refused ⟨_, rfl, rfl, admits⟩).elim
  · exact ⟨item, _, Prod.ext answered rfl, ofType, placed⟩

def pointed : Project :=
  .perform (.placePointer 4096 4) <|
    .perform
      (.map ⟨"image", .ofNat 4096, #[0, 0, 0, 0], ⟨true, false, false⟩⟩) .empty

/-- The pointer is lost to an empty structure that is placed at its address. -/
theorem placing_discards_item :
    pointed.Reachable
      ∧ pointed.dataAt? (.ofNat 4096)
        = some ⟨.ofNat 4096, 4, .pointer .pascalString 4⟩
      ∧ ∃ next, pointed.respond
        (.createData (.ofNat 4096) (.struct (.named "TEmpty"))) = (.ok (), next)
        ∧ next.dataAt? (.ofNat 4096)
          = some ⟨.ofNat 4096, 0, .struct (.named "TEmpty")⟩ :=
  ⟨.perform _ (.perform _ .empty), by decide +kernel, _, rfl, by decide +kernel⟩

end Project

end DelphiRtti
