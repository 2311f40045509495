import DelphiRtti.Proofs.Project.Mapped

/-!
# Clearing data

Clearing a range removes the items that share an address with it.
What is placed inside the range afterwards meets no item, so only the
memory can refuse it.
-/

namespace DelphiRtti

open Text

namespace DataItem

variable {item : DataItem} {start stop address : Address} {length : UInt32}

/-- An item with bytes meets a range exactly if it covers an address in it. -/
theorem intersects_iff_covers (notEmpty : start < stop)
    (positive : 0 < item.length.toNat) :
    item.intersects start stop = true
      ↔ ∃ place : Address, item.Covers place ∧ start.toNat ≤ place.toNat
        ∧ place.toNat < stop.toNat := by
  have ordered : start.toNat < stop.toNat := notEmpty
  have own : item.address.toNat < item.limit := Nat.lt_add_of_pos_right positive
  rw [intersects, Bool.and_eq_true, decide_eq_true_eq, decide_eq_true_eq]
  constructor
  · rintro ⟨before, after⟩
    rcases Nat.le_total item.address.toNat start.toNat with early | late
    · exact ⟨start, ⟨early, after⟩, Nat.le_refl _, ordered⟩
    · exact ⟨item.address, ⟨Nat.le_refl _, own⟩, late, before⟩
  · rintro ⟨place, ⟨low, high⟩, first, last⟩
    exact ⟨Nat.lt_of_le_of_lt low last, Nat.lt_of_le_of_lt first high⟩

theorem intersects_of_inside (low : start.toNat ≤ address.toNat)
    (high : address.toNat + length.toNat ≤ stop.toNat)
    (meets : item.intersects address (address + length) = true) :
    item.intersects start stop = true := by
  have wrapped : (address + length).toNat ≤ address.toNat + length.toNat := by
    rw [Address.toNat_add]
    exact Nat.mod_le ..
  rw [intersects, Bool.and_eq_true, decide_eq_true_eq,
    decide_eq_true_eq] at meets ⊢
  omega

end DataItem

namespace Project

variable {project : Project} {start stop address key : Address}
  {item : DataItem} {dataType : DataType} {length : UInt32}

theorem dataAt?_clearData (listed : project.dataAt? key = some item) :
    (project.clearData start stop).dataAt? key
      = if item.intersects start stop then none else some item := by
  cases meets : item.intersects start stop with
  | false => exact Listing.get?_clear_eq_some_iff.2 ⟨listed, meets⟩
  | true =>
      cases found : (project.clearData start stop).dataAt? key with
      | none => rfl
      | some other =>
          obtain ⟨same, kept⟩ := Listing.get?_clear_eq_some_iff.1 found
          cases listed.symm.trans same
          cases meets.symm.trans kept

theorem conflict?_clearData (low : start.toNat ≤ address.toNat)
    (high : address.toNat + length.toNat ≤ stop.toNat) :
    (project.clearData start stop).listing.conflict? address (address + length)
      = none := by
  rw [clearData, Listing.conflict?_eq_none_iff]
  intro key item listed
  obtain ⟨_, kept⟩ := Listing.get?_clear_eq_some_iff.1 listed
  rw [Bool.eq_false_iff] at kept ⊢
  exact fun meets => kept (DataItem.intersects_of_inside low high meets)

theorem createData_clearData
    (sized : project.placedLength address dataType = .ok length)
    (low : start.toNat ≤ address.toNat)
    (high : address.toNat + length.toNat ≤ stop.toNat) :
    (project.clearData start stop).createData address dataType
      = match project.image.read address length.toNat with
        | .ok _ => .ok ((project.clearData start stop).withItem
          ⟨address, length, dataType⟩)
        | .error cause => .error (.memory cause) := by
  have sizedCleared : (project.clearData start stop).placedLength address
      dataType = .ok length := sized
  cases readable : project.image.read address length.toNat with
  | ok bytes =>
      exact createData_of_free sizedCleared readable
        (conflict?_clearData low high)
  | error cause => exact createData_of_unread sizedCleared readable

/-- In every reachable project, clearing a range that is not empty removes an
item with bytes exactly if it covers an address of the range, and changes
nothing else.  A type that has a length at an address, and ends inside the range
from there, can then be placed exactly if that length is zero or one region has
all the bytes; otherwise the memory is what refuses it. -/
theorem cleared_range_is_free (reachable : project.Reachable)
    (notEmpty : start < stop) :
    let cleared := project.clearData start stop
    (∀ key item, project.dataAt? key = some item → 0 < item.length.toNat →
      (cleared.dataAt? key = none
        ↔ ∃ place : Address, item.Covers place ∧ start.toNat ≤ place.toNat
          ∧ place.toNat < stop.toNat)
      ∧ (cleared.dataAt? key ≠ none → cleared.dataAt? key = some item))
    ∧ (∀ key item, cleared.dataAt? key = some item →
      project.dataAt? key = some item)
    ∧ cleared = { project with listing := cleared.listing }
    ∧ ∀ address dataType (length : UInt32),
      project.image.Measures address dataType length.toNat →
      start.toNat ≤ address.toNat → address.toNat + length.toNat ≤ stop.toNat →
      ((∃ next, cleared.createData address dataType = .ok next)
        ↔ length.toNat = 0 ∨ ∃ region ∈ project.image.regions,
          region.base.toNat ≤ address.toNat
            ∧ address.toNat + length.toNat ≤ region.limit)
      ∧ ∀ failure, cleared.createData address dataType = .error failure →
        ∃ cause, failure = .memory cause := by
  intro cleared
  refine ⟨?_, ?_, rfl, ?_⟩
  · intro key item listed positive
    rw [← DataItem.intersects_iff_covers notEmpty positive,
      dataAt?_clearData listed]
    cases item.intersects start stop with
    | true => exact ⟨iff_of_true rfl rfl, fun remains => (remains rfl).elim⟩
    | false => exact ⟨iff_of_false nofun nofun, fun _ => rfl⟩
  · intro key item listed
    exact (Listing.get?_clear_eq_some_iff.1 listed).1
  · intro address dataType length measures low high
    have enclosed :=
      @Image.Apart.readable_iff_enclosed _ address length.toNat reachable.apart
    rw [createData_clearData (placedLength_eq_ok_iff.2 measures) low high]
    cases readable : project.image.read address length.toNat with
    | ok bytes =>
        exact ⟨iff_of_true ⟨_, rfl⟩ (enclosed.1 ⟨bytes, readable⟩), nofun⟩
    | error cause =>
        refine ⟨iff_of_false nofun ?_, ?_⟩
        · intro inRegion
          obtain ⟨bytes, read⟩ := enclosed.2 inRegion
          cases readable.symm.trans read
        · rintro failure ⟨⟩
          exact ⟨cause, rfl⟩

/-- A project with two pointers side by side. -/
def lined : Project :=
  .perform (.placePointer 4100 4) <| .perform (.placePointer 4096 4) <|
    .perform (.map ⟨"image", .ofNat 4096, #[0, 0, 0, 0, 0, 0, 0, 0],
      ⟨true, false, false⟩⟩) .empty

theorem cleared_range_is_free_lined :
    lined.Reachable ∧ Address.ofNat 4098 < Address.ofNat 4102
      ∧ lined.dataAt? (.ofNat 4096)
        = some ⟨.ofNat 4096, 4, .pointer .pascalString 4⟩
      ∧ (lined.clearData (.ofNat 4098) (.ofNat 4102)).dataAt?
        (.ofNat 4096) = none
      ∧ ∃ next,
        (lined.clearData (.ofNat 4098) (.ofNat 4102)).createData (.ofNat 4098)
        (.pointer .pascalString 4) = .ok next := by
  have reachable : lined.Reachable :=
    .perform _ (.perform _ (.perform _ .empty))
  have listed : lined.dataAt? (.ofNat 4096)
      = some ⟨.ofNat 4096, 4, .pointer .pascalString 4⟩ := by
    decide +kernel
  have mapped : lined.image.regions
      = [⟨"image", .ofNat 4096, #[0, 0, 0, 0, 0, 0, 0, 0],
        ⟨true, false, false⟩⟩] := by
    decide +kernel
  obtain ⟨removed, _, _, placed⟩ :=
    cleared_range_is_free reachable
      (show Address.ofNat 4098 < Address.ofNat 4102 by decide)
  refine ⟨reachable, by decide, listed, ?_, ?_⟩
  · exact (removed _ _ listed (by decide)).1.2
      ⟨.ofNat 4098, ⟨by decide, by decide⟩, by decide, by decide⟩
  · refine (placed (.ofNat 4098) (.pointer .pascalString 4) 4
      (.fixed (by rfl)) (by decide)
      (by decide)).1.2 (.inr ?_)
    rw [mapped]
    exact ⟨_, List.mem_singleton_self _, by decide, by decide⟩

end Project

end DelphiRtti
