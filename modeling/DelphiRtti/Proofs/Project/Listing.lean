import DelphiRtti.Proofs.Project.Reachable
import DelphiRtti.Proofs.SortedMap

/-!
# The listing of a reachable project

Every data item is stored under its own address.
-/

namespace DelphiRtti

open Text

/-- Whether an item covers the byte at an address. -/
def DataItem.Covers (item : DataItem) (address : Address) : Prop :=
  item.address.toNat ≤ address.toNat ∧ address.toNat < item.limit

theorem DataItem.covers_of_intersects {item : DataItem} {place : Address}
    (meets : item.intersects place (place + (1 : UInt32)) = true) :
    item.Covers place := by
  -- An item that intersects the range of one byte covers that byte, and at
  -- the end of the address space nothing intersects.
  rw [intersects, Bool.and_eq_true, decide_eq_true_eq, decide_eq_true_eq,
    Address.toNat_add] at meets
  refine ⟨?_, meets.2⟩
  have next : (place.toNat + (1 : UInt32).toNat) % wordBound
      ≤ place.toNat + 1 := Nat.mod_le ..
  omega

theorem DataItem.intersects_own_range
    {item : DataItem} (positive : 0 < item.length.toNat)
    (apart :
      item.intersects item.address (item.address + (1 : UInt32)) = false) :
    item.intersects item.address (item.address + item.length) = false := by
  -- An item that does not meet the range of its own first byte starts at
  -- the last address, so its own range ends where it wraps and nothing
  -- meets it.
  have inside : item.address.toNat < item.limit :=
    Nat.lt_add_of_pos_right positive
  have low := item.address.toNat_lt
  have short : item.length.toNat < wordBound := item.length.toNat_lt
  simp only [intersects, inside, decide_true, Bool.and_true,
    decide_eq_false_iff_not, Address.toNat_add, UInt32.toNat_one] at apart ⊢
  rw [wordBound] at low short apart ⊢
  omega

namespace Listing

/-- Every item is stored under its own address. -/
def Keyed (listing : Listing) : Prop :=
  ∀ {address : Address} {item : DataItem}, listing.get? address = some item →
    item.address = address

theorem Keyed.empty : Keyed ∅ := by
  intro address item found
  rw [SortedMap.get?_empty] at found
  cases found

theorem get?_clear_eq_some_iff {listing : Listing}
    {start stop address : Address} {item : DataItem} :
    (listing.clear start stop).get? address = some item
      ↔ listing.get? address = some item
        ∧ item.intersects start stop = false := by
  rw [clear, SortedMap.get?_filter_eq_some_iff, Bool.not_eq_true']

theorem clear_of_uncovered {listing : Listing} {place : Address}
    (uncovered : ∀ {address item}, listing.get? address = some item →
      ¬ item.Covers place) :
    listing.clear place (place + (1 : UInt32)) = listing := by
  apply SortedMap.ext_get?
  intro address
  apply Option.ext
  intro item
  rw [get?_clear_eq_some_iff, and_iff_left_iff_imp]
  intro listed
  rw [Bool.eq_false_iff]
  exact fun meets => uncovered listed (DataItem.covers_of_intersects meets)

theorem clear_last {place : Address}
    (last : wordBound ≤ place.toNat + 1) (listing : Listing) :
    listing.clear place (place + (1 : UInt32)) = listing := by
  -- The range of the byte at the last address ends at zero, so clearing it
  -- removes nothing.
  apply SortedMap.ext_get?
  intro address
  apply Option.ext
  intro item
  have bound : place.toNat + 1 = wordBound :=
    Nat.le_antisymm place.toNat_lt last
  have wrapped : (place + (1 : UInt32)).toNat = 0 := by
    rw [Address.toNat_add, UInt32.toNat_one, bound, Nat.mod_self]
  rw [get?_clear_eq_some_iff, and_iff_left_iff_imp,
    DataItem.intersects, wrapped]
  intro _
  rfl

theorem Keyed.clear {listing : Listing} (keyed : Keyed listing)
    (start stop : Address) : Keyed (listing.clear start stop) :=
  fun found => keyed (get?_clear_eq_some_iff.1 found).1

theorem Keyed.insert {listing : Listing} (keyed : Keyed listing)
    (item : DataItem) : Keyed (listing.insert item.address item) := by
  intro address other found
  rw [SortedMap.get?_insert] at found
  split at found
  case isTrue same =>
      cases found
      exact same
  case isFalse => exact keyed found

theorem conflict?_clear (listing : Listing)
    (cleared₁ cleared₂ start stop : Address) :
    (listing.clear cleared₁ cleared₂).conflict? start stop
      = listing.values.find? fun item =>
          !item.intersects cleared₁ cleared₂ && item.intersects start stop := by
  simp only [conflict?, clear, SortedMap.values, SortedMap.filter,
    List.find?_map, List.find?_filter, Function.comp_def, Bool.decide_and,
    Bool.decide_eq_true]

theorem conflict?_eq_none_iff {listing : Listing} {start stop : Address} :
    listing.conflict? start stop = none
      ↔ ∀ {address item}, listing.get? address = some item →
        item.intersects start stop = false := by
  simp only [conflict?, List.find?_eq_none, SortedMap.values, List.mem_map,
    Prod.exists, SortedMap.get?_eq_some_iff, Bool.not_eq_true]
  constructor
  · intro apart address item listed
    exact apart item ⟨address, item, listed, rfl⟩
  · rintro apart item ⟨address, _, listed, rfl⟩
    exact apart listed

theorem conflict?_eq_some {listing : Listing} {start stop : Address}
    {item : DataItem} (conflict : listing.conflict? start stop = some item) :
    ∃ address, listing.get? address = some item
    ∧ item.intersects start stop = true := by
  have meets := List.find?_some conflict
  obtain ⟨⟨address, _⟩, listed, rfl⟩ :=
    List.mem_map.1 (List.mem_of_find?_eq_some conflict)
  exact ⟨address, SortedMap.get?_eq_some_iff.2 listed, meets⟩

/-- Whether two listings differ at most in items that start at a place
or cover it. -/
def AgreeAwayFrom (place : Address) (before after : Listing) : Prop :=
  ∀ key item, item.address ≠ place → ¬ item.Covers place →
    (after.get? key = some item ↔ before.get? key = some item)

theorem agreeAwayFrom_clear (listing : Listing) (place : Address) :
    listing.AgreeAwayFrom place
      (listing.clear place (place + (1 : UInt32))) := by
  intro key item _ uncovered
  rw [get?_clear_eq_some_iff]
  refine ⟨And.left, fun found => ⟨found, ?_⟩⟩
  rw [Bool.eq_false_iff]
  exact fun meets => uncovered (DataItem.covers_of_intersects meets)

theorem AgreeAwayFrom.insert {place : Address} {before after : Listing}
    (agree : before.AgreeAwayFrom place after) (keyed : before.Keyed)
    (length : UInt32) (dataType : DataType) :
    before.AgreeAwayFrom place
      (after.insert place ⟨place, length, dataType⟩) := by
  intro key item elsewhere uncovered
  rw [SortedMap.get?_insert]
  split
  case isTrue same =>
      subst same
      constructor
      · rintro ⟨⟩
        exact (elsewhere rfl).elim
      · intro found
        exact (elsewhere (keyed found)).elim
  case isFalse => exact agree key item elsewhere uncovered

/-- The listing with an item in place of whatever lies at its first byte. -/
def placeAnew (listing : Listing) (item : DataItem) : Listing :=
  (listing.clear item.address (item.address + (1 : UInt32))).insert
    item.address item

theorem conflict?_clear_placeAnew
    {listing : Listing} {item : DataItem} (positive : 0 < item.length.toNat)
    (free : (listing.clear item.address (item.address + (1 :
      UInt32))).conflict? item.address (item.address + item.length) = none) :
    (clear (listing.placeAnew item) item.address
      (item.address + (1 : UInt32))).conflict? item.address
      (item.address + item.length) = none := by
  rw [conflict?_eq_none_iff] at free ⊢
  intro address other found
  obtain ⟨listed, apart⟩ := get?_clear_eq_some_iff.1 found
  rw [placeAnew, SortedMap.get?_insert] at listed
  split at listed
  case isTrue =>
      cases listed
      exact DataItem.intersects_own_range positive apart
  case isFalse => exact free listed

theorem placeAnew_placeAnew (listing : Listing) (item : DataItem) :
    (listing.placeAnew item).placeAnew item = listing.placeAnew item := by
  apply SortedMap.ext_get?
  intro address
  simp only [placeAnew, SortedMap.get?_insert]
  by_cases here : item.address = address
  · rw [if_pos here, if_pos here]
  · rw [if_neg here, if_neg here]
    apply Option.ext
    intro other
    rw [get?_clear_eq_some_iff, SortedMap.get?_insert, if_neg here,
      get?_clear_eq_some_iff]
    simp

end Listing

namespace Project

/-- Places a pointer of a certain size at an address. -/
def Operation.placePointer (address : Nat) (size : UInt32) : Operation :=
  .answer (.createData (.ofNat address) (.pointer .pascalString size))

theorem Reachable.keyed {project : Project} (reachable : Reachable project) :
    project.listing.Keyed := by
  refine @Reachable.keeps project
    (fun project => project.listing.Keyed) Listing.Keyed.empty ?_ reachable
  intro before after keyed change
  cases change with
  | clearData start stop => exact keyed.clear start stop
  | placeItem => exact keyed.insert _
  | _ => exact keyed

end Project

end DelphiRtti
