import Mathlib.Order.CompletePartialOrder
import Mathlib.Order.Interval.Set.Disjoint
import DelphiRtti.Proofs.Project.Listing

/-!
# Placed data and the end of the address space

An item is placed only where no other one is in the way, so items that end
before the last address lie apart. The range of an item that ends later is
named by an end that has wrapped, and what starts at that end or after it is
taken to be out of the way.
-/

namespace DelphiRtti

open Text

namespace DataItem

/-- The numbers of the bytes that an item covers, which go on after
the last address. -/
def range (item : DataItem) : Set Nat :=
  Set.Ico item.address.toNat item.limit

/-- Whether an item ends after the last address and its end, counted from zero
again, is not after the start of another item. -/
def WrapsBefore (item other : DataItem) : Prop :=
  wordBound ≤ item.limit ∧ item.limit - wordBound ≤ other.address.toNat

/-- Whether two items cover no byte in common, unless one of them
wraps before the other. -/
def KeptApart (item other : DataItem) : Prop :=
  Disjoint item.range other.range ∨ item.WrapsBefore other
    ∨ other.WrapsBefore item

variable {item other : DataItem}

theorem KeptApart.symm (apart : item.KeptApart other) :
    other.KeptApart item := by
  rcases apart with disjoint | wraps | wraps
  · exact .inl disjoint.symm
  · exact .inr (.inr wraps)
  · exact .inr (.inl wraps)

theorem disjoint_range
    (separate : other.limit ≤ item.address.toNat ∨ item.limit
      ≤ other.address.toNat) : Disjoint item.range other.range := by
  rw [range, range, Set.Ico_disjoint_Ico]
  omega

theorem keptApart_of_free
    (free : other.intersects item.address (item.address + item.length)
      = false) : item.KeptApart other := by
  -- What the range of a new item does not meet is kept apart from it.
  -- Without a wrap the range is the one that the item covers.
  have stop : (item.address + item.length).toNat = item.limit % wordBound :=
    Address.toNat_add ..
  have below : item.limit < 2 * wordBound := by
    have low := item.address.toNat_lt
    have short : item.length.toNat < wordBound := item.length.toNat_lt
    rw [limit]
    omega
  rw [intersects, stop, Bool.and_eq_false_iff, decide_eq_false_iff_not,
    decide_eq_false_iff_not, Nat.not_lt, Nat.not_lt] at free
  by_cases inside : item.limit < wordBound
  · rw [Nat.mod_eq_of_lt inside] at free
    exact .inl (disjoint_range free.symm)
  · have past : wordBound ≤ item.limit := Nat.le_of_not_lt inside
    have wrapped : item.limit % wordBound = item.limit - wordBound := by
      rw [Nat.mod_eq_sub_mod past, Nat.mod_eq_of_lt]
      omega
    rw [wrapped] at free
    rcases free with after | before
    · exact .inr (.inl ⟨past, after⟩)
    · exact .inl (disjoint_range (.inl before))

end DataItem

namespace Listing

def KeptApart (listing : Listing) : Prop :=
  ∀ {left right : Address} {item other : DataItem},
    listing.get? left = some item →
    listing.get? right = some other → left ≠ right → item.KeptApart other

variable {listing : Listing}

theorem KeptApart.clear (apart : listing.KeptApart) (start stop : Address) :
    (listing.clear start stop).KeptApart := by
  intro left right item other here there elsewhere
  exact apart (get?_clear_eq_some_iff.1 here).1
    (get?_clear_eq_some_iff.1 there).1 elsewhere

theorem KeptApart.insert (apart : listing.KeptApart) {item : DataItem}
    (free : listing.conflict? item.address (item.address + item.length)
      = none) : KeptApart (listing.insert item.address item) := by
  rw [conflict?_eq_none_iff] at free
  intro left right first second here there elsewhere
  rw [SortedMap.get?_insert] at here there
  split at here
  case isTrue sameLeft =>
      cases here
      split at there
      case isTrue sameRight =>
          exact (elsewhere (sameLeft.symm.trans sameRight)).elim
      case isFalse => exact DataItem.keptApart_of_free (free there)
  case isFalse =>
      split at there
      case isTrue =>
          cases there
          exact (DataItem.keptApart_of_free (free here)).symm
      case isFalse => exact apart here there elsewhere

end Listing

namespace Project

variable {project : Project}

theorem Reachable.keptApart (reachable : project.Reachable) :
    project.listing.KeptApart := by
  refine @Reachable.keeps project
    (fun project => project.listing.KeptApart) ?_ ?_ reachable
  · intro left right item other here
    rw [Project.empty, ofImage, SortedMap.get?_empty] at here
    cases here
  · intro before after apart change
    cases change with
    | clearData start stop => exact apart.clear start stop
    | placeItem sized readable free => exact apart.insert free
    | _ => exact apart

/-- In every reachable project, two items of the listing at different addresses
cover different bytes, unless one of them ends after the last address and its
wrapped end is not after the start of the other. -/
theorem placed_data_disjoint_or_wrapped
    (reachable : project.Reachable) {left right : Address}
    {item other : DataItem} (here : project.dataAt? left = some item)
    (there : project.dataAt? right = some other) (elsewhere : left ≠ right) :
    Disjoint item.range other.range
      ∨ wordBound ≤ item.limit ∧ item.limit - wordBound ≤ other.address.toNat
      ∨ wordBound ≤ other.limit
        ∧ other.limit - wordBound ≤ item.address.toNat :=
  reachable.keptApart here there elsewhere

end Project

def Region.lastBytes : Region :=
  ⟨"top", .ofNat 4294967280, #[0, 0, 0, 0, 0, 0, 0, 0, 0, 0, 0, 0, 0, 0, 0, 0],
    ⟨true, false, false⟩⟩

namespace Project

/-- A project with four pointers in the last bytes, of which the last two are
placed one over the other. -/
def crowded : Project :=
  .perform (.placePointer 4294967294 2) <|
    .perform (.placePointer 4294967292 4) <|
    .perform (.placePointer 4294967284 4) <|
      .perform (.placePointer 4294967280 4) <|
      .perform (.map .lastBytes) .empty

theorem crowded_reachable : crowded.Reachable :=
  .perform _ (.perform _ (.perform _ (.perform _ (.perform _ .empty))))

theorem placed_data_disjoint_crowded :
    crowded.dataAt? (.ofNat 4294967280)
      = some ⟨.ofNat 4294967280, 4, .pointer .pascalString 4⟩
      ∧ crowded.dataAt? (.ofNat 4294967284)
        = some ⟨.ofNat 4294967284, 4, .pointer .pascalString 4⟩
      ∧ Disjoint (Set.Ico 4294967280 4294967284)
        (Set.Ico 4294967284 4294967288) := by
  have here : crowded.dataAt? (.ofNat 4294967280)
      = some ⟨.ofNat 4294967280, 4, .pointer .pascalString 4⟩ := by
    decide +kernel
  have there : crowded.dataAt? (.ofNat 4294967284)
      = some ⟨.ofNat 4294967284, 4, .pointer .pascalString 4⟩ := by
    decide +kernel
  refine ⟨here, there, ?_⟩
  rcases placed_data_disjoint_or_wrapped crowded_reachable here there
    (by decide) with
    disjoint | wraps | wraps
  · exact disjoint
  · exact absurd wraps.1 (by decide)
  · exact absurd wraps.1 (by decide)

/-- The range of the pointer placed last ends at zero, so it is not seen to
meet the one before it. -/
theorem placed_data_overlap :
    crowded.Reachable ∧ Region.lastBytes.limit = wordBound
      ∧ crowded.dataAt? (.ofNat 4294967292)
        = some ⟨.ofNat 4294967292, 4, .pointer .pascalString 4⟩
      ∧ crowded.dataAt? (.ofNat 4294967294)
        = some ⟨.ofNat 4294967294, 2, .pointer .pascalString 2⟩
      ∧ ¬ Disjoint (Set.Ico 4294967292 4294967296)
        (Set.Ico 4294967294 4294967296) := by
  refine ⟨crowded_reachable, rfl, by decide +kernel, by decide +kernel, ?_⟩
  rw [Set.Ico_disjoint_Ico]
  decide

end Project

end DelphiRtti
