import DelphiRtti.Address
import DelphiRtti.DataType

/-!
# The listing of data

The listing says of addresses which data type is placed there.  Ranges are
compared in plain numbers; where a range is named by two addresses, its
end has already wrapped.
-/

namespace DelphiRtti

structure DataItem where
  address : Address
  length : UInt32
  dataType : DataType
deriving DecidableEq, Inhabited

namespace DataItem

/-- One past the last byte that is covered, as a plain number. -/
def limit (item : DataItem) : Nat :=
  item.address.toNat + item.length.toNat

/-- Whether an item starts before `stop` and ends after `start`. -/
def intersects (item : DataItem) (start stop : Address) : Bool :=
  item.address.toNat < stop.toNat && start.toNat < item.limit

end DataItem

abbrev Listing := SortedMap Address DataItem

namespace Listing

def clear (listing : Listing) (start stop : Address) : Listing :=
  listing.filter fun _ item => !item.intersects start stop

def conflict? (listing : Listing) (start stop : Address) : Option DataItem :=
  listing.values.find? fun item => item.intersects start stop

end Listing

end DelphiRtti
