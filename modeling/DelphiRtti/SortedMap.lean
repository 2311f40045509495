/-!
# Maps sorted by key

A finite map is its list of entries in ascending order of the keys.  The
order is part of the type, so two maps with the same entries are equal, and
listing a map needs no sorting.
-/

namespace DelphiRtti

/-- A strict total order on keys that can be decided. -/
class KeyOrder (κ : Type) where
  before : κ → κ → Bool
  irrefl : ∀ key, before key key = false
  trans : ∀ {first second third},
    before first second = true → before second third = true →
      before first third = true
  connected : ∀ {left right}, before left right = false →
    before right left = false → left = right

/-- A finite map as its entries in ascending order of the keys. -/
structure SortedMap (κ ν : Type) [KeyOrder κ] where
  toList : List (κ × ν)
  ascending : toList.Pairwise fun left right =>
    KeyOrder.before left.1 right.1 = true

namespace SortedMap

variable {κ ν : Type} [KeyOrder κ]

@[ext]
theorem ext {left right : SortedMap κ ν} (same : left.toList = right.toList) :
    left = right := by
  cases left
  cases right
  subst same
  rfl

instance [DecidableEq κ] [DecidableEq ν] : DecidableEq (SortedMap κ ν) :=
    fun left right =>
  decidable_of_iff (left.toList = right.toList) ⟨ext, congrArg toList⟩

def empty : SortedMap κ ν := ⟨[], .nil⟩

instance : EmptyCollection (SortedMap κ ν) := ⟨empty⟩

instance : Inhabited (SortedMap κ ν) := ⟨empty⟩

/-- The value stored under a key in a list of entries. -/
def lookup [DecidableEq κ] (key : κ) : List (κ × ν) → Option ν
  | [] => none
  | entry :: rest => if entry.1 = key then some entry.2 else lookup key rest

def get? [DecidableEq κ] (map : SortedMap κ ν) (key : κ) : Option ν :=
  lookup key map.toList

def contains [DecidableEq κ] (map : SortedMap κ ν) (key : κ) : Bool :=
  (map.get? key).isSome

def keys (map : SortedMap κ ν) : List κ := map.toList.map Prod.fst

def values (map : SortedMap κ ν) : List ν := map.toList.map Prod.snd

/-- Puts an entry in its place; an entry with the same key gives way. -/
def insertEntry (key : κ) (value : ν) : List (κ × ν) → List (κ × ν)
  | [] => [(key, value)]
  | entry :: rest =>
      if KeyOrder.before key entry.1 then (key, value) :: entry :: rest
      else if KeyOrder.before entry.1 key then
        entry :: insertEntry key value rest
      else (key, value) :: rest

theorem mem_insertEntry {key : κ} {value : ν} {entries : List (κ × ν)}
    {entry : κ × ν} (member : entry ∈ insertEntry key value entries) :
    entry = (key, value) ∨ entry ∈ entries := by
  induction entries with
  | nil => simpa [insertEntry] using member
  | cons head rest induction =>
      simp only [insertEntry] at member
      split at member
      · simpa using member
      · split at member
        · rcases List.mem_cons.1 member with rfl | later
          · simp
          · rcases induction later with same | old
            · exact .inl same
            · exact .inr (List.mem_cons_of_mem _ old)
        · rcases List.mem_cons.1 member with same | later
          · exact .inl same
          · exact .inr (List.mem_cons_of_mem _ later)

theorem insertEntry_ascending (key : κ) (value : ν) {entries : List (κ × ν)}
    (ascending : entries.Pairwise fun left right =>
      KeyOrder.before left.1 right.1 = true) :
    (insertEntry key value entries).Pairwise fun left right =>
      KeyOrder.before left.1 right.1 = true := by
  induction entries with
  | nil => simp [insertEntry]
  | cons head rest induction =>
      obtain ⟨headFirst, restAscending⟩ := List.pairwise_cons.1 ascending
      simp only [insertEntry]
      split
      next first =>
        refine List.pairwise_cons.2 ⟨?_, ascending⟩
        intro other member
        rcases List.mem_cons.1 member with rfl | later
        · exact first
        · exact KeyOrder.trans first (headFirst other later)
      next notFirst =>
        split
        next later =>
          refine List.pairwise_cons.2 ⟨?_, induction restAscending⟩
          intro other member
          rcases mem_insertEntry member with rfl | old
          · exact later
          · exact headFirst other old
        next notLater =>
          have same : key = head.1 := by
            apply KeyOrder.connected
            · simpa using notFirst
            · simpa using notLater
          subst same
          exact List.pairwise_cons.2 ⟨headFirst, restAscending⟩

/-- The map with `value` stored under `key`, in place of what was there. -/
def insert (map : SortedMap κ ν) (key : κ) (value : ν) : SortedMap κ ν :=
  ⟨insertEntry key value map.toList,
    insertEntry_ascending key value map.ascending⟩

def filter (map : SortedMap κ ν) (keep : κ → ν → Bool) : SortedMap κ ν :=
  ⟨map.toList.filter fun entry => keep entry.1 entry.2, map.ascending.filter _⟩

theorem lookup_insertEntry [DecidableEq κ] (key other : κ) (value : ν)
    (entries : List (κ × ν)) :
    lookup other (insertEntry key value entries)
      = if key = other then some value else lookup other entries := by
  induction entries with
  | nil => simp [insertEntry, lookup]
  | cons head rest induction =>
      simp only [insertEntry]
      split
      next => simp only [lookup]
      next notFirst =>
        split
        next later =>
          simp only [lookup, induction]
          by_cases same : head.1 = other
          · subst same
            have different : key ≠ head.1 := by
              intro equal
              subst equal
              simp [KeyOrder.irrefl] at later
            simp [different]
          · simp [same]
        next notLater =>
          have same : key = head.1 := by
            apply KeyOrder.connected
            · simpa using notFirst
            · simpa using notLater
          subst same
          by_cases equal : head.1 = other <;> simp [lookup, equal]

/-- A stored value is found under its key, and no other key notices. -/
theorem get?_insert [DecidableEq κ] (map : SortedMap κ ν) (key other : κ)
    (value : ν) :
    (map.insert key value).get? other
      = if key = other then some value else map.get? other :=
  lookup_insertEntry key other value map.toList

@[simp]
theorem get?_empty [DecidableEq κ] (key : κ) :
    (∅ : SortedMap κ ν).get? key = none := rfl

end SortedMap

end DelphiRtti
