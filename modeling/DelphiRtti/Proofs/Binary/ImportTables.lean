import DelphiRtti.Executable.Contents

/-!
# Import tables

For each library a file has a lookup table, and every value of it stands for
an import: for an ordinal, or for a name at a place in memory.  Each is bound
through the slot that has the same index in the table of addresses.  A reader of
executables may be any that follows these tables, and the reader of this library
is one.
-/

namespace DelphiRtti.Executable

open Text

theorem exists_of_getElem?_mapM {α β : Type} {f : α → Option β}
    {items : List α} {results : List β} {index : Nat} {result : β}
    (mapped : items.mapM f = some results)
    (found : results[index]? = some result) :
    ∃ item, items[index]? = some item ∧ f item = some result := by
  induction items generalizing results index with
  | nil =>
      cases mapped
      cases found
  | cons item rest induction =>
      rw [List.mapM_cons] at mapped
      obtain ⟨first, isFirst, mapped⟩ := Option.bind_eq_some_iff.1 mapped
      obtain ⟨others, areOthers, mapped⟩ := Option.bind_eq_some_iff.1 mapped
      cases mapped
      cases index with
      | zero =>
          cases found
          exact ⟨item, rfl, isFirst⟩
      | succ index => exact induction areOthers found

theorem exists_of_mem_mapM {α β : Type} {f : α → Option β}
    {items : List α} {results : List β} {result : β}
    (mapped : items.mapM f = some results) (listed : result ∈ results) :
    ∃ item ∈ items, f item = some result := by
  obtain ⟨index, found⟩ := List.mem_iff_getElem?.1 listed
  obtain ⟨item, isItem, isResult⟩ := exists_of_getElem?_mapM mapped found
  exact ⟨item, List.mem_of_getElem? isItem, isResult⟩

def Header.nameAt? (header : Header) (file : File) (address : Nat) :
    Option String :=
  (header.textAt? file address).map String.ofList

/-- What a file for 32 bits says of the imports of one library. -/
structure ImportTable where
  library : String
  /-- The place of the slots in memory, relative to the base. -/
  addressTable : Nat
  /-- The values of the lookup table. -/
  values : List Nat
deriving DecidableEq

namespace ImportTable

variable {file : File} {header : Header} {descriptor : ImportDescriptor}

def slot (table : ImportTable) (index : Nat) : Nat :=
  table.addressTable + 4 * index

/-- The place of the name that a value stands for, or zero for an ordinal. -/
def namePlace (value : Nat) : Nat :=
  if value.testBit 31 then 0 else value % 0x80000000

/-- The values of a lookup table.  Where it is missing, the table of slots takes
its place. -/
def values? (file : File) (header : Header) (descriptor : ImportDescriptor) :
    Option (List Nat) :=
  match header.fileOffset? descriptor.lookupTable with
  | some offset => file.tableToZero? offset 4
  | none =>
      match header.fileOffset? descriptor.addressTable with
      | some offset => file.tableToZero? offset 4
      | none => some []

def ofDescriptor? (file : File) (header : Header)
    (descriptor : ImportDescriptor) : Option ImportTable := do
  let library ← header.nameAt? file descriptor.name
  let values ← values? file header descriptor
  return ⟨library, descriptor.addressTable, values⟩

def parse? (file : File) (header : Header) : Option (List ImportTable) :=
  match header.directory? 1 with
  | none => some []
  | some directory => do
      let start ← header.fileOffset? directory.address
      let descriptors ← ImportDescriptor.parseAll? file start
      descriptors.mapM (ofDescriptor? file header)

/-- The import tables of a file. -/
def ofFile? (file : File) : Option (List ImportTable) :=
  (Header.parse? file).bind (parse? file)

theorem namePlace_lt (value : Nat) : namePlace value < wordBound := by
  have bound : wordBound = 2 ^ 32 := rfl
  rw [namePlace]
  split
  case isTrue => omega
  case isFalse => omega

theorem name_of_ofDescriptor? {table : ImportTable}
    (read : ofDescriptor? file header descriptor = some table) :
    header.nameAt? file descriptor.name = some table.library := by
  obtain ⟨library, named, read⟩ := Option.bind_eq_some_iff.1 read
  obtain ⟨values, _, read⟩ := Option.bind_eq_some_iff.1 read
  cases read
  exact named

end ImportTable

/-- Whether an import is that of the value with some index in a table.  Its name
is read at the place that the value gives, and it is bound through the slot with
the same index. -/
structure Import.StandsFor (item : Import) (table : ImportTable)
    (index value : Nat) : Prop where
  listed : table.values[index]? = some value
  library : item.library = table.library
  address : item.address = ImportTable.namePlace value
  slot : item.slot = table.slot index

/-- What is relied on of a reader: each import that it finds in a file for 32
bits stands for a value in the import tables of the file. -/
def Reader.FollowsTables (reader : Reader) (file : File) : Prop :=
  ∀ contents, reader file = some contents → contents.wide = false →
    ∃ tables, ImportTable.ofFile? file = some tables
      ∧ ∀ item ∈ contents.imports, ∃ table ∈ tables, ∃ index value,
        item.StandsFor table index value

namespace ImportTable

variable {file : File} {header : Header} {descriptor : ImportDescriptor}

theorem address_of_ofValue? {value : Nat} {entry : LookupEntry}
    (read : LookupEntry.ofValue? file header 4 value = some (some entry)) :
    entry.address = namePlace value := by
  rw [LookupEntry.ofValue?] at read
  rw [namePlace]
  split at read
  case isTrue ordinal =>
      cases read
      exact (if_pos ordinal).symm
  case isFalse byName =>
      rw [if_neg byName]
      simp only at read
      split at read
      case h_1 => cases read
      case h_2 =>
          obtain ⟨_, _, read⟩ := Option.bind_eq_some_iff.1 read
          obtain ⟨_, _, read⟩ := Option.bind_eq_some_iff.1 read
          cases read
          rfl

/-- An import has the index of its value, for values that stand for nothing are
left out only after the slots are counted. -/
theorem standsFor_of_entries {library : String} {addressTable : Nat}
    {values : List Nat} {entries : List (Option LookupEntry)}
    (areEntries : values.mapM (LookupEntry.ofValue? file header 4)
      = some entries)
    {item : Import}
    (listed : item ∈ (entries.mapIdx fun index parsed =>
      parsed.map fun entry =>
        (⟨library, entry.name, entry.address,
          addressTable + 4 * index⟩ : Import)).filterMap id) :
    ∃ index value,
      item.StandsFor ⟨library, addressTable, values⟩ index value := by
  obtain ⟨item?, listed, rfl⟩ := List.mem_filterMap.1 listed
  obtain ⟨index, found⟩ := List.mem_iff_getElem?.1 listed
  rw [List.getElem?_mapIdx] at found
  obtain ⟨parsed, isEntry, found⟩ := Option.map_eq_some_iff.1 found
  obtain ⟨entry, rfl, rfl⟩ := Option.map_eq_some_iff.1 found
  obtain ⟨value, isValue, isEntry⟩ :=
    exists_of_getElem?_mapM areEntries isEntry
  exact ⟨index, value, isValue, rfl, address_of_ofValue? isEntry, rfl⟩

theorem standsFor_of_ofDescriptor? {imports : List Import}
    (read : Import.ofDescriptor? file header 4 descriptor = some imports) :
    ∃ table, ofDescriptor? file header descriptor = some table
      ∧ ∀ item ∈ imports, ∃ index value, item.StandsFor table index value := by
  rw [Import.ofDescriptor?] at read
  obtain ⟨library, isLibrary, read⟩ := Option.bind_eq_some_iff.1 read
  have named : header.nameAt? file descriptor.name
      = some (String.ofList library) := by
    rw [Header.nameAt?, isLibrary]
    rfl
  -- Wherever the entries were found, the rest of the reading is the same.
  have ends {values : List Nat} {entries : List (Option LookupEntry)}
      (areValues : values? file header descriptor = some values)
      (areEntries : values.mapM (LookupEntry.ofValue? file header 4)
        = some entries)
      (read : ((header.fileOffset? descriptor.addressTable).bind fun bound =>
        (file.tableToZero? bound 4).bind fun _ =>
          some ((entries.mapIdx fun index parsed => parsed.map fun entry =>
            (⟨String.ofList library, entry.name, entry.address,
              descriptor.addressTable + 4 * index⟩ : Import)).filterMap id))
        = some imports) :
      ∃ table, ofDescriptor? file header descriptor = some table
        ∧ ∀ item ∈ imports, ∃ index value,
          item.StandsFor table index value := by
    obtain ⟨_, _, read⟩ := Option.bind_eq_some_iff.1 read
    obtain ⟨_, _, read⟩ := Option.bind_eq_some_iff.1 read
    cases read
    refine ⟨⟨String.ofList library, descriptor.addressTable, values⟩, ?_, ?_⟩
    · rw [ofDescriptor?, named, areValues]
      rfl
    · intro item listed
      exact standsFor_of_entries areEntries listed
  simp only at read
  split at read
  case h_1 offset found =>
      obtain ⟨entries, areEntries, read⟩ := Option.bind_eq_some_iff.1 read
      obtain ⟨values, areValues, areEntries⟩ :=
        Option.bind_eq_some_iff.1 areEntries
      refine ends ?_ areEntries read
      rw [values?, found]
      exact areValues
  case h_2 missing =>
      split at read
      case h_1 offset found =>
          obtain ⟨entries, areEntries, read⟩ := Option.bind_eq_some_iff.1 read
          obtain ⟨values, areValues, areEntries⟩ :=
            Option.bind_eq_some_iff.1 areEntries
          refine ends ?_ areEntries read
          rw [values?, missing, found]
          exact areValues
      case h_2 alsoMissing =>
          refine @ends [] [] ?_ rfl read
          rw [values?, missing, alsoMissing]

theorem standsFor_of_mapM {descriptors : List ImportDescriptor}
    {parts : List (List Import)}
    (read : descriptors.mapM (Import.ofDescriptor? file header 4)
      = some parts) :
    ∃ tables, descriptors.mapM (ofDescriptor? file header) = some tables
      ∧ ∀ item ∈ parts.flatten, ∃ table ∈ tables, ∃ index value,
        item.StandsFor table index value := by
  induction descriptors generalizing parts with
  | nil =>
      cases read
      exact ⟨[], rfl, by simp⟩
  | cons descriptor rest induction =>
      rw [List.mapM_cons] at read
      obtain ⟨first, isFirst, read⟩ := Option.bind_eq_some_iff.1 read
      obtain ⟨others, areOthers, read⟩ := Option.bind_eq_some_iff.1 read
      cases read
      obtain ⟨table, isTable, ofTable⟩ := standsFor_of_ofDescriptor? isFirst
      obtain ⟨tables, areTables, ofTables⟩ := induction areOthers
      refine ⟨table :: tables, ?_, ?_⟩
      · rw [List.mapM_cons, isTable, areTables]
        rfl
      · intro item listed
        rw [List.flatten_cons, List.mem_append] at listed
        cases listed with
        | inl here => exact ⟨table, List.mem_cons_self, ofTable item here⟩
        | inr later =>
            obtain ⟨other, otherListed, stands⟩ := ofTables item later
            exact ⟨other, List.mem_cons_of_mem table otherListed, stands⟩

theorem standsFor_of_parse? {imports : List Import}
    (narrow : header.wide = false)
    (read : Import.parse? file header = some imports) :
    ∃ tables, parse? file header = some tables
      ∧ ∀ item ∈ imports, ∃ table ∈ tables, ∃ index value,
        item.StandsFor table index value := by
  rw [Import.parse?] at read
  rw [parse?]
  cases located : header.directory? 1 with
  | none =>
      rw [located] at read
      cases read
      exact ⟨[], rfl, by simp⟩
  | some directory =>
      rw [located] at read
      simp only [narrow, Bool.false_eq_true, if_false] at read
      obtain ⟨start, isStart, read⟩ := Option.bind_eq_some_iff.1 read
      obtain ⟨descriptors, areDescriptors, read⟩ :=
        Option.bind_eq_some_iff.1 read
      obtain ⟨parts, areParts, isFlat⟩ := Option.bind_eq_some_iff.1 read
      obtain ⟨tables, areTables, stand⟩ := standsFor_of_mapM areParts
      cases isFlat
      refine ⟨tables, ?_, stand⟩
      simp only [isStart, areDescriptors, areTables, Option.bind_eq_bind,
        Option.bind_some]

end ImportTable

/-- The reader of this library follows the import tables of every file. -/
theorem Contents.followsTables_read? (file : File) :
    Reader.FollowsTables read? file := by
  intro contents read narrow
  rw [read?] at read
  obtain ⟨header, isHeader, read⟩ := Option.bind_eq_some_iff.1 read
  obtain ⟨imports, areImports, read⟩ := Option.bind_eq_some_iff.1 read
  split at read
  case isTrue =>
      cases read
      obtain ⟨tables, areTables, stand⟩ :=
        ImportTable.standsFor_of_parse? narrow areImports
      refine ⟨tables, ?_, stand⟩
      rw [ImportTable.ofFile?, isHeader]
      exact areTables
  case isFalse => cases read

end DelphiRtti.Executable
