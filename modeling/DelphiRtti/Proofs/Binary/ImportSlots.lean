import DelphiRtti.Proofs.Binary.Loading
import DelphiRtti.Proofs.Script.Result

/-!
# The addresses of imports

A program reaches an import through a slot in the table of addresses of its
library, but the label of an import stands where its name is read, and at the
base of the image where it has an ordinal and no name.  It stands at the slot
only where these places happen to be the same.
-/

namespace DelphiRtti

open Text

/-- Two places in an image have one address exactly if they are the
same in a word. -/
theorem Address.add_ofNat_inj (base : Address) (left right : Nat) :
    base + UInt32.ofNat left = base + UInt32.ofNat right
    ↔ left % wordBound = right % wordBound := by
  have added (place : Nat) : base + UInt32.ofNat place
      = ⟨base.value + UInt32.ofNat place⟩ := rfl
  rw [added, added, Address.mk.injEq, UInt32.add_right_inj, ← UInt32.toNat_inj,
    UInt32.toNat_ofNat', UInt32.toNat_ofNat']
  rfl

namespace Binary

open Executable

variable {reader : Reader} {data : Array UInt8} {path : String}
  {binary : Binary} {project : Project}

theorem imports_eq (follows : reader.FollowsTables data)
    (loaded : ofBytesBy reader data path = .ok binary) :
    ∃ contents tables, reader data = some contents
      ∧ ImportTable.ofFile? data = some tables
      ∧ binary.imports
        = contents.imports.map (FoundImport.ofImport binary.imageBase)
      ∧ ∀ item ∈ contents.imports, ∃ table ∈ tables, ∃ index value,
        item.StandsFor table index value := by
  obtain ⟨contents, holds, rfl⟩ := ofBytesBy_eq_ok_iff.1 loaded
  obtain ⟨tables, areTables, stand⟩ :=
    follows contents holds.parsed holds.narrow
  exact ⟨contents, tables, holds.parsed, areTables, rfl, stand⟩

theorem label_of_import (follows : reader.FollowsTables data)
    (loaded : ofBytesBy reader data path = .ok binary)
    (made : binary.toProject.1 = .ok project)
    {item : FoundImport} (listed : item ∈ binary.imports) :
    ∃ id, project.findNamespace? .global item.library = some id
      ∧ (item.address, item.name) ∈ project.labelsIn id := by
  have numbered := libraries_numbered follows loaded
  obtain ⟨id, isLibrary, labels⟩ :=
    (describes_of_toProject made).labels numbered item listed
  refine ⟨id, isLibrary, ?_⟩
  have own :
      item ∈ binary.imports.filter fun other => other.library = item.library :=
    List.mem_filter.2 ⟨listed, decide_eq_true rfl⟩
  rw [labels]
  exact List.mem_map_of_mem (List.mem_mergeSort.2 own)

theorem address_of_standsFor {item : Import} {table : ImportTable}
    {index value : Nat} (stands : item.StandsFor table index value)
    (base : Address) :
    (FoundImport.ofImport base item).address
      = base + UInt32.ofNat (ImportTable.namePlace value) :=
  congrArg (fun place => base + UInt32.ofNat place) stands.address

/-- The imports of a binary are those that a reader finds in the import tables
of the file.  The address of an import, where its label in the project stands,
is that of its name, or the base of the image for an ordinal.  It is the address
of its slot only if both are the same place in a word, and two imports have
different addresses only if their names have different places. -/
theorem imports_at_names (follows : reader.FollowsTables data)
    (loaded : ofBytesBy reader data path = .ok binary) :
    ∃ contents tables, reader data = some contents
      ∧ ImportTable.ofFile? data = some tables
      ∧ binary.imports
        = contents.imports.map (FoundImport.ofImport binary.imageBase)
      ∧ (∀ item ∈ contents.imports, ∃ table ∈ tables, ∃ index value,
        item.StandsFor table index value)
      ∧ (∀ item ∈ contents.imports, ∀ table index value,
        item.StandsFor table index value →
        (FoundImport.ofImport binary.imageBase item).address
            = binary.imageBase + UInt32.ofNat (ImportTable.namePlace value)
          ∧ ((FoundImport.ofImport binary.imageBase item).address
              = binary.imageBase + UInt32.ofNat (table.slot index)
            ↔ ImportTable.namePlace value = table.slot index % wordBound)
          ∧ ∀ other ∈ contents.imports, ∀ otherTable otherIndex otherValue,
            other.StandsFor otherTable otherIndex otherValue →
            ((FoundImport.ofImport binary.imageBase item).address
                = (FoundImport.ofImport binary.imageBase other).address
              ↔ ImportTable.namePlace value
                = ImportTable.namePlace otherValue))
      ∧ ∀ project, binary.toProject.1 = .ok project →
        ∀ item ∈ binary.imports, ∃ id,
          project.findNamespace? .global item.library = some id
            ∧ (item.address, item.name) ∈ project.labelsIn id := by
  obtain ⟨contents, tables, areContents, areTables, areImports, stand⟩ :=
    imports_eq follows loaded
  refine ⟨contents, tables, areContents, areTables, areImports, stand, ?_, ?_⟩
  · intro item _ table index value stands
    have small := Nat.mod_eq_of_lt (ImportTable.namePlace_lt value)
    refine ⟨address_of_standsFor stands _, ?_, ?_⟩
    · rw [address_of_standsFor stands, Address.add_ofNat_inj, small]
    · intro other _ otherTable otherIndex otherValue otherStands
      have otherSmall := Nat.mod_eq_of_lt (ImportTable.namePlace_lt otherValue)
      rw [address_of_standsFor stands, address_of_standsFor otherStands,
        Address.add_ofNat_inj, small, otherSmall]
  · intro project made item listed
    exact label_of_import follows loaded made listed

end Binary

namespace Executable

def wordBytes (value : UInt32) : List UInt8 :=
  [value.toUInt8, (value >>> 8).toUInt8, (value >>> 16).toUInt8,
    (value >>> 24).toUInt8]

def zeroBytes (count : Nat) : List UInt8 := List.replicate count 0

/-- An executable that imports a function by its name and two by their
ordinals. -/
def threeImports : Array UInt8 := List.toArray <|
  -- The older header says where the newer one begins, which tells of one
  -- section.
  [0x4d, 0x5a] ++ zeroBytes 58 ++ wordBytes 0x40
    ++ wordBytes 0x4550 ++ wordBytes 0x1014c ++ zeroBytes 12
    ++ wordBytes 0x1020070
    -- The entry, the base of the image, the alignments and two directories, of
    -- which the first is absent.
    ++ wordBytes 0x10b ++ zeroBytes 12 ++ wordBytes 0x1000 ++ zeroBytes 8
    ++ wordBytes 0x400000 ++ wordBytes 0x1000 ++ wordBytes 0x200 ++ zeroBytes 52
    ++ wordBytes 2 ++ zeroBytes 8 ++ wordBytes 0x10f0 ++ wordBytes 40
    -- The section is the whole file.
    ++ [0x2e, 0x69, 0x64, 0x61, 0x74, 0x61, 0, 0] ++ wordBytes 0x142
    ++ wordBytes 0x1000 ++ wordBytes 0x200 ++ zeroBytes 16
    ++ wordBytes 0x40000000
    -- The places of the lookup table, of the name of the library and of the
    -- slots.
    ++ wordBytes 0x1118 ++ zeroBytes 8 ++ wordBytes 0x1138 ++ wordBytes 0x1128
    ++ zeroBytes 20
    -- The lookup table and the slots have the same values in the file.
    ++ wordBytes 0x113e ++ wordBytes 0x80000001 ++ wordBytes 0x80000002
    ++ wordBytes 0
    ++ wordBytes 0x113e ++ wordBytes 0x80000001 ++ wordBytes 0x80000002
    ++ wordBytes 0
    ++ [0x61, 0x2e, 0x64, 0x6c, 0x6c, 0, 0, 0, 0x66, 0]

end Executable

namespace Binary

open Executable

theorem read_threeImports :
    ∃ contents binary,
      Contents.read? threeImports = some contents
      ∧ ImportTable.ofFile? threeImports
        = some [⟨"a.dll", 0x1128, [0x113e, 0x80000001, 0x80000002]⟩]
      ∧ contents.imports
        = [⟨"a.dll", "f", 0x113e, 0x1128⟩, ⟨"a.dll", "ORDINAL 1", 0, 0x112c⟩,
          ⟨"a.dll", "ORDINAL 2", 0, 0x1130⟩]
      ∧ ofBytesBy Contents.read? threeImports "three.exe" = .ok binary
      ∧ binary.imageBase = .ofNat 0x400000 ∧ binary.SectionsApart := by
  have readContents :
      (Contents.read? threeImports).map (fun contents => contents.imports)
        = some [⟨"a.dll", "f", 0x113e, 0x1128⟩,
          ⟨"a.dll", "ORDINAL 1", 0, 0x112c⟩,
          ⟨"a.dll", "ORDINAL 2", 0, 0x1130⟩] := by
    decide +kernel
  have readBinary :
      (ofBytesBy Contents.read? threeImports "three.exe").toOption.map
        (fun binary => (binary.imageBase, decide binary.SectionsApart))
        = some (.ofNat 0x400000, true) := by
    decide +kernel
  obtain ⟨contents, areContents, areImports⟩ :=
    Option.map_eq_some_iff.1 readContents
  obtain ⟨binary, loaded, view⟩ := map_toOption_eq_some_iff.1 readBinary
  obtain ⟨base, apart⟩ := Prod.mk.inj view
  exact ⟨contents, binary, areContents, by decide +kernel, areImports, loaded,
    base, of_decide_eq_true apart⟩

theorem imports_at_names_threeImports :
    Contents.read?.FollowsTables threeImports
      ∧ ∃ binary project item table,
        ofBytesBy Contents.read? threeImports "three.exe" = .ok binary
        ∧ binary.toProject.1 = .ok project
        ∧ Import.StandsFor item table 0 0x113e
        ∧ FoundImport.ofImport binary.imageBase item ∈ binary.imports
        ∧ (FoundImport.ofImport binary.imageBase item).address
          = binary.imageBase + UInt32.ofNat 0x113e
        ∧ (FoundImport.ofImport binary.imageBase item).address
          ≠ binary.imageBase + UInt32.ofNat (table.slot 0)
        ∧ ∀ item ∈ binary.imports, ∃ id,
          project.findNamespace? .global item.library = some id
            ∧ (item.address, item.name) ∈ project.labelsIn id := by
  have follows := Contents.followsTables_read? threeImports
  refine ⟨follows, ?_⟩
  obtain ⟨contents, binary, areContents, _, areImports, loaded, _, apart⟩ :=
    read_threeImports
  obtain ⟨project, made⟩ := (exists_toProject_iff binary).2 apart
  obtain ⟨others, _, areOthers, _, found, _, addresses, labels⟩ :=
    imports_at_names follows loaded
  cases areContents.symm.trans areOthers
  have listed : ⟨"a.dll", "f", 0x113e, 0x1128⟩ ∈ contents.imports := by
    rw [areImports]
    exact List.mem_cons_self
  have stands : Import.StandsFor ⟨"a.dll", "f", 0x113e, 0x1128⟩
      ⟨"a.dll", 0x1128, [0x113e, 0x80000001, 0x80000002]⟩ 0 0x113e :=
    ⟨rfl, rfl, rfl, rfl⟩
  obtain ⟨atName, atSlot, _⟩ := addresses _ listed _ 0 _ stands
  refine ⟨binary, project, _, _, loaded, made, stands, ?_, atName, ?_,
    labels project made⟩
  · rw [found]
    exact List.mem_map_of_mem listed
  · rw [ne_eq, atSlot]
    decide

/-- None of three imports has the address of its slot, and two with different
slots are labels at one address. -/
theorem imports_miss_slots :
    Contents.read?.FollowsTables threeImports
      ∧ ∃ contents table binary project id,
        Contents.read? threeImports = some contents
        ∧ ImportTable.ofFile? threeImports = some [table]
        ∧ ofBytesBy Contents.read? threeImports "three.exe" = .ok binary
        ∧ binary.toProject.1 = .ok project
        ∧ binary.imageBase = .ofNat 0x400000
        ∧ contents.imports.map (fun item => item.slot)
          = [table.slot 0, table.slot 1, table.slot 2]
        ∧ binary.imports
          = [⟨"a.dll", "f", .ofNat 0x40113e⟩,
            ⟨"a.dll", "ORDINAL 1", .ofNat 0x400000⟩,
            ⟨"a.dll", "ORDINAL 2", .ofNat 0x400000⟩]
        ∧ ([0, 1, 2].map fun index =>
            binary.imageBase + UInt32.ofNat (table.slot index))
          = [.ofNat 0x401128, .ofNat 0x40112c, .ofNat 0x401130]
        ∧ project.findNamespace? .global "a.dll" = some id
        ∧ (.ofNat 0x400000, "ORDINAL 1") ∈ project.labelsIn id
        ∧ (.ofNat 0x400000, "ORDINAL 2") ∈ project.labelsIn id := by
  have follows := Contents.followsTables_read? threeImports
  refine ⟨follows, ?_⟩
  obtain ⟨contents, binary, areContents, isTable, areImports, loaded, base,
    apart⟩ := read_threeImports
  obtain ⟨project, made⟩ := (exists_toProject_iff binary).2 apart
  obtain ⟨_, _, areOthers, _, found, _⟩ := imports_eq follows loaded
  cases areContents.symm.trans areOthers
  have foundThree : binary.imports
      = [⟨"a.dll", "f", .ofNat 0x40113e⟩,
        ⟨"a.dll", "ORDINAL 1", .ofNat 0x400000⟩,
        ⟨"a.dll", "ORDINAL 2", .ofNat 0x400000⟩] := by
    rw [found, areImports, base]
    decide
  have labelled {item : FoundImport} (listed : item ∈ binary.imports) :=
    label_of_import follows loaded made listed
  rw [foundThree] at labelled
  obtain ⟨id, isLibrary, isLabel⟩ :=
    labelled (List.mem_cons_of_mem _ List.mem_cons_self)
  obtain ⟨_, isLibrary', isLabel'⟩ := labelled
    (List.mem_cons_of_mem _ (List.mem_cons_of_mem _ List.mem_cons_self))
  cases isLibrary.symm.trans isLibrary'
  refine ⟨contents, _, binary, project, id, areContents, isTable, loaded, made,
    base, ?_, foundThree, ?_, isLibrary, isLabel, isLabel'⟩
  · rw [areImports]
    rfl
  · rw [base]
    decide

end Binary

end DelphiRtti
