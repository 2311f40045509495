import Mathlib.Data.Finset.Card
import Mathlib.Data.Finset.Image
import DelphiRtti.Proofs.Counts
import DelphiRtti.Proofs.Binary.ImportTables
import DelphiRtti.Proofs.Binary.Imports

/-!
# Binaries that are read from files

A file is refused for its size, for its first bytes, or for what a reader of
executables says of it.  A file names a library by a place in memory of 32 bits,
at which the name is read, so no binary that is read from a file has more
libraries than there are numbers for namespaces.
-/

namespace DelphiRtti

open Text

namespace Binary

def IsMarked (data : Array UInt8) : Prop :=
  data[0]? = some 0x4d ∧ data[1]? = some 0x5a

/-- Why the bytes of a file are refused, with a given way to read
executables. -/
inductive Rejects (reader : Executable.Reader) (data : Array UInt8) :
    LoadError → Prop where
  | tooSmall (short : data.size < 4) : Rejects reader data .tooSmall
  | unknownFormat (long : 4 ≤ data.size) (unmarked : ¬ IsMarked data) :
      Rejects reader data .unknownFormat
  | malformed (long : 4 ≤ data.size) (marked : IsMarked data)
      (refused : reader data = none) :
      Rejects reader data .malformed
  | wide (long : 4 ≤ data.size) (marked : IsMarked data)
      {contents : Executable.Contents}
      (parsed : reader data = some contents) (wide : contents.wide = true) :
      Rejects reader data .wide
  | distant (long : 4 ≤ data.size) (marked : IsMarked data)
      {contents : Executable.Contents}
      (parsed : reader data = some contents) (narrow : contents.wide = false)
      (far : wordBound ≤ contents.imageBase) :
      Rejects reader data (.distant contents.imageBase)

/-- What bytes are read as: the contents of an executable that fits into
addresses of 32 bits. -/
structure Holds (reader : Executable.Reader) (data : Array UInt8)
    (contents : Executable.Contents) : Prop where
  long : 4 ≤ data.size
  marked : IsMarked data
  parsed : reader data = some contents
  narrow : contents.wide = false
  near : contents.imageBase < wordBound

variable {reader : Executable.Reader} {data : Array UInt8} {path : String}

theorem ofBytesBy_cases (reader : Executable.Reader) (data : Array UInt8)
    (path : String) :
    (∃ failure, ofBytesBy reader data path = .error failure
      ∧ Rejects reader data failure)
      ∨ ∃ contents, ofBytesBy reader data path
        = .ok (ofContents data path contents)
        ∧ Holds reader data contents := by
  rw [ofBytesBy]
  split
  case isTrue short => exact .inl ⟨_, rfl, .tooSmall short⟩
  case isFalse notShort =>
      have long := Nat.le_of_not_lt notShort
      split
      case isFalse unmarked => exact .inl ⟨_, rfl, .unknownFormat long unmarked⟩
      case isTrue marked =>
          split
          case h_1 refused =>
              exact .inl ⟨_, rfl, .malformed long marked refused⟩
          case h_2 contents parsed =>
              split
              case isTrue wide =>
                  exact .inl ⟨_, rfl, .wide long marked parsed wide⟩
              case isFalse notWide =>
                  have narrow := Bool.eq_false_iff.2 notWide
                  split
                  case isTrue far => exact .inl ⟨_, rfl,
                    .distant long marked parsed narrow far⟩
                  case isFalse notFar =>
                      exact .inr ⟨contents, rfl, long, marked, parsed, narrow,
                        Nat.lt_of_not_le notFar⟩

theorem Rejects.ofBytesBy_eq {failure : LoadError}
    (rejects : Rejects reader data failure) (path : String) :
    ofBytesBy reader data path = .error failure := by
  cases rejects with
  | tooSmall short => exact if_pos short
  | unknownFormat long unmarked =>
      rw [ofBytesBy, if_neg (Nat.not_lt.2 long)]
      exact if_neg unmarked
  | malformed long marked refused =>
      rw [ofBytesBy, if_neg (Nat.not_lt.2 long), refused]
      exact if_pos marked
  | wide long marked parsed wide =>
      rw [ofBytesBy, if_neg (Nat.not_lt.2 long), parsed]
      simp only [wide]
      exact if_pos marked
  | distant long marked parsed narrow far =>
      rw [ofBytesBy, if_neg (Nat.not_lt.2 long), parsed]
      simp only [narrow, if_pos far]
      exact if_pos marked

theorem Holds.ofBytesBy_eq {contents : Executable.Contents}
    (holds : Holds reader data contents) (path : String) :
    ofBytesBy reader data path = .ok (ofContents data path contents) := by
  rw [ofBytesBy, if_neg (Nat.not_lt.2 holds.long), holds.parsed]
  simp only [holds.narrow, if_neg (Nat.not_le.2 holds.near)]
  exact if_pos holds.marked

theorem ofBytesBy_eq_ok_iff {binary : Binary} :
    ofBytesBy reader data path = .ok binary
      ↔ ∃ contents, Holds reader data contents
        ∧ binary = ofContents data path contents := by
  constructor
  · intro loaded
    rcases ofBytesBy_cases reader data path
      with ⟨other, failed, _⟩ | ⟨contents, read, holds⟩
    · cases loaded.symm.trans failed
    · exact ⟨contents, holds, Except.ok.inj (loaded.symm.trans read)⟩
  · rintro ⟨contents, holds, rfl⟩
    exact holds.ofBytesBy_eq path

end Binary

namespace Executable

theorem File.field?_lt {file : File} {offset width value : Nat}
    (read : file.field? offset width = some value) : value < 256 ^ width := by
  rw [field?] at read
  split at read
  case isTrue inside =>
      cases read
      have size : (file.extract offset (offset + width)).toList.length
          = width := by
        rw [Array.length_toList, Array.size_extract]
        omega
      simpa only [size]
        using littleEndian_lt (file.extract offset (offset + width)).toList
  case isFalse => cases read

theorem ImportDescriptor.name_lt
    {file : File} {offset : Nat} {descriptor : ImportDescriptor}
    (read : parse? file offset = some descriptor) :
    descriptor.name < wordBound := by
  simp only [parse?, Option.bind_eq_bind, Option.bind_eq_some_iff,
    Option.pure_def, Option.some.injEq] at read
  obtain ⟨_, _, _, _, _, _, name, found, _, _, rfl⟩ := read
  exact File.field?_lt found

theorem ImportDescriptor.name_lt_of_mem
    {file : File} {offset : Nat} {descriptors : List ImportDescriptor}
    (read : parseAll? file offset = some descriptors) :
    ∀ descriptor ∈ descriptors, descriptor.name < wordBound := by
  fun_induction parseAll? file offset generalizing descriptors with
  | case1 offset inside first parsed zero =>
      cases read
      simp
  | case2 offset inside first parsed zero induction =>
      obtain ⟨rest, restRead, rfl⟩ := Option.map_eq_some_iff.1 read
      intro descriptor listed
      rcases List.mem_cons.1 listed with rfl | later
      · exact name_lt parsed
      · exact induction restRead descriptor later
  | case3 => cases read
  | case4 => cases read

theorem ImportTable.named_of_parse? {file : File} {header : Header}
    {tables : List ImportTable} (read : parse? file header = some tables) :
    ∀ table ∈ tables, ∃ address < wordBound,
      header.nameAt? file address = some table.library := by
  rw [parse?] at read
  split at read
  case h_1 =>
      cases read
      simp
  case h_2 directory _ =>
      obtain ⟨start, _, read⟩ := Option.bind_eq_some_iff.1 read
      obtain ⟨descriptors, areDescriptors, read⟩ :=
        Option.bind_eq_some_iff.1 read
      intro table listed
      obtain ⟨descriptor, descriptorListed, isTable⟩ :=
        exists_of_mem_mapM read listed
      have below := ImportDescriptor.name_lt_of_mem areDescriptors descriptor
        descriptorListed
      exact ⟨descriptor.name, below, name_of_ofDescriptor? isTable⟩

end Executable

theorem nodup_eraseDups {α : Type} [DecidableEq α] (items : List α) :
    items.eraseDups.Nodup := by
  match items with
  | [] => exact .nil
  | item :: rest =>
      rw [List.eraseDups_cons]
      refine List.nodup_cons.2 ⟨?_, nodup_eraseDups _⟩
      rw [List.mem_eraseDups, List.mem_filter]
      simp
termination_by items.length
decreasing_by exact Nat.lt_succ_of_le (List.length_filter_le _ rest)

/-- Libraries whose names are read at places of 32 bits are not more
than such places. -/
theorem length_librariesOf_le
    {imports : List FoundImport} {nameAt : Nat → Option String}
    (named : ∀ item ∈ imports, ∃ address < wordBound, nameAt address
      = some item.library) : (librariesOf imports).length ≤ wordBound := by
  have distinct : ((librariesOf imports).map some).Nodup :=
    (nodup_eraseDups _).map (Option.some_injective String)
  have covered : ((librariesOf imports).map some).toFinset
      ⊆ (Finset.range wordBound).image nameAt := by
    intro name listed
    obtain ⟨library, libraryListed, rfl⟩ :=
      List.mem_map.1 (List.mem_toFinset.1 listed)
    obtain ⟨item, itemListed, rfl⟩ :=
      List.mem_map.1 (List.mem_eraseDups.1 libraryListed)
    obtain ⟨address, below, found⟩ := named item itemListed
    exact Finset.mem_image.2 ⟨address, Finset.mem_range.2 below, found⟩
  calc
    (librariesOf imports).length
      = ((librariesOf imports).map some).toFinset.card := by
      rw [List.toFinset_card_of_nodup distinct, List.length_map]
    _ ≤ ((Finset.range wordBound).image nameAt).card :=
      Finset.card_le_card covered
    _ ≤ (Finset.range wordBound).card := Finset.card_image_le
    _ = wordBound := Finset.card_range wordBound

/-- A binary that is read from a file has a number for each of its libraries. -/
theorem Binary.libraries_numbered {reader : Executable.Reader}
    {data : Array UInt8} {path : String} {binary : Binary}
    (follows : reader.FollowsTables data)
    (loaded : ofBytesBy reader data path = .ok binary) :
    (librariesOf binary.imports).length ≤ wordBound := by
  obtain ⟨contents, holds, rfl⟩ := ofBytesBy_eq_ok_iff.1 loaded
  obtain ⟨tables, areTables, stand⟩ :=
    follows contents holds.parsed holds.narrow
  obtain ⟨header, _, areTables⟩ := Option.bind_eq_some_iff.1 areTables
  apply length_librariesOf_le
  · intro item listed
    obtain ⟨source, sourceListed, rfl⟩ := List.mem_map.1 listed
    obtain ⟨table, tableListed, _, _, stands⟩ := stand source sourceListed
    obtain ⟨address, below, named⟩ :=
      Executable.ImportTable.named_of_parse? areTables table tableListed
    exact ⟨address, below, named.trans (congrArg some stands.library.symm)⟩

end DelphiRtti
