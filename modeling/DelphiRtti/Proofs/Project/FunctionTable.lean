import DelphiRtti.Proofs.MethodTable.Walked
import DelphiRtti.Proofs.Project.Functions
import DelphiRtti.Proofs.Rebuild.Session
import DelphiRtti.Proofs.SortedMap

/-!
# Numbers of functions

A function is numbered by its position in the order of creation.  In a
session the list of entries only ever grows at its end, so no number is given
twice; and as the entries are distinct addresses, a number of 32 bits is
enough for every position.
-/

namespace DelphiRtti

open Text

namespace Project

variable {project next : Project} {entry : Address} {id : FunctionId}

namespace Indexed

theorem nodup_entries (indexed : project.Indexed) :
    (project.functions.map FunctionRecord.entry).Nodup := by
  rw [List.Nodup, List.pairwise_map, List.pairwise_iff_getElem]
  intro left right below belowOther before same
  have samePosition := indexed.position_eq (List.getElem?_eq_getElem below)
    (List.getElem?_eq_getElem belowOther) same
  exact Nat.ne_of_lt before samePosition

/-- The index has one entry for each function and no others. -/
theorem keys_perm (indexed : project.Indexed) :
    project.entries.keys.Perm (project.functions.map FunctionRecord.entry) := by
  rw [List.perm_ext_iff_of_nodup project.entries.nodup_keys
    indexed.nodup_entries]
  intro address
  rw [SortedMap.mem_keys_iff, List.mem_map]
  constructor
  · rintro ⟨id, placed⟩
    obtain ⟨record, known, here⟩ := indexed.functionAt?_eq_some_iff.1 placed
    exact ⟨record, List.mem_of_getElem? known, here⟩
  · rintro ⟨record, listed, rfl⟩
    obtain ⟨position, found⟩ := List.getElem?_of_mem listed
    exact ⟨_, indexed.functionAt?_entry found⟩

theorem position_lt (indexed : project.Indexed)
    (placed : project.functionAt? entry = some id) :
    id.position < project.functions.length := by
  obtain ⟨record, known, _⟩ := indexed.functionAt?_eq_some_iff.1 placed
  exact (List.getElem?_eq_some_iff.1 known).1

end Indexed

/-- Whether the functions of a project are, by their entries, the first
ones of another project. -/
def KeepsEntries (before after : Project) : Prop :=
  before.functions.map FunctionRecord.entry <+: after.functions.map
    FunctionRecord.entry

namespace KeepsEntries

theorem of_functions_eq (same : next.functions = project.functions) :
    project.KeepsEntries next := by
  rw [KeepsEntries, same]

theorem withFunction (project : Project) (record : FunctionRecord) :
    project.KeepsEntries (project.withFunction record) := by
  rw [KeepsEntries, Project.withFunction, List.map_append]
  exact List.prefix_append _ _

theorem setFunction {record edited : FunctionRecord}
    (known : project.function? id = some record)
    (sameEntry : edited.entry = record.entry) :
    project.KeepsEntries (project.setFunction id edited) := by
  obtain ⟨inside, here⟩ := List.getElem?_eq_some_iff.1 known
  have place : (project.functions.map FunctionRecord.entry)[id.position]?
      = some record.entry := by
    rw [List.getElem?_map, List.getElem?_eq_getElem inside, here]
    rfl
  obtain ⟨insideMap, entryHere⟩ := List.getElem?_eq_some_iff.1 place
  rw [KeepsEntries, Project.setFunction, List.map_set, sameEntry, ← entryHere,
    List.set_getElem_self]

theorem of_change (change : Change project next) :
    project.KeepsEntries next := by
  cases change with
  | addFunction record free => exact withFunction project record
  | setFunction known sameEntry => exact setFunction known sameEntry
  | _ => exact of_functions_eq rfl

theorem performAll (operations : List Operation) (project : Project) :
    project.KeepsEntries (Project.performAll operations project) := by
  refine performAll_keeps ?_ operations (of_functions_eq rfl)
  intro before after kept change
  exact List.IsPrefix.trans kept (of_change change)

/-- A function stays where it was found, under its number. -/
theorem keepsFunctions (kept : project.KeepsEntries next)
    (indexed : project.Indexed) (indexedNext : next.Indexed) :
    project.KeepsFunctions next := by
  intro address id placed
  obtain ⟨record, known, rfl⟩ := indexed.functionAt?_eq_some_iff.1 placed
  have first : (project.functions.map FunctionRecord.entry)[id.position]?
      = some record.entry := by
    rw [List.getElem?_map]
    exact congrArg (Option.map FunctionRecord.entry) known
  obtain ⟨inside, here⟩ := List.getElem?_eq_some_iff.1 first
  have later := List.prefix_iff_getElem?.1 kept id.position inside
  rw [here, List.getElem?_map] at later
  obtain ⟨record, known, sameEntry⟩ := Option.map_eq_some_iff.1 later
  exact indexedNext.functionAt?_eq_some_iff.2 ⟨record, known, sameEntry⟩

end KeepsEntries

theorem createFunction_of_free (free : project.functionAt? entry = none)
    (executable : project.image.isExecutable entry = true) (name : String) :
    project.createFunction entry name
      = .ok (some (.ofPosition project.functions.length),
          project.withFunction
            ⟨entry, name, .global, .undefined, .userDefined⟩) := by
  have absent : project.entries.contains entry = false :=
    congrArg Option.isSome free
  rw [createFunction, absent, executable, addFunction_of_free free]
  rfl

theorem createFunction_of_refused
    (refused : project.functionAt? entry ≠ none
      ∨ project.image.isExecutable entry = false) (name : String) :
    project.createFunction entry name = .ok (none, project) := by
  have either :
      (project.entries.contains entry || !project.image.isExecutable entry)
        = true := by
    rcases refused with taken | notExecutable
    · have present : project.entries.contains entry = true :=
        Option.isSome_iff_ne_none.2 taken
      rw [present, Bool.true_or]
    · rw [notExecutable, Bool.not_false, Bool.or_true]
  rw [createFunction, if_pos either]

/-- Whether a function was defined under the number that is its position, behind
all functions before it. -/
structure Defines (project : Project) (record : FunctionRecord)
    (id : FunctionId) (next : Project) : Prop where
  position : id.position = project.functions.length
  made : next = project.withFunction record
  known : next.function? id = some record

theorem Indexed.defines (indexed : project.Indexed) {record : FunctionRecord}
    (free : project.functionAt? record.entry = none) :
    project.Defines record (.ofPosition project.functions.length)
      (project.withFunction record) where
  position := FunctionId.position_ofPosition (indexed.length_lt free)
  made := rfl
  known := by
    rw [function?_withFunction,
      if_pos (FunctionId.position_ofPosition (indexed.length_lt free))]

/-- In every reachable project the table of functions and the index of their
entries are inverse to each other.  No two functions have the same entry, so
there are at most as many as there are addresses, every position has a number of
its own, and a number from the index is inside the table.  Whatever is done
afterwards, the functions stay the first ones of the table with their entries,
and are found where they were.  A function that is defined gets the next number,
and where none can be defined the project stays as it is. -/
theorem functions_match_entries (reachable : project.Reachable) :
    (∀ address id, project.functionAt? address = some id
        ↔ ∃ record, project.function? id = some record ∧ record.entry = address)
      ∧ (project.functions.map FunctionRecord.entry).Nodup
      ∧ project.entries.keys.Perm (project.functions.map FunctionRecord.entry)
      ∧ project.functions.length ≤ wordBound
      ∧ (∀ position, position < project.functions.length →
        (FunctionId.ofPosition position).position = position)
      ∧ (∀ address id, project.functionAt? address = some id →
        id.position < project.functions.length)
      ∧ (∀ operations, project.KeepsEntries (performAll operations project)
        ∧ project.KeepsFunctions (performAll operations project))
      ∧ (∀ entry name signature source,
        (project.functionAt? entry = none → ∃ id next,
          project.addFunction entry name signature source = .ok (id, next)
            ∧ project.Defines ⟨entry, name, .global, signature, source⟩ id next)
        ∧ (project.functionAt? entry ≠ none →
          project.addFunction entry name signature source
            = .error (.functionExists entry)
            ∧ perform (.addFunction entry name signature source) project
              = project))
      ∧ ∀ entry name,
        (project.functionAt? entry = none →
          project.image.isExecutable entry = true → ∃ id next,
          project.respond (.createFunction entry name) = (.ok (some id), next)
            ∧ project.Defines
              ⟨entry, name, .global, .undefined, .userDefined⟩ id next)
        ∧ (project.functionAt? entry ≠ none
          ∨ project.image.isExecutable entry = false →
          project.respond (.createFunction entry name)
            = (.ok none, project)) := by
  have indexed := reachable.indexed
  refine ⟨fun _ _ => indexed.functionAt?_eq_some_iff, indexed.nodup_entries,
    indexed.keys_perm,
    indexed.length_le, ?_, fun _ _ => indexed.position_lt, ?_, ?_, ?_⟩
  · intro position below
    exact FunctionId.position_ofPosition
      (Nat.lt_of_lt_of_le below indexed.length_le)
  · intro operations
    have kept := KeepsEntries.performAll operations project
    exact ⟨kept,
      kept.keepsFunctions indexed (reachable.performAll operations).indexed⟩
  · intro entry name signature source
    constructor
    · intro free
      exact ⟨_, _, addFunction_of_free free name signature source,
        indexed.defines free⟩
    · intro taken
      obtain ⟨id, placed⟩ := Option.ne_none_iff_exists'.1 taken
      have refused := addFunction_of_taken placed name signature source
      refine ⟨refused, ?_⟩
      rw [perform, refused]
  · intro entry name
    constructor
    · intro free executable
      refine ⟨_, _, ?_, indexed.defines free⟩
      rw [respond, createFunction_of_free free executable]
      rfl
    · intro refused
      rw [respond, createFunction_of_refused refused]
      rfl

theorem functions_match_entries_tabled :
    let project := performAll tabledSession .empty
    project.functions.length = 2
      ∧ project.functionAt? (.ofNat 4096) = some (.ofPosition 0)
      ∧ (∃ record, project.function? (.ofPosition 0) = some record
        ∧ record.entry = .ofNat 4096)
      ∧ perform (.addFunction (.ofNat 4096) "Again" .undefined .analysis)
        project = project
      ∧ ∃ id next, project.addFunction
        (.ofNat 4098) "Other" .undefined .analysis = .ok (id, next)
        ∧ id.position = 2 := by
  have length : (performAll tabledSession .empty).functions.length = 2 := by
    decide +kernel
  have placed : (performAll tabledSession .empty).functionAt? (.ofNat 4096)
      = some (.ofPosition 0) := by
    decide +kernel
  have free : (performAll tabledSession .empty).functionAt? (.ofNat 4098)
      = none := by decide +kernel
  obtain ⟨inverse, _, _, _, _, _, _, adds, _⟩ :=
    functions_match_entries (Reachable.empty.performAll tabledSession)
  refine ⟨length, placed, (inverse _ _).1 placed, ?_, ?_⟩
  · have taken :
      (performAll tabledSession .empty).functionAt? (.ofNat 4096) ≠ none :=
      Option.ne_none_iff_exists'.2 ⟨_, placed⟩
    exact ((adds (.ofNat 4096) "Again" .undefined .analysis).2 taken).2
  · obtain ⟨id, next, added, defines⟩ :=
      (adds (.ofNat 4098) "Other" .undefined .analysis).1 free
    exact ⟨id, next, added, defines.position.trans length⟩

end Project

end DelphiRtti
