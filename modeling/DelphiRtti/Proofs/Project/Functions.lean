import Mathlib.Data.Fintype.Option
import DelphiRtti.Proofs.Project.Frames
import DelphiRtti.Proofs.Project.Reachable

/-!
# The function table and its index

In every reachable project the index of entries and the table of
functions are inverse to each other, and every position of the table is
the number of a function.
-/

namespace DelphiRtti

open Text

theorem FunctionId.position_injective {left right : FunctionId}
    (same : left.position = right.position) : left = right := by
  cases left
  cases right
  exact congrArg FunctionId.mk (UInt32.toNat_inj.1 same)

theorem FunctionId.position_ofPosition {position : Nat}
    (small : position < wordBound) :
    (ofPosition position).position = position :=
  UInt32.toNat_ofNat_of_lt' small

/-- The code of an address as one of finitely many numbers. -/
def Address.toFin (address : Address) :
    Fin wordBound := ⟨address.toNat, address.toNat_lt⟩

theorem Address.toFin_injective : Function.Injective toFin := by
  intro left right same
  exact toNat_injective (Fin.mk.inj same)

namespace Project

/-- The index finds exactly the functions of the table, and their
numbers do not run out. -/
structure Indexed (project : Project) : Prop where
  functionAt?_eq_some_iff : ∀ {address : Address} {id : FunctionId},
    project.functionAt? address = some id
      ↔ ∃ record, project.function? id = some record ∧ record.entry = address
  length_le : project.functions.length ≤ wordBound

variable {project : Project}

namespace Indexed

theorem functionAt?_injective (indexed : Indexed project) {left right : Address}
    {id : FunctionId} (atLeft : project.functionAt? left = some id)
    (atRight : project.functionAt? right = some id) : left = right := by
  obtain ⟨record, found, rfl⟩ := indexed.functionAt?_eq_some_iff.1 atLeft
  obtain ⟨other, foundAgain, rfl⟩ := indexed.functionAt?_eq_some_iff.1 atRight
  cases found.symm.trans foundAgain
  rfl

theorem functionAt?_entry (indexed : Indexed project)
    {position : Nat} {record : FunctionRecord}
    (found : project.functions[position]? = some record) :
    project.functionAt? record.entry = some (.ofPosition position) := by
  have below : position < wordBound := by
    have := (List.getElem?_eq_some_iff.1 found).1
    have := indexed.length_le
    omega
  refine indexed.functionAt?_eq_some_iff.2 ⟨record, ?_, rfl⟩
  rw [function?, FunctionId.position_ofPosition below]
  exact found

/-- No two functions have the same entry. -/
theorem position_eq (indexed : Indexed project)
    {left right : Nat} {record other : FunctionRecord}
    (found : project.functions[left]? = some record)
    (foundOther : project.functions[right]? = some other)
    (same : record.entry = other.entry) : left = right := by
  have below := (List.getElem?_eq_some_iff.1 found).1
  have belowOther := (List.getElem?_eq_some_iff.1 foundOther).1
  have bound := indexed.length_le
  have atEntry := indexed.functionAt?_entry found
  rw [same, indexed.functionAt?_entry foundOther] at atEntry
  have sameNumber := congrArg FunctionId.position (Option.some.inj atEntry)
  rw [FunctionId.position_ofPosition (by omega),
    FunctionId.position_ofPosition (by omega)]
    at sameNumber
  exact sameNumber.symm

/-- The entry of the function at a position, and beside them an
address of no function. -/
def entryOr (project : Project) (address : Address) :
    Option (Fin project.functions.length) → Address
  | none => address
  | some position => project.functions[position].entry

theorem entryOr_injective (indexed : Indexed project)
    {address : Address} (free : project.functionAt? address = none) :
    Function.Injective (entryOr project address) := by
  have entryOf (position : Fin project.functions.length) :
      project.functionAt? project.functions[position].entry
        = some (.ofPosition position) :=
    indexed.functionAt?_entry (List.getElem?_eq_getElem position.isLt)
  intro left right sameEntry
  cases left with
  | none =>
      cases right with
      | none => rfl
      | some right =>
          have found := entryOf right
          change address = project.functions[right].entry at sameEntry
          rw [← sameEntry, free] at found
          cases found
  | some left =>
      cases right with
      | none =>
          have found := entryOf left
          change project.functions[left].entry = address at sameEntry
          rw [sameEntry, free] at found
          cases found
      | some right =>
          have samePosition :=
            indexed.position_eq (List.getElem?_eq_getElem left.isLt)
            (List.getElem?_eq_getElem right.isLt) sameEntry
          exact congrArg some (Fin.ext samePosition)

/-- While some address has no function, there are fewer functions than
addresses. -/
theorem length_lt (indexed : Indexed project)
    {address : Address} (free : project.functionAt? address = none) :
    project.functions.length < wordBound := by
  have distinct := Address.toFin_injective.comp (entryOr_injective indexed free)
  have count := Fintype.card_le_of_injective _ distinct
  rw [Fintype.card_option, Fintype.card_fin, Fintype.card_fin] at count
  exact count

end Indexed

theorem Indexed.congr {other : Project} (indexed : Indexed project)
    (functions : other.functions = project.functions)
    (entries : other.entries = project.entries) : Indexed other where
  functionAt?_eq_some_iff := by
    simp only [functionAt?, function?, functions, entries]
    exact indexed.functionAt?_eq_some_iff
  length_le := functions ▸ indexed.length_le

theorem function?_setFunction {id : FunctionId} {record : FunctionRecord}
    (known : project.function? id = some record) (edited : FunctionRecord)
    (other : FunctionId) :
    (project.setFunction id edited).function? other
      = if other = id then some edited else project.function? other := by
  have inside := (List.getElem?_eq_some_iff.1 known).1
  by_cases same : other = id
  · simp [setFunction, function?, same, inside]
  · have apart : id.position ≠ other.position :=
      fun equal => same (FunctionId.position_injective equal.symm)
    simp [setFunction, function?, same, apart]

theorem Indexed.setFunction (indexed : Indexed project)
    {id : FunctionId} {record edited : FunctionRecord}
    (known : project.function? id = some record)
    (sameEntry : edited.entry = record.entry) :
    Indexed (project.setFunction id edited) where
  functionAt?_eq_some_iff := by
    intro address other
    rw [function?_setFunction known]
    apply indexed.functionAt?_eq_some_iff.trans
    by_cases same : other = id
    · simp [same, known, sameEntry]
    · simp [same]
  length_le := by
    rw [Project.setFunction, List.length_set]
    exact indexed.length_le

theorem functionAt?_withFunction (project : Project) (record : FunctionRecord)
    (address : Address) :
    (project.withFunction record).functionAt? address
      = if record.entry = address then
        some (.ofPosition project.functions.length)
        else project.functionAt? address :=
  SortedMap.get?_insert ..

theorem function?_withFunction (project : Project) (record : FunctionRecord)
    (id : FunctionId) :
    (project.withFunction record).function? id
      = if id.position = project.functions.length then some record else
        project.function? id := by
  simp only [function?, withFunction, List.getElem?_append,
    List.getElem?_singleton]
  split
  next inside => rw [if_neg (by omega)]
  next outside =>
    by_cases last : id.position = project.functions.length
    · simp [last]
    · rw [if_neg (by omega), if_neg last, List.getElem?_eq_none (by omega)]

theorem Indexed.withFunction (indexed : Indexed project)
    {record : FunctionRecord} (free : project.functionAt? record.entry = none) :
    Indexed (project.withFunction record) where
  functionAt?_eq_some_iff := by
    intro address id
    have room := indexed.length_lt free
    have number : (FunctionId.ofPosition project.functions.length).position
        = project.functions.length := FunctionId.position_ofPosition room
    rw [functionAt?_withFunction, function?_withFunction]
    by_cases here : record.entry = address <;>
      by_cases last : id.position = project.functions.length
    · have same : FunctionId.ofPosition project.functions.length = id :=
        FunctionId.position_injective (number.trans last.symm)
      simp [here, last, same]
    · have apart : FunctionId.ofPosition project.functions.length ≠ id := by
        rintro rfl
        exact last number
      rw [if_pos here, if_neg last, ← indexed.functionAt?_eq_some_iff,
        ← here, free]
      simp [apart]
    · have unknown : project.function? id = none :=
        List.getElem?_eq_none (Nat.le_of_eq last.symm)
      rw [if_neg here, if_pos last, indexed.functionAt?_eq_some_iff, unknown]
      simp [here]
    · rw [if_neg here, if_neg last]
      exact indexed.functionAt?_eq_some_iff
  length_le := by
    have room := indexed.length_lt free
    simp only [Project.withFunction, List.length_append, List.length_singleton]
    omega

variable {entry : Address} {id : FunctionId}

theorem addFunction_of_free (free : project.functionAt? entry = none)
    (name : String) (signature : Signature) (source : Source) :
    project.addFunction entry name signature source
      = .ok (.ofPosition project.functions.length,
          project.withFunction ⟨entry, name, .global, signature, source⟩) := by
  have absent : project.entries.contains entry = false :=
    congrArg Option.isSome free
  rw [addFunction, absent]
  rfl

theorem addFunction_of_taken (taken : project.functionAt? entry = some id)
    (name : String) (signature : Signature) (source : Source) :
    project.addFunction entry name signature source
      = .error (.functionExists entry) := by
  have present : project.entries.contains entry = true :=
    congrArg Option.isSome taken
  rw [addFunction, if_pos present]

theorem Indexed.change {next : Project} (indexed : Indexed project)
    (change : Change project next) : Indexed next := by
  cases change with
  | addFunction record free => exact indexed.withFunction free
  | setFunction known sameEntry => exact indexed.setFunction known sameEntry
  | _ => exact indexed.congr rfl rfl

theorem Indexed.empty : Indexed .empty where
  functionAt?_eq_some_iff := by
    simp [functionAt?, function?, Project.empty, ofImage]
  length_le := Nat.zero_le _

theorem Reachable.indexed (reachable : Reachable project) : Indexed project :=
  reachable.keeps Indexed.empty Indexed.change

end Project

end DelphiRtti
