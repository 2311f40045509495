import DelphiRtti.Proofs.MethodTable.Steps
import DelphiRtti.Proofs.Project.Types

/-!
# The function types that a walk keeps

Every listed slot keeps the type of its function.  So a name that was free gets
the function type of the first slot of that name, and every field of the table
points to what is stored under the field's name.
-/

namespace DelphiRtti

namespace Project

/-- The function type of the first slot with a field name. -/
def firstPrototype? (project : Project) (slots : List Slot) (name : String) :
    Option DataType :=
  (slots.find? fun slot => slot.fieldName = name).map fun slot =>
    .function ⟨name, project.signatureAt slot.target⟩

/-- The type that the fields of a name point to: what is stored under the name,
or else the function type of the first slot of that name. -/
def fieldType? (project : Project) (slots : List Slot) (name : String) :
    Option DataType :=
  (project.type? name).or (project.firstPrototype? slots name)

/-- Whether one project is, as far as types and functions go, what keeping the
function types of some slots makes of another one. -/
structure KeepsPrototypes (before : Project) (slots : List Slot)
    (after : Project) : Prop where
  types : ∀ name, after.type? name = before.fieldType? slots name
  signatures : ∀ address, after.signatureAt address = before.signatureAt address
  known : ∀ {id record}, before.function? id = some record →
    ∃ later, after.function? id = some later ∧ later.entry = record.entry
      ∧ later.definition = record.definition
  functions : ∀ slot ∈ slots, ∃ record,
    after.function? slot.function = some record
    ∧ record.entry = slot.target
    ∧ record.definition = ⟨slot.fieldName, before.signatureAt slot.target⟩

variable {before middle after project left : Project} {slots later : List Slot}

theorem firstPrototype?_congr
    (same : ∀ address, after.signatureAt address = before.signatureAt address)
    (slots : List Slot) (name : String) :
    after.firstPrototype? slots name = before.firstPrototype? slots name := by
  simp only [firstPrototype?, same]

theorem firstPrototype?_append (project : Project) (slots later : List Slot)
    (name : String) :
    project.firstPrototype? (slots ++ later) name
      = (project.firstPrototype? slots name).or
        (project.firstPrototype? later name) := by
  rw [firstPrototype?, List.find?_append, Option.map_or]
  rfl

namespace KeepsPrototypes

theorem nil (project : Project) : project.KeepsPrototypes [] project where
  types name := (Option.or_none).symm
  signatures address := rfl
  known := by
    intro id record found
    exact ⟨record, found, rfl, rfl⟩
  functions := by simp

theorem append (first : before.KeepsPrototypes slots middle)
    (second : middle.KeepsPrototypes later after) :
    before.KeepsPrototypes (slots ++ later) after where
  types := by
    intro name
    rw [second.types, fieldType?, first.types,
      fieldType?, Option.or_assoc, firstPrototype?_congr first.signatures,
      ← firstPrototype?_append, fieldType?]
  signatures := by
    intro address
    rw [second.signatures, first.signatures]
  known := by
    intro id record found
    obtain ⟨between, there, entry, definition⟩ := first.known found
    obtain ⟨last, thereStill, entryStill, definitionStill⟩ := second.known there
    exact ⟨last, thereStill, entryStill.trans entry,
      definitionStill.trans definition⟩
  functions := by
    intro slot listed
    rcases List.mem_append.1 listed with early | late
    · obtain ⟨record, found, entry, definition⟩ := first.functions slot early
      obtain ⟨last, foundStill, entryStill, definitionStill⟩ :=
        second.known found
      exact ⟨last, foundStill, entryStill.trans entry,
        definitionStill.trans definition⟩
    · obtain ⟨record, found, entry, definition⟩ := second.functions slot late
      rw [first.signatures] at definition
      exact ⟨record, found, entry, definition⟩

end KeepsPrototypes

namespace Finds

variable {target : Address} {id : FunctionId} {record : FunctionRecord}
  {created : Bool}

theorem types (finds : project.Finds target id record created middle) :
    middle.types = project.types := by
  cases finds with
  | known placed found => rfl
  | defined free => rfl

theorem signature (finds : project.Finds target id record created middle) :
    record.signature = project.signatureAt target := by
  cases finds with
  | known placed found => exact (signatureAt_of_known placed found).symm
  | defined free => exact (signatureAt_of_free free).symm

theorem signatureAt (indexed : project.Indexed)
    (finds : project.Finds target id record created middle)
    (address : Address) :
    middle.signatureAt address = project.signatureAt address := by
  cases finds with
  | known placed found => rfl
  | defined free => exact signatureAt_withFunction indexed free rfl address

theorem function?_of_known
    (finds : project.Finds target id record created middle) {other : FunctionId}
    {known : FunctionRecord} (found : project.function? other = some known) :
    middle.function? other = some known := by
  cases finds with
  | known => exact found
  | defined free =>
      have inside := (List.getElem?_eq_some_iff.1 found).1
      rw [function?_withFunction, if_neg (Nat.ne_of_lt inside)]
      exact found

end Finds

theorem signatureAt_fileUnder {id : FunctionId} {record : FunctionRecord}
    (known : project.function? id = some record) (parent : NamespaceId)
    (address : Address) :
    (project.fileUnder parent id record).2.signatureAt address
      = project.signatureAt address := by
  have same : ({ record with parent } : FunctionRecord).signature
      = record.signature := rfl
  rw [fileUnder_frame]
  exact signatureAt_setFunction known same address

theorem function?_fileUnder {id : FunctionId} {record : FunctionRecord}
    (known : project.function? id = some record) (parent : NamespaceId)
    (other : FunctionId) :
    (project.fileUnder parent id record).2.function? other
      = if other = id then some { record with parent } else
        project.function? other := by
  rw [fileUnder_frame]
  exact function?_setFunction known _ other

theorem type?_fileUnder (project : Project) (parent : NamespaceId)
    (id : FunctionId) (record : FunctionRecord) (name : String) :
    (project.fileUnder parent id record).2.type? name
      = (project.type? name).or
        (if record.name = name then
          some (.function record.definition) else none) :=
  type?_addType_keep ..

namespace TakesSlot

variable {parent : NamespaceId} {table longer : Structure} {index : Nat}
  {address : Address} {slot : Slot}

theorem keepsPrototypes (indexed : project.Indexed)
    (step : project.TakesSlot parent table index address (.ok
      (.added slot longer)) left) : project.KeepsPrototypes [slot] left := by
  cases step with
  | @added target id record created middle finds =>
      have known := finds.function?_eq indexed
      have entry := finds.entry indexed
      constructor
      · intro name
        have stored : middle.type? name = project.type? name := by
          rw [type?, type?, finds.types]
        rw [type?_fileUnder, stored, fieldType?, firstPrototype?]
        by_cases same : record.name = name
        · subst same
          simp [FunctionRecord.definition, finds.signature]
        · simp [same]
      · intro other
        rw [signatureAt_fileUnder known, finds.signatureAt indexed]
      · intro other kept found
        rw [function?_fileUnder known]
        by_cases here : other = id
        · subst here
          rw [finds.function?_of_known found] at known
          cases known
          exact ⟨_, if_pos rfl, rfl, rfl⟩
        · rw [if_neg here]
          exact ⟨kept, finds.function?_of_known found, rfl, rfl⟩
      · intro other listed
        cases List.mem_singleton.1 listed
        refine ⟨{ record with parent }, ?_, entry, ?_⟩
        · rw [function?_fileUnder known, if_pos rfl]
        · simp only [FunctionRecord.definition, finds.signature]

theorem longer_eq
    (step : project.TakesSlot parent table index address
      (.ok (.added slot longer)) left) :
    slot.index = index ∧ ∃ target, left.type? slot.fieldName = some target
      ∧ longer = table.withPointer target slot.fieldName "" := by
  cases step with
  | added finds => exact ⟨rfl, _, type?_addType_name .., rfl⟩

end TakesSlot

end Project

namespace MethodTable

/-- The component for a slot whose field points to a type: slots are
four bytes apart. -/
def fieldFor (slot : Slot) (target : DataType) : Component :=
  ⟨UInt32.ofNat (4 * slot.index), target.pointerTo, slot.fieldName, ""⟩

/-- Whether a component is the field for a slot and points to the type that a
project has under its name. -/
def IsFieldIn (project : Project) (component : Component)
    (slot : Slot) : Prop :=
  ∃ target, project.type? slot.fieldName = some target
    ∧ component = fieldFor slot target

/-- Whether a walk kept the function types of its slots and added a
field for each of them. -/
structure KeepsFields (before : Project) (table : Structure) (walk : Walk)
    (after : Project) : Prop where
  prototypes : before.KeepsPrototypes walk.slots after
  fields : ∃ added, walk.table.components = table.components ++ added
    ∧ List.Forall₂ (IsFieldIn after) added walk.slots

variable {project left last : Project} {parent : NamespaceId}
  {table longer : Structure} {index : Nat} {address : Address} {slot : Slot}
  {rest : Walk}

theorem KeepsFields.nil (project : Project) (table : Structure)
    (stop : WalkEnd) : KeepsFields project table ⟨[], stop, table⟩ project where
  prototypes := .nil project
  fields := ⟨[], (List.append_nil _).symm, .nil⟩

theorem KeepsFields.cons (indexed : project.Indexed)
    (sized : table.length = UInt32.ofNat (4 * index))
    (step : project.TakesSlot parent table index address
      (.ok (.added slot longer)) left)
    (later : KeepsFields left longer rest last) :
    KeepsFields project table
      { rest with slots := slot :: rest.slots } last where
  prototypes := (step.keepsPrototypes indexed).append later.prototypes
  fields := by
    obtain ⟨rfl, target, stored, rfl⟩ := step.longer_eq
    obtain ⟨added, components, matched⟩ := later.fields
    have storedStill : last.type? slot.fieldName = some target := by
      rw [later.prototypes.types, Project.fieldType?, stored, Option.some_or]
    have next : table.nextComponent target.pointerTo slot.fieldName ""
        = fieldFor slot target := by
      rw [Structure.nextComponent, sized, fieldFor]
    refine ⟨fieldFor slot target :: added, ?_,
      .cons ⟨target, storedStill, rfl⟩ matched⟩
    rw [components, Structure.withPointer, next, List.append_assoc,
      List.singleton_append]

/-- The invariant of the walk: before the slot with a number, the table
is four times as long. -/
theorem walkFrom_keepsFields (tag className : String) (base : Address)
    (indexed : project.Indexed) (filed : (project.namespace? parent).isSome)
    (remaining index : Nat) (table : Structure)
    (sized : table.length = UInt32.ofNat (4 * index)) {walk : Walk}
    (ran : (walkFrom tag className parent base remaining index table).result
      Project.host project = (walk, last)) :
    KeepsFields project table walk last := by
  refine walkFrom_induct (motive := fun project index table walk last =>
    table.length = UInt32.ofNat (4 * index) →
      KeepsFields project table walk last)
    tag className base ?_ ?_ indexed filed remaining index table ran sized
  · intro project index table stop _ _
    exact .nil project table stop
  · intro project left last index table longer slot rest indexed
      step later sized
    refine .cons indexed sized step (later ?_)
    obtain ⟨_, target, _, rfl⟩ := step.longer_eq
    rw [Structure.length_withPointer, sized, Nat.mul_add_one, UInt32.ofNat_add]
    rfl

end MethodTable

end DelphiRtti
