import DelphiRtti.Proofs.MethodTable.Steps

/-!
# What a walk leaves in a project

Every listed slot files the function at its target under the class, and defines
that function first where there was none.  Nothing else is touched but the
stored types, and a slot that ends the walk touches nothing at all.
-/

namespace DelphiRtti

/-- The record of a function after the functions at some targets were
filed under a namespace. -/
def FunctionRecord.filedUnder (parent : NamespaceId) (targets : List Address)
    (record : FunctionRecord) : FunctionRecord :=
  if record.entry ∈ targets then { record with parent } else record

/-- The function that is new in the project where a slot had to define one. -/
def Slot.newFunction (parent : NamespaceId) (slot : Slot) : FunctionRecord :=
  ⟨slot.target, slot.fieldName, parent, .undefined, .userDefined⟩

section

variable (parent : NamespaceId) (targets : List Address)

theorem FunctionRecord.filedUnder_nil (record : FunctionRecord) :
    record.filedUnder parent [] = record := by
  simp [filedUnder]

theorem FunctionRecord.filedUnder_filedUnder (later : List Address)
    (record : FunctionRecord) :
    (record.filedUnder parent targets).filedUnder parent later
      = record.filedUnder parent (targets ++ later) := by
  by_cases earlier : record.entry ∈ targets
  · by_cases again : record.entry ∈ later
    · simp [filedUnder, earlier, again]
    · simp [filedUnder, earlier, again]
  · simp [filedUnder, earlier]

/-- A new function is filed under the class already. -/
theorem Slot.filedUnder_newFunction (slot : Slot) :
    (slot.newFunction parent).filedUnder parent targets
    = slot.newFunction parent := by
  rw [FunctionRecord.filedUnder]
  exact ite_self _

end

namespace Project

/-- Whether one project is what listing some slots under a namespace
makes of another one. -/
structure ListsSlots (before : Project) (parent : NamespaceId)
    (slots : List Slot) (after : Project) : Prop where
  image : after.image = before.image
  listing : after.listing = before.listing
  namespaces : after.namespaces = before.namespaces
  labels : after.labels = before.labels
  indexed : after.Indexed
  functions : after.functions
    = before.functions.map
      (FunctionRecord.filedUnder parent (slots.map Slot.target))
      ++ (slots.filter Slot.created).map (Slot.newFunction parent)

namespace ListsSlots

variable {before middle after : Project} {parent : NamespaceId}
  {slots later : List Slot}

theorem nil (indexed : before.Indexed) :
    before.ListsSlots parent [] before where
  image := rfl
  listing := rfl
  namespaces := rfl
  labels := rfl
  indexed := indexed
  functions := by
    have unchanged : FunctionRecord.filedUnder parent [] = id := by
      funext record
      exact record.filedUnder_nil parent
    simp [unchanged]

theorem append (first : before.ListsSlots parent slots middle)
    (second : middle.ListsSlots parent later after) :
    before.ListsSlots parent (slots ++ later) after where
  image := second.image.trans first.image
  listing := second.listing.trans first.listing
  namespaces := second.namespaces.trans first.namespaces
  labels := second.labels.trans first.labels
  indexed := second.indexed
  functions := by
    have filedTwice : FunctionRecord.filedUnder parent (later.map Slot.target)
        ∘ FunctionRecord.filedUnder parent (slots.map Slot.target)
        = FunctionRecord.filedUnder parent
          (slots.map Slot.target ++ later.map Slot.target) := by
      funext record
      exact record.filedUnder_filedUnder parent _ _
    have filedAlready : FunctionRecord.filedUnder parent (later.map Slot.target)
        ∘ Slot.newFunction parent = Slot.newFunction parent := by
      funext slot
      exact slot.filedUnder_newFunction parent _
    rw [second.functions, first.functions]
    simp only [List.map_append, List.filter_append, List.map_map, filedTwice,
      filedAlready, List.append_assoc]

theorem withTypes (lists : before.ListsSlots parent slots after)
    (types : SortedMap String DataType) :
    before.ListsSlots parent slots { after with types } where
  image := lists.image
  listing := lists.listing
  namespaces := lists.namespaces
  labels := lists.labels
  indexed := lists.indexed.congr rfl rfl
  functions := lists.functions

end ListsSlots

variable {project : Project} {function : FunctionId} {record : FunctionRecord}
  {parent : NamespaceId}

theorem Indexed.functions_setFunction_parent (indexed : project.Indexed)
    (known : project.function? function = some record) (parent : NamespaceId) :
    (project.setFunction function { record with parent }).functions
      = project.functions.map
        (FunctionRecord.filedUnder parent [record.entry]) := by
  -- Filing a function touches no other one, for no two functions start at
  -- one address.
  apply List.ext_getElem?
  intro position
  rw [Project.setFunction, List.getElem?_map]
  by_cases here : function.position = position
  · have found : project.functions[position]? = some record := here ▸ known
    have inside := (List.getElem?_eq_some_iff.1 found).1
    rw [found, here, List.getElem?_set_self inside]
    simp [FunctionRecord.filedUnder]
  · rw [List.getElem?_set_ne here]
    cases found : project.functions[position]? with
    | none => rfl
    | some other =>
        have apart : other.entry ≠ record.entry := by
          intro sameEntry
          have atOther := indexed.functionAt?_entry found
          have atRecord : project.functionAt? record.entry = some function :=
            indexed.functionAt?_eq_some_iff.2 ⟨record, known, rfl⟩
          rw [sameEntry, atRecord] at atOther
          have below : position < project.functions.length :=
            (List.getElem?_eq_some_iff.1 found).1
          apply here
          rw [Option.some.inj atOther]
          exact FunctionId.position_ofPosition
            (Nat.lt_of_lt_of_le below indexed.length_le)
        simp [FunctionRecord.filedUnder, apart]

theorem listsSlots_known (indexed : project.Indexed)
    (known : project.function? function = some record) {slot : Slot}
    (target : slot.target = record.entry) (created : slot.created = false) :
    project.ListsSlots parent [slot]
      (project.setFunction function { record with parent }) where
  image := rfl
  listing := rfl
  namespaces := rfl
  labels := rfl
  indexed := indexed.setFunction known rfl
  functions := by
    rw [indexed.functions_setFunction_parent known parent]
    simp [target, created]

theorem listsSlots_new (indexed : project.Indexed) {name : String}
    {slot : Slot} (free : project.functionAt? slot.target = none)
    (fieldName : slot.fieldName = name) (created : slot.created = true)
    (known : (project.withFunction
      ⟨slot.target, name, .global, .undefined, .userDefined⟩).function? function
      = some ⟨slot.target, name, .global, .undefined, .userDefined⟩) :
    project.ListsSlots parent [slot]
      ((project.withFunction
        ⟨slot.target, name, .global, .undefined, .userDefined⟩).setFunction
        function ⟨slot.target, name, parent, .undefined, .userDefined⟩) where
  image := rfl
  listing := rfl
  namespaces := rfl
  labels := rfl
  indexed := (indexed.withFunction free).setFunction known rfl
  functions := by
    have filed :=
      (indexed.withFunction free).functions_setFunction_parent known parent
    rw [filed, withFunction, List.map_append]
    simp [created, fieldName, FunctionRecord.filedUnder, Slot.newFunction]

theorem TakesSlot.listsSlots
    {table longer : Structure} {index : Nat} {address : Address}
    {slot : Slot} {left : Project} (indexed : project.Indexed)
    (step : project.TakesSlot parent table index address (.ok
      (.added slot longer)) left) : project.ListsSlots parent [slot] left := by
  cases step with
  | added finds =>
      have entry := finds.entry indexed
      have known := finds.function?_eq indexed
      rw [fileUnder_frame]
      apply ListsSlots.withTypes
      cases finds with
      | known placed found =>
          exact listsSlots_known indexed found entry.symm rfl
      | defined free => exact listsSlots_new indexed free rfl rfl known

end Project

namespace MethodTable

variable {project : Project} {parent : NamespaceId} (tag className : String)

def SlotFootprint (before : Project) (parent : NamespaceId) :
    Except HostError SlotOutcome → Project → Prop
  | .ok (.added slot _), after => before.ListsSlots parent [slot] after
  | _, after => after = before

theorem takeSlot_footprint (indexed : project.Indexed)
    (filed : (project.namespace? parent).isSome) (table : Structure)
    (index : Nat) (address : Address) :
    ∃ outcome left,
      (takeSlot tag className parent table index address).result Project.host
        project = (outcome, left)
        ∧ SlotFootprint project parent outcome left := by
  obtain ⟨outcome, left, taken, step⟩ :=
    takeSlot_step tag className indexed filed table index address
  refine ⟨outcome, left, taken, ?_⟩
  rcases outcome with cause | (⟨slot, longer⟩ | target)
  · cases step
    rfl
  · exact step.listsSlots indexed
  · cases step
    rfl

theorem walkFrom_footprint (base : Address) (indexed : project.Indexed)
    (filed : (project.namespace? parent).isSome) (remaining index : Nat)
    (table : Structure) :
    ∃ walk last,
      (walkFrom tag className parent base remaining index table).result
        Project.host project
          = (walk, last)
        ∧ project.ListsSlots parent walk.slots last := by
  refine ⟨_, _, rfl, ?_⟩
  refine walkFrom_induct (motive :=
    fun project _ _ walk last => project.ListsSlots parent walk.slots last)
    tag className base ?_ ?_ indexed filed remaining index table rfl
  · intro project index table stop indexed
    exact .nil indexed
  · intro project left last index table longer slot rest indexed step later
    exact (step.listsSlots indexed).append later

/-- A walk leaves the same table and the same project as one that is limited to
the slots it lists: the slot that ended it leaves no trace. -/
theorem walkFrom_limited (base : Address) (indexed : project.Indexed)
    (filed : (project.namespace? parent).isSome)
    (remaining index : Nat) (table : Structure) {walk : Walk} {last : Project}
    (ran : (walkFrom tag className parent base remaining index table).result
      Project.host project = (walk, last)) :
    (walkFrom tag className parent base walk.slots.length index table).result
      Project.host project
      = ({ walk with stop := .limitReached }, last) := by
  induction remaining generalizing project index table walk last with
  | zero =>
      rw [walkFrom_zero_result] at ran
      cases ran
      rfl
  | succ remaining induction =>
      obtain ⟨outcome, left, taken, footprint⟩ :=
        takeSlot_footprint tag className indexed filed table index
          (slotAddress base index)
      rw [walkFrom_succ_result, taken] at ran
      rcases outcome with cause | (⟨slot, longer⟩ | target)
      · have same : left = project := footprint
        subst same
        cases ran
        rfl
      · have listed : project.ListsSlots parent [slot] left := footprint
        have filedStill : (left.namespace? parent).isSome := by
          rw [Project.namespace?, listed.namespaces]
          exact filed
        rcases ranLater : (walkFrom tag className parent base remaining
          (index + 1) longer).result
          Project.host left with ⟨rest, later⟩
        simp only [ranLater] at ran
        cases ran
        rw [List.length_cons, walkFrom_succ_result, taken]
        simp only [induction listed.indexed filedStill
          (index + 1) longer ranLater]
      · have same : left = project := footprint
        subst same
        cases ran
        rfl

end MethodTable

end DelphiRtti
