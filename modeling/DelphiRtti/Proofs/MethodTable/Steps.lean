import DelphiRtti.Proofs.MethodTable.Slots

/-!
# Steps of a walk on a project

A slot either ends the walk and changes nothing, or the function at its target
is found or defined, filed under the class, and its type kept.  What is proved
of every such step holds of the whole walk.
-/

namespace DelphiRtti

namespace Project

open MethodTable

/-- Whether a project has this function at a target, or gains it there. -/
inductive Finds (project : Project) (target : Address) :
    FunctionId → FunctionRecord → (created : Bool) → Project → Prop where
  | known {id : FunctionId} {record : FunctionRecord}
      (placed : project.functionAt? target = some id)
      (found : project.function? id = some record) :
      Finds project target id record false project
  | defined (free : project.functionAt? target = none) :
      Finds project target (.ofPosition project.functions.length)
        (stub target (project.symbolAt? target)) true
        (project.withFunction (stub target (project.symbolAt? target)))

/-- Files a function under a namespace and keeps its type, unless another type
of its name is stored.  The type is the one that is stored in the end. -/
def fileUnder (project : Project) (parent : NamespaceId) (id : FunctionId)
    (record : FunctionRecord) : DataType × Project :=
  (project.setFunction id { record with parent }).addType
    (.function record.definition) .keep

/-- What taking a slot comes to, and which project it leaves. -/
inductive TakesSlot (project : Project) (parent : NamespaceId)
    (table : Structure) (index : Nat) (address : Address) :
    (outcome : Except HostError SlotOutcome) → (left : Project) → Prop where
  | unreadable (cause : MemoryError) :
      TakesSlot project parent table index address
        (.error (.memory cause)) project
  | nothing (target : Address) :
      TakesSlot project parent table index address
        (.ok (.noFunction target)) project
  | added {target : Address} {id : FunctionId} {record : FunctionRecord}
      {created : Bool}
      {middle : Project}
      (finds : project.Finds target id record created middle) :
      TakesSlot project parent table index address
        (.ok (.added ⟨index, address, target, id, record.name, created⟩
          (table.withPointer
            (middle.fileUnder parent id record).1 record.name "")))
        (middle.fileUnder parent id record).2

variable {project middle left : Project} {target address : Address}
  {id : FunctionId} {record : FunctionRecord} {created : Bool}
  {parent : NamespaceId} {table longer : Structure} {index : Nat} {slot : Slot}

namespace Finds

theorem function?_eq (indexed : project.Indexed)
    (finds : project.Finds target id record created middle) :
    middle.function? id = some record := by
  cases finds with
  | known placed found => exact found
  | defined free =>
      have number := FunctionId.position_ofPosition (indexed.length_lt free)
      rw [function?_withFunction, if_pos number]

theorem indexed (indexed : project.Indexed)
    (finds : project.Finds target id record created middle) :
    middle.Indexed := by
  cases finds with
  | known placed found => exact indexed
  | defined free => exact indexed.withFunction free

theorem entry (indexed : project.Indexed)
    (finds : project.Finds target id record created middle) :
    record.entry = target := by
  cases finds with
  | known placed found =>
      obtain ⟨other, known, here⟩ := indexed.functionAt?_eq_some_iff.1 placed
      cases found.symm.trans known
      exact here
  | defined free => rfl

theorem namespaces (finds : project.Finds target id record created middle) :
    middle.namespaces = project.namespaces := by
  cases finds with
  | known placed found => rfl
  | defined free => rfl

theorem filed (finds : project.Finds target id record created middle)
    (filed : (project.namespace? parent).isSome) :
    (middle.namespace? parent).isSome := by
  rw [namespace?, finds.namespaces]
  exact filed

end Finds

theorem fileUnder_frame (project : Project) (parent : NamespaceId)
    (id : FunctionId) (record : FunctionRecord) :
    (project.fileUnder parent id record).2
      = { project.setFunction id { record with parent } with
          types := (project.fileUnder parent id record).2.types } :=
  addType_frame ..

namespace TakesSlot

theorem indexed (indexed : project.Indexed)
    (step : project.TakesSlot parent table index address
      (.ok (.added slot longer)) left) : left.Indexed := by
  cases step with
  | @added _ _ record _ middle finds =>
      have filed : (middle.setFunction _ { record with parent }).Indexed :=
        (finds.indexed indexed).setFunction (finds.function?_eq indexed) rfl
      rw [fileUnder_frame]
      exact filed.congr rfl rfl

theorem namespaces
    (step : project.TakesSlot parent table index address (.ok
      (.added slot longer)) left) : left.namespaces = project.namespaces := by
  cases step with
  | added finds =>
      rw [fileUnder_frame]
      exact finds.namespaces

theorem filed (step : project.TakesSlot parent table index address (.ok
      (.added slot longer)) left) (filed : (project.namespace? parent).isSome) :
    (left.namespace? parent).isSome := by
  rw [namespace?, step.namespaces]
  exact filed

end TakesSlot

end Project

namespace MethodTable

variable {project : Project} {parent : NamespaceId} (tag className : String)

theorem takeSlot_result_of_finds {target address : Address}
    {id : FunctionId} {record : FunctionRecord} {created : Bool}
    {middle : Project} (indexed : project.Indexed)
    (filed : (project.namespace? parent).isSome) (table : Structure)
    (index : Nat) (readable : project.image.pointerAt address = .ok target)
    (finds : project.Finds target id record created middle)
    (resolved : (resolve tag target).result Project.host project
      = (.ok (some (id, created)), middle)) :
    ∃ outcome left,
      (takeSlot tag className parent table index address).result Project.host
        project = (outcome, left)
        ∧ project.TakesSlot parent table index address outcome left := by
  have adopted := adopt_result_eq tag className (finds.filed filed)
    (finds.function?_eq indexed)
  exact ⟨_, _, takeSlot_result_of_function table index readable resolved
    adopted, .added finds⟩

theorem takeSlot_step (indexed : project.Indexed)
    (filed : (project.namespace? parent).isSome) (table : Structure)
    (index : Nat) (address : Address) :
    ∃ outcome left,
      (takeSlot tag className parent table index address).result Project.host
        project = (outcome, left)
        ∧ project.TakesSlot parent table index address outcome left := by
  cases readable : project.image.pointerAt address with
  | error cause =>
      exact ⟨_, _, takeSlot_result_of_unreadable readable, .unreadable cause⟩
  | ok target =>
      cases present : project.functionAt? target with
      | some id =>
          obtain ⟨record, found, _⟩ := indexed.functionAt?_eq_some_iff.1 present
          exact takeSlot_result_of_finds tag className indexed filed table
            index readable
            (.known present found) (resolve_result_of_known present)
      | none =>
          have resolved :
              (resolve tag target).result Project.host project = _ :=
            resolve_result_of_free present
          by_cases executable : project.image.isExecutable target = true
          · rw [if_pos executable] at resolved
            exact takeSlot_result_of_finds tag className indexed filed table
              index readable
              (.defined present) resolved
          · rw [if_neg executable] at resolved
            exact ⟨_, _, takeSlot_result_of_nothing readable resolved,
              .nothing target⟩

/-- What holds of an ended walk and is kept by every slot that is added
holds of a whole walk. -/
theorem walkFrom_induct
    {motive : Project → Nat → Structure → Walk → Project → Prop}
    (base : Address)
    (ends :
      ∀ {project : Project} {index : Nat} {table : Structure} (stop : WalkEnd),
      project.Indexed → motive project index table ⟨[], stop, table⟩ project)
    (adds : ∀ {project left last : Project} {index : Nat} {table longer :
      Structure} {slot : Slot} {rest : Walk}, project.Indexed →
      project.TakesSlot parent table index (slotAddress base index) (.ok
      (.added slot longer)) left → motive left (index + 1) longer rest last →
      motive project index table { rest with slots := slot :: rest.slots } last)
    (indexed : project.Indexed) (filed : (project.namespace? parent).isSome)
    (remaining index : Nat) (table : Structure) {walk : Walk} {last : Project}
    (ran : (walkFrom tag className parent base remaining index table).result
      Project.host project = (walk, last)) :
    motive project index table walk last := by
  induction remaining generalizing project index table walk last with
  | zero =>
      rw [walkFrom_zero_result] at ran
      cases ran
      exact ends .limitReached indexed
  | succ remaining induction =>
      obtain ⟨outcome, left, taken, step⟩ :=
        takeSlot_step tag className indexed filed table index
          (slotAddress base index)
      rw [walkFrom_succ_result, taken] at ran
      rcases outcome with cause | (⟨slot, longer⟩ | target)
      · cases step
        cases ran
        exact ends _ indexed
      · rcases ranLater : (walkFrom tag className parent base remaining
          (index + 1) longer).result
          Project.host left with ⟨rest, later⟩
        simp only [ranLater] at ran
        cases ran
        exact adds indexed step
          (induction (step.indexed indexed) (step.filed filed)
            (index + 1) longer ranLater)
      · cases step
        cases ran
        exact ends _ indexed

end MethodTable

end DelphiRtti
