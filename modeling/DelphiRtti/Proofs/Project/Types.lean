import DelphiRtti.Proofs.Project.Functions

/-!
# The stored types of a project

A type is stored under its own name.  One that replaces takes its name in any
case, and one that is kept only where the name is free.
-/

namespace DelphiRtti

namespace Project

variable {project : Project}

theorem type?_withType (project : Project) (dataType : DataType)
    (name : String) :
    (project.withType dataType).type? name
      = if dataType.name = name then some dataType else project.type? name :=
  SortedMap.get?_insert ..

theorem type?_addType_keep (project : Project) (dataType : DataType)
    (name : String) :
    (project.addType dataType .keep).2.type? name
      = (project.type? name).or (if dataType.name = name then
        some dataType else none) := by
  rw [addType]
  cases free : project.types.get? dataType.name with
  | some stored =>
      by_cases same : dataType.name = name
      · subst same
        simp [type?, free]
      · simp [type?, same]
  | none =>
      change (project.withType dataType).type? name = _
      rw [type?_withType]
      by_cases same : dataType.name = name
      · subst same
        simp [type?, free]
      · simp [same]

theorem type?_addType_name (project : Project) (dataType : DataType)
    (policy : ConflictPolicy) :
    (project.addType dataType policy).2.type? dataType.name
      = some (project.addType dataType policy).1 := by
  cases policy with
  | replace =>
      change (project.withType dataType).type? dataType.name = _
      rw [type?_withType, if_pos rfl]
      rfl
  | keep =>
      rw [addType]
      cases free : project.types.get? dataType.name with
      | some stored => exact free
      | none =>
          change (project.withType dataType).type? dataType.name = _
          rw [type?_withType, if_pos rfl]

/-- Whether every type is stored under its own name. -/
def TypesNamed (project : Project) : Prop :=
  ∀ {name dataType}, project.type? name = some dataType → dataType.name = name

theorem TypesNamed.withType (named : project.TypesNamed) (dataType : DataType) :
    (project.withType dataType).TypesNamed := by
  intro name other found
  rw [type?_withType] at found
  split at found
  case isTrue same =>
      cases found
      exact same
  case isFalse => exact named found

theorem Reachable.typesNamed (reachable : Reachable project) :
    project.TypesNamed := by
  refine @Reachable.keeps project TypesNamed ?_ ?_ reachable
  · intro name dataType found
    rw [type?, Project.empty, ofImage, SortedMap.get?_empty] at found
    cases found
  · intro before after named change
    cases change with
    | storeType dataType => exact named.withType dataType
    | _ => exact named

/-- The signature of the function at an address; a function that is only found
there has the undefined one. -/
def signatureAt (project : Project) (address : Address) : Signature :=
  match (project.functionAt? address).bind project.function? with
  | some record => record.signature
  | none => .undefined

theorem signatureAt_of_known {address : Address} {id : FunctionId}
    {record : FunctionRecord} (placed : project.functionAt? address = some id)
    (known : project.function? id = some record) :
    project.signatureAt address = record.signature := by
  rw [signatureAt, placed, Option.bind_some, known]

theorem signatureAt_of_free
    {address : Address} (free : project.functionAt? address = none) :
    project.signatureAt address = .undefined := by
  rw [signatureAt, free, Option.bind_none]

theorem signatureAt_setFunction
    {id : FunctionId} {record edited : FunctionRecord}
    (known : project.function? id = some record)
    (same : edited.signature = record.signature) (address : Address) :
    (project.setFunction id edited).signatureAt address
    = project.signatureAt address := by
  have placed : (project.setFunction id edited).functionAt? address
      = project.functionAt? address := rfl
  rw [signatureAt, signatureAt, placed]
  cases project.functionAt? address with
  | none => rfl
  | some other =>
      rw [Option.bind_some, Option.bind_some, function?_setFunction known]
      by_cases here : other = id
      · rw [if_pos here, here, known]
        exact same
      · rw [if_neg here]

/-- A function without a known signature changes no signature where it
is defined. -/
theorem signatureAt_withFunction (indexed : project.Indexed)
    {record : FunctionRecord} (free : project.functionAt? record.entry = none)
    (undefined : record.signature = .undefined) (address : Address) :
    (project.withFunction record).signatureAt address
    = project.signatureAt address := by
  have number := FunctionId.position_ofPosition (indexed.length_lt free)
  by_cases here : record.entry = address
  · have placed := functionAt?_withFunction project record address
    rw [if_pos here] at placed
    have known : (project.withFunction record).function?
        (.ofPosition project.functions.length)
        = some record := by
      rw [function?_withFunction, if_pos number]
    rw [signatureAt_of_known placed known, undefined,
      signatureAt_of_free (here ▸ free)]
  · rw [signatureAt, signatureAt, functionAt?_withFunction, if_neg here]
    cases placed : project.functionAt? address with
    | none => rfl
    | some id =>
        obtain ⟨other, known, _⟩ := indexed.functionAt?_eq_some_iff.1 placed
        have inside := (List.getElem?_eq_some_iff.1 known).1
        rw [Option.bind_some, Option.bind_some, function?_withFunction,
          if_neg (Nat.ne_of_lt inside)]

end Project

end DelphiRtti
