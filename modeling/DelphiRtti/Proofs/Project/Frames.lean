import DelphiRtti.Project

/-!
# What operations leave alone

An operation on one part of a project leaves the other parts as they were.  The
equations here name the part that may differ.
-/

namespace DelphiRtti

namespace Project

variable {project : Project}

/-- A project with one more function, which the index finds. -/
def withFunction (project : Project) (record : FunctionRecord) : Project :=
  { project with
    functions := project.functions ++ [record]
    entries := project.entries.insert record.entry
      (.ofPosition project.functions.length) }

/-- A project with another record for a function. -/
def setFunction (project : Project) (id : FunctionId)
    (record : FunctionRecord) : Project :=
  { project with functions := project.functions.set id.position record }

/-- A project with a data item more. -/
def withItem (project : Project) (item : DataItem) : Project :=
  { project with listing := project.listing.insert item.address item }

/-- A project with a data type stored under its name. -/
def withType (project : Project) (dataType : DataType) : Project :=
  { project with types := project.types.insert dataType.name dataType }

theorem updateFunction_of_known {id : FunctionId}
    {record : FunctionRecord} (known : project.function? id = some record)
    (change : FunctionRecord → FunctionRecord) :
    project.updateFunction id change
      = project.setFunction id (change record) := by
  rw [updateFunction, known]
  rfl

theorem updateFunction_of_unknown
    {id : FunctionId} (unknown : project.function? id = none)
    (change : FunctionRecord → FunctionRecord) :
    project.updateFunction id change = project := by
  rw [updateFunction, unknown]

theorem createData_eq_ok
    {address : Address} {dataType : DataType} {next : Project}
    (created : project.createData address dataType = .ok next) :
    ∃ length bytes, project.placedLength address dataType = .ok length
      ∧ project.image.read address length.toNat = .ok bytes
      ∧ project.listing.conflict? address (address + length) = none
      ∧ next = project.withItem ⟨address, length, dataType⟩ := by
  rw [createData] at created
  split at created
  case h_1 => cases created
  case h_2 length sized =>
      split at created
      case h_1 => cases created
      case h_2 bytes readable =>
          split at created
          case h_1 => cases created
          case h_2 free =>
              cases created
              exact ⟨length, bytes, sized, readable, free, rfl⟩

theorem createData_of_free {address : Address} {dataType : DataType}
    {length : UInt32} {bytes : List UInt8}
    (sized : project.placedLength address dataType = .ok length)
    (readable : project.image.read address length.toNat = .ok bytes)
    (free : project.listing.conflict? address (address + length) = none) :
    project.createData address dataType
      = .ok (project.withItem ⟨address, length, dataType⟩) := by
  rw [createData]
  simp only [sized, readable, free]
  rfl

theorem createData_of_unread {address : Address}
    {dataType : DataType} {length : UInt32} {cause : MemoryError}
    (sized : project.placedLength address dataType = .ok length)
    (unread : project.image.read address length.toNat = .error cause) :
    project.createData address dataType = .error (.memory cause) := by
  rw [createData]
  simp only [sized, unread]

theorem addType_eq (dataType : DataType) (policy : ConflictPolicy) :
    (project.addType dataType policy).2 = project
      ∨ (project.addType dataType policy).2 = project.withType dataType := by
  cases policy with
  | replace => exact .inr rfl
  | keep =>
      rw [addType]
      cases project.types.get? dataType.name with
      | some stored => exact .inl rfl
      | none => exact .inr rfl

theorem addType_frame (dataType : DataType) (policy : ConflictPolicy) :
    (project.addType dataType policy).2
      = { project with
        types := (project.addType dataType policy).2.types } := by
  rcases @addType_eq project dataType policy with same | stored
  · rw [same]
  · rw [stored]
    rfl

variable {other : Project}

theorem namesUpward_congr (same : other.namespaces = project.namespaces)
    (steps : Nat) (id : NamespaceId) :
    other.namesUpward steps id = project.namesUpward steps id := by
  induction steps generalizing id with
  | zero => rfl
  | succ steps induction => simp only [namesUpward, namespace?, same, induction]

theorem scopeName?_congr (same : other.namespaces = project.namespaces)
    (id : NamespaceId) : other.scopeName? id = project.scopeName? id := by
  simp only [scopeName?, qualifiedName, same, namesUpward_congr same]

theorem symbolAt?_of_free
    {address : Address} (free : project.functionAt? address = none)
    (freeOther : other.functionAt? address = none)
    (labels : other.labels = project.labels)
    (namespaces : other.namespaces = project.namespaces) :
    other.symbolAt? address = project.symbolAt? address := by
  simp only [symbolAt?, free, freeOther, Option.bind_none, labels,
    scopeName?_congr namespaces]

end Project

end DelphiRtti
