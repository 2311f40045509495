import DelphiRtti.Proofs.MethodTable.Layout
import DelphiRtti.Proofs.Project.Mapped
import DelphiRtti.Proofs.Project.Namespaces
import DelphiRtti.Proofs.Script.Result

/-!
# The stages of a rebuild on a project

What each stage comes to, and which project it leaves, said of the memory, the
listing and the namespaces that the stage begins with.
-/

namespace DelphiRtti

open Text

/-- The record at an address as the memory holds it: two words that
are pointers. -/
def Image.recordAt (image : Image) (address : Address) (dialect : Dialect) :
    Except MemoryError ClassRecord := do
  let base ← image.readWord address
  let name ← image.readWord (address + dialect.nameOffset)
  return ⟨address, .ofWord base, .ofWord name⟩

namespace Project

variable (project : Project)

/-- The name that starts at an address.  Its length byte and all its
bytes have to be in one region, no data that is kept may lie in the way,
and the bytes after the length byte have to be readable from the next
address on, which may be zero. -/
def nameAt (start : Address) : Except RebuildError ClassName := do
  let length ← (project.image.readByte start).mapError .metadataUnreadable
  let _ ← (project.image.read start (1 + length.toNat)).mapError
      .metadataUnreadable
  match project.listing.values.find? fun item =>
      !item.intersects start (start + (1 : UInt32))
        && item.intersects start (start + (1 + length.toUInt32)) with
  | some other =>
      throw (.host (.conflictingData other.dataType.name other.address))
  | none =>
      let bytes ← (project.image.read
          (start + (1 : UInt32)) length.toNat).mapError
        .metadataUnreadable
      return ⟨bytes⟩

/-- The project after its name was placed; where the name cannot be placed, what
lay at its first byte is gone all the same. -/
def afterName (start : Address) : Project :=
  match (project.clearData start (start + (1 : UInt32))).createData start
    .pascalString with
  | .ok placed => placed
  | .error _ => project.clearData start (start + (1 : UInt32))

/-- The namespace for a class of this name, if there can be one: a class,
a function or a label that is called so already is in the way, and
nothing comes of a library. -/
def classNamespace (name : String) : Except RebuildError NamespaceId :=
  match project.namedNamespace? .global name with
  | some (id, record) =>
      match record.kind with
      | .ofClass => .error (.alreadyDefined name)
      | .ofLibrary => .error (.noNamespace name)
      | _ => .ok id
  | none =>
      if project.hasPlainSymbol .global name then .error (.alreadyDefined name)
      else .ok (.ofPosition project.namespaces.length)

/-- The project with its class of this name, or the same project where
there can be none. -/
def withClass (name : String) : Project :=
  match project.namedNamespace? .global name with
  | some (id, record) =>
      match record.kind with
      | .plain => { project with
          namespaces := project.namespaces.set id.position
            { record with kind := .ofClass } }
      | _ => project
  | none =>
      if project.hasPlainSymbol .global name then project
      else (project.appendNamespace ⟨name, .global, .ofClass, .userDefined⟩).2

end Project

variable {project : Project}

theorem ClassRecord.read_result (address : Address) (dialect : Dialect) :
    (ClassRecord.read address dialect).result Project.host project
      = (project.image.recordAt address dialect, project) := by
  rw [ClassRecord.read, Image.recordAt, Attempt.result_bind]
  simp only [Attempt.result_ofScript, Script.ask_value, Script.ask_state,
    Project.host, Project.respond]
  cases project.image.readWord address with
  | error cause => rfl
  | ok base =>
      simp only [Attempt.result_bind, Attempt.result_ofScript, Script.ask_value,
        Script.ask_state, Project.respond]
      cases project.image.readWord (address + dialect.nameOffset) with
      | error cause => rfl
      | ok name => rfl

/-- Placing a string reads its length byte, then all its bytes, and then
looks for a conflict. -/
theorem Project.createData_pascalString (start : Address) :
    project.createData start .pascalString
      = match project.image.readByte start with
        | .error cause => .error (.memory cause)
        | .ok length =>
            match project.image.read start (1 + length.toUInt32).toNat with
            | .error cause => .error (.memory cause)
            | .ok _ =>
                match project.listing.conflict? start
                  (start + (1 + length.toUInt32)) with
                | some other =>
                    .error (.conflictingData other.dataType.name other.address)
                | none => .ok { project with
                    listing := project.listing.insert start
                      ⟨start, 1 + length.toUInt32, .pascalString⟩ } := by
  rw [createData, placedLength_pascalString]
  cases project.image.readByte start with
  | error cause => rfl
  | ok length => rfl

def Image.nameBytes (image : Image) (start : Address) :
    Except RebuildError ClassName := do
  let length ← (image.readByte start).mapError .metadataUnreadable
  let bytes ← (image.read (start + (1 : UInt32)) length.toNat).mapError
      .metadataUnreadable
  return ⟨bytes⟩

theorem Project.nameAt_eq (project : Project) (start : Address) :
    project.nameAt start
      = match (project.clearData start (start + (1 : UInt32))).createData start
        .pascalString with
        | .error cause => .error (ClassName.placementFailure cause)
        | .ok _ => project.image.nameBytes start := by
  rw [nameAt, createData_pascalString, Image.nameBytes]
  simp only [clearData, Listing.conflict?_clear, toNat_stringLength]
  cases project.image.readByte start with
  | error cause => rfl
  | ok length =>
      simp only [mapError_ok, bind, Except.bind]
      cases project.image.read start (1 + length.toNat) with
      | error cause => rfl
      | ok covered =>
          simp only
          cases project.listing.values.find? _ with
          | some other => rfl
          | none => rfl

theorem ClassName.read_result (start : Address) :
    (ClassName.read start).result Project.host project
      = (project.nameAt start, project.afterName start) := by
  rw [ClassName.read, Project.nameAt_eq, Project.afterName, Attempt.result_bind]
  simp only [Attempt.result_lift, Script.ask_value, Script.ask_state,
    Project.host, Project.respond]
  rw [Attempt.result_bind]
  simp only [Attempt.result_mapError, Attempt.result_ofScript, Script.ask_value,
    Script.ask_state, Project.respond]
  cases created : (project.clearData start (start + (1 : UInt32))).createData
    start .pascalString with
  | error cause => rfl
  | ok placed =>
      have sameImage : placed.image = project.image := by
        obtain ⟨_, _, _, _, _, rfl⟩ := Project.createData_eq_ok created
        rfl
      simp only [Project.settleUnit, mapError_ok]
      rw [Attempt.result_bind, Image.nameBytes]
      simp only [Attempt.result_mapError, Attempt.result_ofScript,
        Script.ask_value, Script.ask_state, Project.respond, sameImage]
      cases project.image.readByte start with
      | error cause => rfl
      | ok length =>
          simp only [mapError_ok]
          rw [Attempt.result_bind]
          simp only [Attempt.result_mapError, Attempt.result_ofScript,
            Script.ask_value, Script.ask_state, Project.respond, sameImage]
          cases read :
            project.image.read (start + (1 : UInt32)) length.toNat with
          | error cause => simp only [bind, Except.bind, mapError_error, read]
          | ok bytes =>
              simp only [mapError_ok]
              rw [Attempt.result_bind, Attempt.result_lift]
              simp only [bind, Except.bind, read]
              rfl

namespace Project

theorem afterName_frame (project : Project) (start : Address) :
    project.afterName start
      = { project with listing := (project.afterName start).listing } := by
  rw [afterName]
  split
  case h_1 placed created =>
      obtain ⟨_, _, _, _, _, rfl⟩ := createData_eq_ok created
      rfl
  case h_2 => rfl

theorem convertToClass_appendNamespace
    (numbered : project.namespaces.length < wordBound) (name : String)
    (parent : NamespaceId) (source : Source) :
    (project.appendNamespace ⟨name, parent, .plain, source⟩).2.convertToClass
        (.ofPosition project.namespaces.length)
      = .ok (some (.ofPosition project.namespaces.length),
          (project.appendNamespace ⟨name, parent, .ofClass, source⟩).2) := by
  have number := NamespaceId.position_ofPosition numbered
  simp [convertToClass, namespace?, appendNamespace, number]

end Project

theorem ClassNamespace.create_result_eq (name : ClassName) :
    (create name).result Project.host project
      = match project.findOrCreateNamespace .global name.text .userDefined with
        | .error cause => (.error (failure name cause), project)
        | .ok (id, found) =>
            match found.convertToClass id with
            | .error cause => (.error (failure name cause), found)
            | .ok (none, last) => (.error (.noNamespace name.text), last)
            | .ok (some id, last) => (.ok id, last) := by
  rw [create, Attempt.result_bind]
  simp only [Attempt.result_mapError, Attempt.result_ofScript, Script.ask_value,
    Script.ask_state, Project.host, Project.respond]
  cases project.findOrCreateNamespace .global name.text .userDefined with
  | error cause => rfl
  | ok created =>
      obtain ⟨id, found⟩ := created
      simp only [Project.settle, mapError_ok]
      rw [Attempt.result_bind]
      simp only [Attempt.result_mapError, Attempt.result_ofScript,
        Script.ask_value, Script.ask_state, Project.respond]
      cases found.convertToClass id with
      | error cause => rfl
      | ok converted =>
          obtain ⟨_ | id, last⟩ := converted
          · rfl
          · rfl

theorem ClassNamespace.create_result (rooted : project.Rooted)
    (numbered : project.namespaces.length < wordBound) (name : ClassName) :
    (ClassNamespace.create name).result Project.host project
      = (project.classNamespace name.text, project.withClass name.text) := by
  have root : project.namespace? .global = some .global := rooted.root
  rw [create_result_eq]
  simp only [Project.findOrCreateNamespace, root, Project.findNamespace?_eq]
  cases found : project.namedNamespace? .global name.text with
  | some entry =>
      obtain ⟨id, record⟩ := entry
      obtain ⟨known, notRoot, _, named⟩ :=
        Project.namespace?_of_namedNamespace? (Nat.le_of_lt numbered) found
      simp only [Option.map_some, Project.convertToClass, known,
        Project.classNamespace, Project.withClass, found]
      cases kind : record.kind with
      | global => exact absurd (rooted.only known kind) notRoot
      | plain => rfl
      | ofClass => rfl
      | ofLibrary => rfl
  | none =>
      simp only [Option.map_none, Project.classNamespace,
        Project.withClass, found]
      cases taken : project.hasPlainSymbol .global name.text with
      | true => rfl
      | false =>
          have converted := Project.convertToClass_appendNamespace numbered
            name.text .global .userDefined
          simp only [if_neg Bool.false_ne_true,
            Project.appendNamespace] at converted ⊢
          rw [converted]

theorem MethodTable.storeTypes_result_eq (className : String)
    (table : Structure) :
    (storeTypes className table).result Project.host project
      = (.ok (.struct table,
          .struct ((Structure.named className).withPointer (.struct table) "vt"
            "Virtual Function Table")),
        (project.withType (.struct table)).withType
          (.struct ((Structure.named className).withPointer (.struct table) "vt"
            "Virtual Function Table"))) := by
  rw [storeTypes, Attempt.result_bind]
  simp only [Attempt.result_ofScript, Script.ask_value, Script.ask_state,
    Project.host, Project.respond, Project.addType, instanceLayout_eq]
  rw [Attempt.result_bind]
  rfl

end DelphiRtti
