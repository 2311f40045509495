import DelphiRtti.Proofs.MethodTable.Layout
import DelphiRtti.Proofs.Project.Functions
import DelphiRtti.Proofs.Script.Result

/-!
# One slot on a project

What each step of a slot comes to on a project, and which project it leaves: a
target has a function, or gets one, or the walk ends there.
-/

namespace DelphiRtti

open Text

/-- The pointer that four bytes write, least significant byte first. -/
def Image.pointerAt (image : Image) (address : Address) :
    Except MemoryError Address :=
  (image.read address 4).map fun bytes => .ofNat (littleEndian bytes)

namespace Image

variable {image : Image} {address : Address}

theorem readWord_of_readable {target : Address}
    (readable : image.pointerAt address = .ok target) :
    ∃ word, image.readWord address = .ok word ∧ .ofWord word = target := by
  rw [pointerAt] at readable
  rw [readWord]
  cases read : image.read address 4 with
  | error cause =>
      rw [read] at readable
      cases readable
  | ok bytes =>
      rw [read] at readable
      cases readable
      exact ⟨_, rfl, by simp [Address.ofWord, Address.ofNat]⟩

theorem readWord_of_unreadable {cause : MemoryError}
    (unreadable : image.pointerAt address = .error cause) :
    image.readWord address = .error cause := by
  rw [pointerAt] at unreadable
  rw [readWord]
  cases read : image.read address 4 with
  | error other =>
      rw [read] at unreadable
      cases unreadable
      rfl
  | ok bytes =>
      rw [read] at unreadable
      cases unreadable

end Image

namespace MethodTable

/-- The function that a walk defines at a target. -/
def stub (target : Address) (symbol : Option Symbol) : FunctionRecord :=
  ⟨target, nameFor target symbol, .global, .undefined, .userDefined⟩

variable {project : Project} {tag className : String} {target : Address}
  {parent : NamespaceId}

theorem resolve_result_of_known
    {id : FunctionId} (known : project.functionAt? target = some id) :
    (resolve tag target).result Project.host project
      = (.ok (some (id, false)), project) := by
  rw [resolve, Attempt.result_bind, Attempt.result_lift]
  simp only [Script.ask_value, Script.ask_state, Project.host,
    Project.respond, known]
  rfl

theorem resolve_result_of_free (free : project.functionAt? target = none) :
    (resolve tag target).result Project.host project
      = if project.image.isExecutable target then
          (.ok (some (.ofPosition project.functions.length, true)),
            project.withFunction (stub target (project.symbolAt? target)))
        else (.ok none, project) := by
  have absent : project.entries.contains target = false := by
    rw [SortedMap.contains]
    exact congrArg Option.isSome free
  rw [resolve, Attempt.result_bind, Attempt.result_lift]
  simp only [Script.ask_value, Script.ask_state, Project.host,
    Project.respond, free]
  rw [Attempt.result_bind, Attempt.result_lift]
  simp only [Script.ask_value, Script.ask_state, Project.respond]
  rw [Attempt.result_bind, Attempt.result_lift]
  simp only [Script.emit_state]
  rw [Attempt.result_bind, Attempt.result_ofScript]
  simp only [Script.ask_value, Script.ask_state, Project.respond,
    Project.createFunction, absent, Project.addFunction, Bool.false_or]
  cases project.image.isExecutable target with
  | true => rfl
  | false => rfl

/-- An adopted function is filed under the class, and its definition is stored
unless another type of its name is stored already. -/
theorem adopt_result_eq (tag className : String) {function : FunctionId}
    {record : FunctionRecord} (filed : (project.namespace? parent).isSome)
    (known : project.function? function = some record) :
    (adopt tag className parent function).result Project.host project
      = (.ok (record.name,
          ((project.setFunction function { record with parent }).addType
            (.function record.definition) .keep).1.pointerTo),
        ((project.setFunction function { record with parent }).addType
          (.function record.definition) .keep).2) := by
  obtain ⟨scope, scopeKnown⟩ := Option.isSome_iff_exists.1 filed
  have updated :
      (project.setFunction function { record with parent }).function? function
      = some { record with parent } := by
    rw [Project.function?_setFunction known, if_pos rfl]
  rw [adopt, Attempt.result_bind, Attempt.result_ofScript]
  simp only [Script.ask_value, Script.ask_state, Project.host, Project.respond,
    Project.setParent, scopeKnown, known, Project.updateFunction_of_known known,
    Project.settleUnit]
  rw [Attempt.result_bind, Attempt.result_ofScript]
  simp only [Script.ask_value, Script.ask_state, Project.respond,
    Project.functionName, updated]
  rw [Attempt.result_bind, Attempt.result_lift]
  simp only [Script.emit_state]
  rw [Attempt.result_bind, Attempt.result_ofScript]
  simp only [Script.ask_value, Script.ask_state, Project.respond,
    Project.functionDefinition, updated]
  rw [Attempt.result_bind, Attempt.result_ofScript]
  rfl

theorem adopt_result (tag className : String) {function : FunctionId}
    {record : FunctionRecord} (filed : (project.namespace? parent).isSome)
    (known : project.function? function = some record) :
    ∃ (definition : DataType) (types : SortedMap String DataType),
      (adopt tag className parent function).result Project.host project
        = (.ok (record.name, definition.pointerTo),
          { project.setFunction function { record with parent } with
            types }) := by
  rw [adopt_result_eq tag className filed known]
  rcases @Project.addType_eq
    (project.setFunction function { record with parent })
    (.function record.definition) .keep with same | stored
  · rw [same]
    exact ⟨_, project.types, rfl⟩
  · rw [stored]
    exact ⟨_, _, rfl⟩

variable {table : Structure} {index : Nat} {address : Address}

theorem readSlot_result (address : Address) :
    (Attempt.mapError HostError.memory
      (Attempt.ofScript (Script.ask (.readWord address)))).result
        Project.host project
      = ((project.image.readWord address).mapError .memory, project) := rfl

theorem takeSlot_result_of_unreadable {cause : MemoryError}
    (unreadable : project.image.pointerAt address = .error cause) :
    (takeSlot tag className parent table index address).result
      Project.host project
      = (.error (.memory cause), project) := by
  rw [takeSlot, Attempt.result_bind, readSlot_result,
    Image.readWord_of_unreadable unreadable]
  rfl

theorem takeSlot_result_of_nothing
    {left : Project} (readable : project.image.pointerAt address = .ok target)
    (resolved :
      (resolve tag target).result Project.host project = (.ok none, left)) :
    (takeSlot tag className parent table index address).result
      Project.host project
      = (.ok (.noFunction target), left) := by
  obtain ⟨word, read, rfl⟩ := Image.readWord_of_readable readable
  rw [takeSlot, Attempt.result_bind, readSlot_result, read]
  simp only [mapError_ok]
  rw [Attempt.result_bind, resolved]
  rfl

theorem takeSlot_result_of_function (table : Structure)
    (index : Nat) {middle last : Project} {function : FunctionId}
    {created : Bool} {name : String} {definition : DataType}
    (readable : project.image.pointerAt address = .ok target)
    (resolved : (resolve tag target).result Project.host project
      = (.ok (some (function, created)), middle))
    (adopted : (adopt tag className parent function).result Project.host middle
      = (.ok (name, definition.pointerTo), last)) :
    (takeSlot tag className parent table index address).result
      Project.host project
      = (.ok (.added ⟨index, address, target, function, name, created⟩
          (table.withPointer definition name "")), last) := by
  -- A target with a function is added to the table, since a pointer always
  -- has a place there.
  obtain ⟨word, read, rfl⟩ := Image.readWord_of_readable readable
  rw [takeSlot, Attempt.result_bind, readSlot_result, read]
  simp only [mapError_ok]
  rw [Attempt.result_bind, resolved]
  simp only
  rw [Attempt.result_bind, adopted]
  simp only [Structure.add_pointerTo]
  rfl

variable {σ : Type} (host : Host σ) (state : σ) (remaining : Nat)
  (base : Address)

theorem walkFrom_zero_result :
    (walkFrom tag className parent base 0 index table).result host state
      = (⟨[], .limitReached, table⟩, state) := rfl

theorem walkFrom_succ_result :
    (walkFrom tag className parent base (remaining + 1) index table).result
      host state
      = match (takeSlot tag className parent table index
        (slotAddress base index)).result host state with
        | (.ok (.added slot next), left) =>
            let rest := (walkFrom tag className parent base remaining
              (index + 1) next).result host left
            ({ rest.1 with slots := slot :: rest.1.slots }, rest.2)
        | (.ok (.noFunction target), left) =>
            (⟨[], .noFunction (slotAddress base index) target, table⟩, left)
        | (.error cause, left) =>
            (⟨[], .failed ⟨index, slotAddress base index, cause⟩, table⟩,
              left) := by
  simp only [Script.result, Attempt.result, walkFrom, Script.bind_value,
    Script.bind_state]
  rcases (Attempt.outcome
    (takeSlot tag className parent table index (slotAddress base index)) host
    state).value with cause | (⟨slot, next⟩ | target)
  · rfl
  · rfl
  · rfl

end MethodTable

end DelphiRtti
