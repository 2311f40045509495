import DelphiRtti.Proofs.MethodTable.Steps
import DelphiRtti.Proofs.MethodTable.Walked
import DelphiRtti.Proofs.Script.Console

/-!
# What a walk tells the analyst

Every slot of a walk is told as it is taken, before it is known whether the next
one will be.  So the messages of a walk are those of its slots in their order
and then those of its end.
-/

namespace DelphiRtti

open Text

/-- What the analyst is told of a slot: the function at its target, if it is a
new one, and its place in the class. -/
def Slot.messages (className : String) (slot : Slot) : List String :=
  let adding := "adding function " ++ className ++ "::" ++ slot.fieldName
  if slot.created then
    ["defining function at 0x"
      ++ String.ofList (hexDigits capitalDigit 8 slot.target.toNat) ++ ", name "
      ++ slot.fieldName, adding]
  else [adding]

/-- What the analyst is told of the end of a walk, which left a certain
project.  Where no function can be, the one that was tried has the name that a
new function would have. -/
def WalkEnd.messages (left : Project) : WalkEnd → List String
  | .limitReached => []
  | .noFunction _ target =>
      ["defining function at 0x"
        ++ String.ofList (hexDigits capitalDigit 8 target.toNat) ++ ", name "
        ++ left.fieldName target]
  | .failed failure =>
      ["Failed to add function: VT slot "
        ++ String.ofList (decimal failure.index) ++ " at "
        ++ failure.address.render, "\t" ++ failure.cause.message]

theorem Project.fieldName_withTypes
    (project : Project) (types : SortedMap String DataType) (target : Address) :
    fieldName { project with types } target = project.fieldName target := by
  have sameScopes :
      ∀ id, scopeName? { project with types } id = project.scopeName? id :=
    @scopeName?_congr project { project with types } rfl
  have sameSymbol :
      symbolAt? { project with types } target = project.symbolAt? target := by
    simp only [symbolAt?, sameScopes]
    rfl
  rw [fieldName, sameSymbol]
  rfl

/-- What is told of the end of a walk does not depend on the types. -/
theorem WalkEnd.messages_withTypes
    (stop : WalkEnd) (left : Project) (types : SortedMap String DataType) :
    stop.messages { left with types } = stop.messages left := by
  cases stop with
  | noFunction slot target =>
      rw [messages, Project.fieldName_withTypes, messages]
  | _ => rfl

namespace MethodTable

variable {project left last : Project} {tag className : String}
  {target address : Address} {parent : NamespaceId}

theorem resolve_tells_of_known
    {id : FunctionId} (known : project.functionAt? target = some id) :
    (resolve tag target).Tells Project.host project tag [] := by
  rw [resolve]
  apply Attempt.tells_ask_bind
  simp only [Project.host, Project.respond, known]
  exact Attempt.Silent.pure _ _ _ _

theorem resolve_tells_of_free (free : project.functionAt? target = none) :
    (resolve tag target).Tells Project.host project tag
      [definingMessage target
        (stub target (project.symbolAt? target)).name] := by
  rw [resolve]
  apply Attempt.tells_ask_bind
  simp only [Project.host, Project.respond, free]
  apply Attempt.tells_ask_bind
  apply Attempt.tells_write_bind
  exact Attempt.Silent.bind (.ofScript (Script.silent_ask _))
    (fun _ => .pure _) _ _ _

theorem adopt_tells {function : FunctionId}
    {record : FunctionRecord} (filed : (project.namespace? parent).isSome)
    (known : project.function? function = some record) :
    (adopt tag className parent function).Tells Project.host project tag
      [addingMessage className record.name] := by
  obtain ⟨scope, scopeKnown⟩ := Option.isSome_iff_exists.1 filed
  have updated :
      (project.setFunction function { record with parent }).function? function
      = some { record with parent } := by
    rw [Project.function?_setFunction known, if_pos rfl]
  have filing : (Attempt.ofScript
      (Script.ask (.setParent function parent))).result Project.host project
      = (.ok (), project.setFunction function { record with parent }) := by
    simp only [Attempt.result_ofScript, Script.ask_value, Script.ask_state,
      Project.host, Project.respond, Project.setParent, scopeKnown, known,
      Project.updateFunction_of_known known, Project.settleUnit]
  have naming :
      (Attempt.ofScript (Script.ask (.functionName function))).result
        Project.host (project.setFunction function { record with parent })
      = (.ok record.name,
        project.setFunction function { record with parent }) := by
    simp only [Attempt.result_ofScript, Script.ask_value, Script.ask_state,
      Project.host, Project.respond, Project.functionName, updated]
  rw [adopt]
  apply (Attempt.Silent.ofScript (Script.silent_ask _)).tells_bind filing
  apply (Attempt.Silent.ofScript (Script.silent_ask _)).tells_bind naming
  apply Attempt.tells_write_bind
  refine Attempt.Silent.bind (.ofScript (Script.silent_ask _))
    (fun _ => ?_) _ _ _
  exact .bind (.ofScript (Script.silent_ask _)) fun _ => .pure _

variable {table : Structure} {index : Nat} {messages more : List String}

theorem readSlot_silent (address : Address) :
    Attempt.Silent (Attempt.mapError HostError.memory
      (Attempt.ofScript (Script.ask (.readWord address)))
      : Attempt Project HostError Int32) :=
  .mapError _ (.ofScript (Script.silent_ask _))

theorem takeSlot_tells_of_unreadable {cause : MemoryError}
    (unreadable : project.image.pointerAt address = .error cause) :
    (takeSlot tag className parent table index address).Tells
      Project.host project tag [] := by
  have unread := @readSlot_result project address
  rw [Image.readWord_of_unreadable unreadable] at unread
  rw [takeSlot]
  exact Attempt.tells_bind_of_error (readSlot_silent address _ _ _) unread

theorem takeSlot_tells_of_nothing
    (readable : project.image.pointerAt address = .ok target)
    (resolved :
      (resolve tag target).result Project.host project = (.ok none, left))
    (told : (resolve tag target).Tells Project.host project tag messages) :
    (takeSlot tag className parent table index address).Tells
      Project.host project tag messages := by
  obtain ⟨word, read, rfl⟩ := Image.readWord_of_readable readable
  have here := @readSlot_result project address
  rw [read] at here
  rw [takeSlot]
  apply (readSlot_silent address).tells_bind here
  rw [← List.append_nil messages]
  exact Attempt.tells_bind_of_ok told resolved (Attempt.Silent.pure _ _ _ _)

theorem takeSlot_tells_of_function {middle : Project} {function : FunctionId}
    {created : Bool} (readable : project.image.pointerAt address = .ok target)
    (resolved : (resolve tag target).result Project.host project
      = (.ok (some (function, created)), middle))
    (told : (resolve tag target).Tells Project.host project tag messages)
    (adopted : (adopt tag className parent function).Tells Project.host
      middle tag more) :
    (takeSlot tag className parent table index address).Tells
      Project.host project tag
      (messages ++ more) := by
  obtain ⟨word, read, rfl⟩ := Image.readWord_of_readable readable
  have here := @readSlot_result project address
  rw [read] at here
  rw [takeSlot]
  apply (readSlot_silent address).tells_bind here
  apply Attempt.tells_bind_of_ok told resolved
  apply Attempt.tells_bind_silent adopted
  rintro ⟨name, field⟩
  simp only
  cases table.add field name "" with
  | ok longer => exact .pure _
  | error failure => exact .throw _

theorem messages_eq (className : String) (slot : Slot) :
    slot.messages className
      = (if slot.created then
        [definingMessage slot.target slot.fieldName] else [])
        ++ [addingMessage className slot.fieldName] := by
  -- A function is defined before it is added.
  rw [Slot.messages]
  cases slot.created with
  | true => rfl
  | false => rfl

/-- What is told of a slot, by what taking it comes to. -/
inductive SlotTold (className : String) :
    Except HostError SlotOutcome → Project → List String → Prop where
  | added (slot : Slot) (table : Structure) (left : Project) :
      SlotTold className (.ok (.added slot table)) left
        (slot.messages className)
  | nothing {left : Project} {target : Address}
      (free : left.functionAt? target = none) :
      SlotTold className (.ok (.noFunction target)) left
        [definingMessage target (left.fieldName target)]
  | failed (cause : HostError) (left : Project) :
      SlotTold className (.error cause) left []

theorem takeSlot_told_of_finds
    {middle : Project} {id : FunctionId} {record : FunctionRecord}
    {created : Bool} {outcome : Except HostError SlotOutcome}
    (indexed : project.Indexed) (filed : (project.namespace? parent).isSome)
    (readable : project.image.pointerAt address = .ok target)
    (finds : project.Finds target id record created middle)
    (resolved : (resolve tag target).result Project.host project
      = (.ok (some (id, created)), middle))
    (told : (resolve tag target).Tells Project.host project tag (if created then
      [definingMessage target record.name] else []))
    (taken : (takeSlot tag className parent table index address).result
      Project.host project = (outcome, left)) :
    ∃ messages, (takeSlot tag className parent table index address).Tells
      Project.host project tag messages
      ∧ SlotTold className outcome left messages := by
  have filedStill := finds.filed filed
  have known := finds.function?_eq indexed
  have adopted := adopt_result_eq tag className filedStill known
  cases taken.symm.trans
    (takeSlot_result_of_function table index readable resolved adopted)
  refine ⟨_, takeSlot_tells_of_function readable resolved told
    (adopt_tells filedStill known), ?_⟩
  rw [← messages_eq className
    ⟨index, address, target, id, record.name, created⟩]
  exact .added ..

theorem takeSlot_told (indexed : project.Indexed)
    (filed : (project.namespace? parent).isSome)
    {outcome : Except HostError SlotOutcome}
    (taken : (takeSlot tag className parent table index address).result
      Project.host project = (outcome, left)) :
    ∃ messages, (takeSlot tag className parent table index address).Tells
      Project.host project tag messages
      ∧ SlotTold className outcome left messages := by
  cases readable : project.image.pointerAt address with
  | error cause =>
      cases taken.symm.trans (takeSlot_result_of_unreadable readable)
      exact ⟨_, takeSlot_tells_of_unreadable readable, .failed _ _⟩
  | ok target =>
      cases present : project.functionAt? target with
      | some id =>
          obtain ⟨record, found, _⟩ := indexed.functionAt?_eq_some_iff.1 present
          exact takeSlot_told_of_finds indexed filed readable
            (.known present found)
            (resolve_result_of_known present)
              (resolve_tells_of_known present) taken
      | none =>
          have resolved :
              (resolve tag target).result Project.host project = _ :=
            resolve_result_of_free present
          have told : (resolve tag target).Tells Project.host project tag _ :=
            resolve_tells_of_free present
          by_cases executable : project.image.isExecutable target = true
          · rw [if_pos executable] at resolved
            exact takeSlot_told_of_finds indexed filed readable
              (.defined present) resolved told taken
          · rw [if_neg executable] at resolved
            cases taken.symm.trans
              (takeSlot_result_of_nothing readable resolved)
            refine ⟨_, takeSlot_tells_of_nothing readable resolved told, ?_⟩
            rw [(Project.Walked.refl indexed).stub_name present]
            exact .nothing present

variable {remaining : Nat} {base : Address}

theorem report_tells (tag : String) (index : Nat) (address : Address)
    (cause : HostError) (left : Project) :
    (report tag ⟨index, address, cause⟩).Tells tag
      (WalkEnd.messages left (.failed ⟨index, address, cause⟩)) := by
  have title : "Failed to add function: VT slot "
      ++ String.ofList (decimal index) ++ " at " ++ address.render
      = "Failed to add function: "
        ++ SlotError.title ⟨index, address, cause⟩ := by
    simp only [SlotError.title, String.append_assoc]
    rfl
  rw [WalkEnd.messages, title]
  exact (Transcript.tells_write ..).append (Transcript.tells_write ..)

theorem walkFrom_tells_of_added {slot : Slot} {longer : Structure}
    (taken : (takeSlot tag className parent table index (slotAddress base
      index)).result Project.host project = (.ok (.added slot longer), left))
    (tells : (takeSlot tag className parent table index
      (slotAddress base index)).Tells Project.host project tag messages)
    (later : (walkFrom tag className parent base remaining
      (index + 1) longer).Tells Project.host left tag more) :
    (walkFrom tag className parent base (remaining + 1) index table).Tells
      Project.host project tag
      (messages ++ more) := by
  obtain ⟨value, rfl⟩ := Prod.mk.inj taken
  rw [walkFrom]
  apply Script.tells_bind tells
  simp only [value]
  exact Script.tells_bind_silent later fun _ => Script.silent_pure _

theorem walkFrom_tells_of_nothing
    (taken : (takeSlot tag className parent table index (slotAddress base
      index)).result Project.host project = (.ok (.noFunction target), left))
    (tells : (takeSlot tag className parent table index
      (slotAddress base index)).Tells Project.host project tag messages) :
    (walkFrom tag className parent base (remaining + 1) index table).Tells
      Project.host project tag
      messages := by
  obtain ⟨value, rfl⟩ := Prod.mk.inj taken
  rw [walkFrom, ← List.append_nil messages]
  apply Script.tells_bind tells
  simp only [value]
  exact Script.tells_bind_silent (Script.silent_log _ _ _ _ _) fun _ =>
    Script.silent_pure _

theorem walkFrom_tells_of_failed {cause : HostError}
    (taken : (takeSlot tag className parent table index (slotAddress
      base index)).result Project.host project = (.error cause, left))
    (tells : (takeSlot tag className parent table index
      (slotAddress base index)).Tells Project.host project tag []) :
    (walkFrom tag className parent base (remaining + 1) index table).Tells
      Project.host project tag
      (WalkEnd.messages left
        (.failed ⟨index, slotAddress base index, cause⟩)) := by
  obtain ⟨value, rfl⟩ := Prod.mk.inj taken
  rw [walkFrom]
  apply Script.tells_bind tells
  simp only [value]
  exact Script.tells_bind_silent (report_tells _ _ _ _ project) fun _ =>
    Script.silent_pure _

/-- The messages of a walk are those of its slots, in their order, and
those of its end. -/
theorem walkFrom_tells (base : Address)
    (indexed : project.Indexed) (filed : (project.namespace? parent).isSome)
    (remaining index : Nat) (table : Structure) {walk : Walk}
    (ran : (walkFrom tag className parent base remaining index table).result
      Project.host project = (walk, last)) :
    (walkFrom tag className parent base remaining index table).Tells
      Project.host project tag
        (walk.slots.flatMap (Slot.messages className)
          ++ walk.stop.messages last)
      ∧ ∀ slot target, walk.stop = .noFunction slot target →
        last.functionAt? target = none := by
  induction remaining generalizing project index table walk with
  | zero =>
      rw [walkFrom_zero_result] at ran
      cases ran
      exact ⟨Transcript.tells_nil tag, nofun⟩
  | succ remaining induction =>
      obtain ⟨outcome, left, taken, step⟩ :=
        takeSlot_step tag className indexed filed table index
          (slotAddress base index)
      obtain ⟨messages, tells, told⟩ := takeSlot_told indexed filed taken
      rw [walkFrom_succ_result, taken] at ran
      cases told with
      | failed =>
          cases ran
          exact ⟨walkFrom_tells_of_failed taken tells, nofun⟩
      | nothing free =>
          cases ran
          refine ⟨walkFrom_tells_of_nothing taken tells, ?_⟩
          intro slot target same
          cases same
          exact free
      | added slot longer =>
          rcases ranLater : (walkFrom tag className parent base remaining
            (index + 1) longer).result
            Project.host left with ⟨rest, later⟩
          simp only [ranLater] at ran
          cases ran
          obtain ⟨tellsLater, free⟩ :=
            induction (step.indexed indexed) (step.filed filed)
              (index + 1) longer ranLater
          refine ⟨?_, free⟩
          rw [List.flatMap_cons, List.append_assoc]
          exact walkFrom_tells_of_added taken tells tellsLater

end MethodTable

end DelphiRtti
