import DelphiRtti.Proofs.MethodTable.Layout
import DelphiRtti.Proofs.Script.Dialogue
import DelphiRtti.Rebuild

/-!
# The order of calls in a rebuild

A rebuild goes through phases, and in each of them one call may come next.  What
the host answers decides the phase after it: a refused call ends the rebuild,
but inside a slot it only ends the walk, and what was found by then is still
stored.  No assumption is made on the host.
-/

namespace DelphiRtti

open Text

namespace Rebuild

/-- What a walk knows of its class. -/
structure Work where
  record : ClassRecord
  name : ClassName
  parent : NamespaceId

/-- Which call comes next inside a slot. -/
inductive SlotPhase where
  | word
  | function (target : Address)
  | symbol (target : Address)
  | creation (target : Address) (symbol : Option Symbol)
  | parent (function : FunctionId)
  | name (function : FunctionId)
  | definition (function : FunctionId)
  | type (definition : DataType)

/-- Which call comes next, with what the answers so far have told. -/
inductive Phase where
  | tableBase
  | namePointer (base : Address)
  | oldName (record : ClassRecord)
  | namePlace (record : ClassRecord)
  | nameLength (record : ClassRecord)
  | nameBytes (record : ClassRecord) (length : UInt8)
  | classNamespace (record : ClassRecord) (name : ClassName)
  | conversion (record : ClassRecord) (name : ClassName) (id : NamespaceId)
  | slot (work : Work) (index : Nat) (next : SlotPhase)
  | tableType (work : Work)
  | instanceType (work : Work)
  | rebuilt
  | refused

namespace Phase

/-- Before the slot with an index, or at the end of the walk if the
limit is reached. -/
def atSlot (dialect : Dialect) (work : Work) (index : Nat) : Phase :=
  if index < dialect.maxSlots.toNat then .slot work index .word
  else .tableType work

/-- The calls that may come next. -/
def Awaits (address : Address) (dialect : Dialect) : Phase → Request → Prop
  | .tableBase, request => request = .readWord address
  | .namePointer _, request =>
      request = .readWord (address + dialect.nameOffset)
  | .oldName record, request =>
      request = .clearData record.nameAddress
        (record.nameAddress + (1 : UInt32))
  | .namePlace record, request =>
      request = .createData record.nameAddress .pascalString
  | .nameLength record, request => request = .readByte record.nameAddress
  | .nameBytes record length, request =>
      request = .readBytes (record.nameAddress + (1 : UInt32)) length.toNat
  | .classNamespace _ name, request =>
      name.hasAcceptedPrefix dialect = true
        ∧ request = .findOrCreateNamespace .global name.text .userDefined
  | .conversion _ _ id, request => request = .convertToClass id
  | .slot work index .word, request =>
      request = .readWord (.ofNat (work.record.tableBase.toNat + 4 * index))
  | .slot _ _ (.function target), request => request = .functionAt target
  | .slot _ _ (.symbol target), request => request = .symbolAt target
  | .slot _ _ (.creation target symbol), request =>
      request = .createFunction target (MethodTable.nameFor target symbol)
  | .slot work _ (.parent function), request =>
      request = .setParent function work.parent
  | .slot _ _ (.name function), request => request = .functionName function
  | .slot _ _ (.definition function), request =>
      request = .functionDefinition function
  | .slot _ _ (.type definition), request => request = .addType definition .keep
  | .tableType work, request =>
      ∃ table : Structure, table.name = work.name.text ++ "VT"
        ∧ request = .addType (.struct table) .replace
  | .instanceType work, request =>
      ∃ layout : Structure, layout.name = work.name.text
        ∧ request = .addType (.struct layout) .replace
  | .rebuilt, _ => False
  | .refused, _ => False

/-- The phase after an answer.  Where no row for a success fits, the
call has failed. -/
def advance (address : Address) (dialect : Dialect) : Phase → Exchange → Phase
  | .tableBase, ⟨.readWord _, .ok word⟩ => .namePointer (.ofWord word)
  | .namePointer base, ⟨.readWord _, .ok word⟩ =>
      .oldName ⟨address, base, .ofWord word⟩
  | .oldName record, _ => .namePlace record
  | .namePlace record, ⟨.createData _ _, .ok ()⟩ => .nameLength record
  | .nameLength record, ⟨.readByte _, .ok length⟩ => .nameBytes record length
  | .nameBytes record _, ⟨.readBytes _ _, .ok bytes⟩ =>
      .classNamespace record ⟨bytes⟩
  | .classNamespace record name, ⟨.findOrCreateNamespace _ _ _, .ok id⟩ =>
      .conversion record name id
  | .conversion record name _, ⟨.convertToClass _, .ok (some parent)⟩ =>
      atSlot dialect ⟨record, name, parent⟩ 0
  | .slot work index .word, ⟨.readWord _, .ok word⟩ =>
      .slot work index (.function (.ofWord word))
  | .slot work index (.function _), ⟨.functionAt _, some function⟩ =>
      .slot work index (.parent function)
  | .slot work index (.function target), ⟨.functionAt _, none⟩ =>
      .slot work index (.symbol target)
  | .slot work index (.symbol target), ⟨.symbolAt _, symbol⟩ =>
      .slot work index (.creation target symbol)
  | .slot work index (.creation _ _),
    ⟨.createFunction _ _, .ok (some function)⟩ =>
      .slot work index (.parent function)
  | .slot work index (.parent function), ⟨.setParent _ _, .ok ()⟩ =>
      .slot work index (.name function)
  | .slot work index (.name function), ⟨.functionName _, .ok _⟩ =>
      .slot work index (.definition function)
  | .slot work index (.definition _), ⟨.functionDefinition _, .ok definition⟩ =>
      .slot work index (.type definition)
  | .slot work index (.type _), ⟨.addType _ _, .ok _⟩ =>
      atSlot dialect work (index + 1)
  | .slot work _ _, _ => .tableType work
  | .tableType work, ⟨.addType _ _, .ok _⟩ => .instanceType work
  | .instanceType _, ⟨.addType _ _, .ok _⟩ => .rebuilt
  | _, _ => .refused

def afterConversion (dialect : Dialect) (record : ClassRecord)
    (name : ClassName) : Option NamespaceId → Phase
  | some parent => atSlot dialect ⟨record, name, parent⟩ 0
  | none => .refused

def afterLookup (work : Work) (index : Nat) (target : Address) :
    Option FunctionId → Phase
  | some function => .slot work index (.parent function)
  | none => .slot work index (.symbol target)

def afterCreation (work : Work) (index : Nat) : Option FunctionId → Phase
  | some function => .slot work index (.parent function)
  | none => .tableType work

/-- One exchange of a rebuild: an awaited call, and where its answer leads. -/
def Step (address : Address) (dialect : Dialect) (phase : Phase)
    (exchange : Exchange) (next : Phase) : Prop :=
  phase.Awaits address dialect exchange.request
    ∧ phase.advance address dialect exchange = next

def Final (address : Address) (dialect : Dialect) (phase : Phase) : Prop :=
  ∀ request, ¬ phase.Awaits address dialect request

end Phase

/-- An attempt ends in a phase that fits its value, or in a given
phase if it fails. -/
def Settles {ε α : Type} (succeeded : α → Phase) (failed : Phase) :
    Except ε α → Phase → Prop
  | .ok value, phase => phase = succeeded value
  | .error _, phase => phase = failed

variable {σ : Type} {address : Address} {dialect : Dialect}

theorem follows_awaited
    {request : Request} {phase : Phase} {ends : request.Response → Phase → Prop}
    (awaited : phase.Awaits address dialect request)
    (fits : ∀ response,
      ends response (phase.advance address dialect ⟨request, response⟩)) :
    Script.Follows (Phase.Step address dialect)
      (Script.ask request : Script σ request.Response)
      phase ends :=
  Script.follows_ask fun response => ⟨_, ⟨awaited, rfl⟩, fits response⟩

theorem Settles.bind {ε α β : Type} {attempt : Attempt σ ε α}
    {next : α → Attempt σ ε β} {start : Phase}
    (succeeded : α → Phase) (failed : Phase) {ends : Except ε β → Phase → Prop}
    (first : attempt.Follows
      (Phase.Step address dialect) start (Settles succeeded failed))
    (second : ∀ value, (next value).Follows (Phase.Step address dialect)
      (succeeded value) ends) (refused : ∀ cause, ends (.error cause) failed) :
    (attempt >>= next).Follows (Phase.Step address dialect) start ends := by
  refine Attempt.follows_bind first ?_ ?_
  · rintro value _ rfl
    exact second value
  · rintro cause _ rfl
    exact refused cause

theorem Settles.mapError {ε ε' α : Type} {attempt : Attempt σ ε α}
    {change : ε → ε'} {start failed : Phase} {succeeded : α → Phase}
    (settles : attempt.Follows (Phase.Step address dialect) start
      (Settles succeeded failed)) :
    (Attempt.mapError change attempt).Follows (Phase.Step address dialect) start
      (Settles succeeded failed) := by
  refine Attempt.follows_mapError (Script.Follows.weaken settles ?_)
  intro outcome phase fits
  cases outcome <;> exact fits

theorem read_follows :
    (ClassRecord.read address dialect :
      Attempt σ MemoryError ClassRecord).Follows
      (Phase.Step address dialect) .tableBase (Settles .oldName .refused) := by
  refine Settles.bind (fun word => .namePointer (.ofWord word)) .refused
    (Attempt.follows_ofScript (follows_awaited rfl ?_)) ?_ fun _ => rfl
  · intro response
    cases response <;> rfl
  · intro base
    refine Settles.bind
      (fun word => .oldName ⟨address, .ofWord base, .ofWord word⟩) .refused
      (Attempt.follows_ofScript (follows_awaited rfl ?_)) ?_ fun _ => rfl
    · intro response
      cases response <;> rfl
    · intro name
      exact Attempt.follows_emit_bind rfl (Attempt.follows_pure rfl)

theorem readName_follows (record : ClassRecord) :
    (ClassName.read record.nameAddress :
      Attempt σ RebuildError ClassName).Follows
      (Phase.Step address dialect) (.oldName record)
      (Settles (.classNamespace record) .refused) := by
  refine Settles.bind (fun _ => .namePlace record) .refused
    (Attempt.follows_lift (follows_awaited rfl fun _ => rfl)) ?_ fun _ => rfl
  intro _
  refine Settles.bind (fun _ => .nameLength record) .refused
    (Settles.mapError (Attempt.follows_ofScript (follows_awaited rfl ?_))) ?_
      fun _ => rfl
  · intro response
    cases response <;> rfl
  · intro _
    refine Settles.bind (.nameBytes record) .refused
      (Settles.mapError (Attempt.follows_ofScript (follows_awaited rfl ?_))) ?_
        fun _ => rfl
    · intro response
      cases response <;> rfl
    · intro length
      refine Settles.bind (fun bytes => .classNamespace record ⟨bytes⟩) .refused
        (Settles.mapError (Attempt.follows_ofScript (follows_awaited rfl ?_)))
          ?_ fun _ => rfl
      · intro response
        cases response <;> rfl
      · intro bytes
        exact Attempt.follows_emit_bind rfl (Attempt.follows_pure rfl)

theorem create_follows (record : ClassRecord) (name : ClassName)
    (accepted : name.hasAcceptedPrefix dialect = true) :
    (ClassNamespace.create name : Attempt σ RebuildError NamespaceId).Follows
      (Phase.Step address dialect) (.classNamespace record name)
      (Settles (fun parent => Phase.atSlot dialect ⟨record, name, parent⟩ 0)
        .refused) := by
  refine Settles.bind (.conversion record name) .refused
    (Settles.mapError
      (Attempt.follows_ofScript (follows_awaited ⟨accepted, rfl⟩ ?_))) ?_
    fun _ => rfl
  · intro response
    cases response <;> rfl
  · intro id
    refine Settles.bind (Phase.afterConversion dialect record name) .refused
      (Settles.mapError (Attempt.follows_ofScript (follows_awaited rfl ?_))) ?_
        fun _ => rfl
    · intro response
      rcases response with _ | _ | _ <;> rfl
    · intro converted
      cases converted with
      | some parent => exact Attempt.follows_pure rfl
      | none => exact Attempt.follows_throw rfl

variable (tag : String) (work : Work) (index : Nat)

theorem resolve_follows (target : Address) :
    (MethodTable.resolve tag target : Attempt σ HostError _).Follows
      (Phase.Step address dialect) (.slot work index (.function target))
      (Settles (fun found => .afterCreation work index (found.map Prod.fst))
        (.tableType work)) := by
  refine Settles.bind (Phase.afterLookup work index target) (.tableType work)
    (Attempt.follows_lift (follows_awaited rfl ?_)) ?_ fun _ => rfl
  · intro found
    cases found <;> rfl
  · intro found
    cases found with
    | some function => exact Attempt.follows_pure rfl
    | none =>
        refine Settles.bind
          (fun symbol => .slot work index (.creation target symbol))
          (.tableType work)
            (Attempt.follows_lift (follows_awaited rfl fun _ => rfl)) ?_
          fun _ => rfl
        intro symbol
        refine Attempt.follows_emit_bind rfl (Settles.bind
          (Phase.afterCreation work index) (.tableType work)
          (Attempt.follows_ofScript (follows_awaited rfl ?_)) ?_ fun _ => rfl)
        · intro response
          rcases response with _ | _ | _ <;> rfl
        · intro created
          cases created <;> exact Attempt.follows_pure rfl

/-- An adopted function has a pointer type for its slot and leads to
the next slot. -/
def AdoptEnds (dialect : Dialect) (work : Work) (index : Nat) :
    Except HostError (String × DataType) → Phase → Prop
  | .ok (_, field), phase =>
      phase = Phase.atSlot dialect work (index + 1) ∧ ∃ target : DataType,
        field = target.pointerTo
  | .error _, phase => phase = .tableType work

theorem adopt_follows (className : String) (function : FunctionId) :
    (MethodTable.adopt tag className work.parent function :
      Attempt σ HostError _).Follows
      (Phase.Step address dialect) (.slot work index (.parent function))
      (AdoptEnds dialect work index) := by
  refine Settles.bind (fun _ => .slot work index (.name function))
    (.tableType work)
    (Attempt.follows_ofScript (follows_awaited rfl ?_)) ?_ fun _ => rfl
  · intro response
    cases response <;> rfl
  · intro _
    refine Settles.bind (fun _ => .slot work index (.definition function))
      (.tableType work)
      (Attempt.follows_ofScript (follows_awaited rfl ?_)) ?_ fun _ => rfl
    · intro response
      cases response <;> rfl
    · intro name
      refine Attempt.follows_emit_bind rfl (Settles.bind
        (fun definition => .slot work index (.type definition))
          (.tableType work)
        (Attempt.follows_ofScript (follows_awaited rfl ?_)) ?_ fun _ => rfl)
      · intro response
        cases response <;> rfl
      · intro definition
        refine Settles.bind (fun _ => Phase.atSlot dialect work (index + 1))
          (.tableType work)
          (Attempt.follows_ofScript (follows_awaited rfl ?_)) ?_ fun _ => rfl
        · intro response
          cases response <;> rfl
        · intro stored
          exact Attempt.follows_pure ⟨rfl, stored, rfl⟩

/-- A slot that is added leads to the next one, and with anything else
the walk is over. -/
def SlotEnds (dialect : Dialect) (work : Work) (index : Nat)
    (table : Structure) :
    Except HostError MethodTable.SlotOutcome → Phase → Prop
  | .ok (.added _ longer), phase =>
      phase = Phase.atSlot dialect work (index + 1) ∧ longer.name = table.name
  | .ok (.noFunction _), phase => phase = .tableType work
  | .error _, phase => phase = .tableType work

theorem takeSlot_follows (className : String) (table : Structure) :
    (MethodTable.takeSlot tag className work.parent table index
        (MethodTable.slotAddress work.record.tableBase index) :
          Attempt σ HostError _).Follows
      (Phase.Step address dialect) (.slot work index .word)
      (SlotEnds dialect work index table) := by
  rw [MethodTable.slotAddress_eq]
  refine Settles.bind (fun word => .slot work index (.function (.ofWord word)))
    (.tableType work)
    (Settles.mapError (Attempt.follows_ofScript (follows_awaited rfl ?_))) ?_
      fun _ => rfl
  · intro response
    cases response <;> rfl
  · intro word
    refine Settles.bind _ _ (resolve_follows tag work index (.ofWord word)) ?_
      fun _ => rfl
    intro found
    rcases found with _ | ⟨function, created⟩
    · exact Attempt.follows_pure rfl
    · refine Attempt.follows_bind
        (adopt_follows tag work index className function) ?_ ?_
      · rintro ⟨name, _⟩ _ ⟨rfl, target, rfl⟩
        simp only [Structure.add_pointerTo]
        exact Attempt.follows_pure ⟨rfl, rfl⟩
      · rintro _ _ failed
        exact failed

theorem walkFrom_follows (className : String) (remaining : Nat)
    (table : Structure) (count : index + remaining = dialect.maxSlots.toNat) :
    (MethodTable.walkFrom tag className work.parent work.record.tableBase
      remaining index table :
        Script σ Walk).Follows (Phase.Step address dialect)
          (Phase.atSlot dialect work index)
      (fun walk phase => phase = .tableType work
        ∧ walk.table.name = table.name) := by
  induction remaining generalizing index table with
  | zero =>
      have ended : Phase.atSlot dialect work index = .tableType work :=
        if_neg (by omega)
      rw [ended]
      exact Script.follows_pure ⟨rfl, rfl⟩
  | succ remaining induction =>
      have more : Phase.atSlot dialect work index = .slot work index .word :=
        if_pos (by omega)
      rw [more]
      refine Script.follows_bind
        (takeSlot_follows tag work index className table) ?_
      rintro (cause | ⟨slot, longer⟩ | target) phase ends
      · obtain rfl : phase = .tableType work := ends
        exact Script.follows_bind (Script.follows_emit rfl)
          fun _ _ ended => Script.follows_pure ⟨ended, rfl⟩
      · obtain ⟨rfl, sameName⟩ := ends
        refine Script.follows_bind (induction (index + 1) longer (by omega)) ?_
        rintro walk _ ⟨ended, name⟩
        exact Script.follows_pure ⟨ended, name.trans sameName⟩
      · obtain rfl : phase = .tableType work := ends
        exact Script.follows_bind Script.follows_log
          fun _ _ ended => Script.follows_pure ⟨ended, rfl⟩

theorem storeTypes_follows (table : Structure)
    (named : table.name = work.name.text ++ "VT") :
    (MethodTable.storeTypes work.name.text table :
      Attempt σ HostError _).Follows
      (Phase.Step address dialect) (.tableType work)
        (Settles (fun _ => .rebuilt) .refused) := by
  refine Settles.bind (fun _ => .instanceType work) .refused
    (Attempt.follows_ofScript (follows_awaited ⟨table, named, rfl⟩ ?_)) ?_
      fun _ => rfl
  · intro response
    cases response <;> rfl
  · intro stored
    simp only [MethodTable.instanceLayout_eq]
    refine Settles.bind (fun _ => .rebuilt) .refused
      (Attempt.follows_ofScript (follows_awaited ⟨_, rfl, rfl⟩ ?_)) ?_
        fun _ => rfl
    · intro response
      cases response <;> rfl
    · intro layout
      exact Attempt.follows_pure rfl

/-- A rebuild succeeds exactly in the phase for it, and nothing comes
after it. -/
def Ends (address : Address) (dialect : Dialect)
    (outcome : Except RebuildError RebuiltClass) (phase : Phase) : Prop :=
  (outcome.isOk = true ↔ phase = .rebuilt) ∧ phase.Final address dialect

theorem ends_refused (failure : RebuildError) :
    Ends address dialect (.error failure) .refused :=
  ⟨by simp [Except.isOk, Except.toBool], fun _ impossible => impossible⟩

theorem stages_follows :
    (stages address dialect : Attempt σ RebuildError RebuiltClass).Follows
      (Phase.Step address dialect) .tableBase (Ends address dialect) := by
  refine Settles.bind _ _ (Settles.mapError read_follows) ?_ ends_refused
  intro record
  refine Settles.bind _ _ (readName_follows record) ?_ ends_refused
  intro name
  by_cases accepted : name.hasAcceptedPrefix dialect = true
  · refine Settles.bind (fun _ => .classNamespace record name) .refused
      (Attempt.follows_ofScript (Script.follows_pure ?_)) ?_ ends_refused
    · rw [ClassName.check, if_pos accepted]
      rfl
    · intro _
      refine Attempt.follows_emit_bind rfl
        (Settles.bind _ _ (create_follows record name accepted) ?_ ends_refused)
      intro parent
      refine Attempt.follows_lift_bind
        (walkFrom_follows dialect.tag
          ⟨record, name, parent⟩ 0 name.text dialect.maxSlots.toNat _
          (Nat.zero_add _)) ?_
      rintro walk _ ⟨rfl, named⟩
      refine Settles.bind _ _
        (Settles.mapError
          (storeTypes_follows ⟨record, name, parent⟩ walk.table named)) ?_
        ends_refused
      rintro ⟨tableType, instanceType⟩
      refine Attempt.follows_emit_bind rfl
        (Attempt.follows_pure ⟨?_, fun _ impossible => impossible⟩)
      simp [Except.isOk, Except.toBool]
  · have checked : (stages.liftExcept (name.check dialect) :
      Attempt σ RebuildError Unit).Follows
        (Phase.Step address dialect) (.classNamespace record name)
          fun outcome phase =>
          phase = .classNamespace record name ∧ outcome.isOk = false := by
      rw [ClassName.check, if_neg accepted]
      exact Attempt.follows_ofScript (Script.follows_pure ⟨rfl, rfl⟩)
    refine Attempt.follows_bind checked ?_ ?_
    · rintro _ _ ⟨_, impossible⟩
      cases impossible
    · rintro failure _ ⟨rfl, _⟩
      refine ⟨by simp [Except.isOk, Except.toBool], ?_⟩
      rintro request ⟨acceptedAfterAll, _⟩
      exact accepted acceptedAfterAll

end Rebuild

theorem rebuild_follows {σ : Type} (address : Address) (dialect : Dialect) :
    (rebuild address dialect : Script σ _).Follows
      (Rebuild.Phase.Step address dialect) .tableBase
      (Rebuild.Ends address dialect) := by
  refine Script.follows_bind Rebuild.stages_follows ?_
  intro outcome phase ends
  cases outcome with
  | ok rebuilt => exact Script.follows_pure ends
  | error failure =>
      refine Script.follows_bind (Script.follows_emit ?_) ?_
      · cases failure <;> rfl
      · rintro _ _ rfl
        exact Script.follows_pure ends

end DelphiRtti
