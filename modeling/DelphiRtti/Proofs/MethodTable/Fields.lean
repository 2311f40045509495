import Mathlib.Data.List.Forall2
import DelphiRtti.Proofs.MethodTable.Layout
import DelphiRtti.Proofs.Script.Dialogue

/-!
# Fields and slots of a walk

The walk lists its slots and the structure of the table collects their fields,
in different places of the loop.  Whatever the host answers, the two stay in
step: a slot that does not get its field is not listed, and the walk reads one
word for each listed slot and one more for the slot that ends it.
-/

namespace DelphiRtti

open Text

def Request.word? : Request → Option Address
  | .readWord address => some address
  | _ => none

def Transcript.wordsRead (transcript : Transcript) : List Address :=
  transcript.requests.filterMap Request.word?

/-- A protocol whose phase is the list of the words read so far. -/
def Reads (before : List Address) (exchange : Exchange)
    (after : List Address) : Prop :=
  after = before ++ exchange.request.word?.toList

theorem Reads.path {first last : List Address} {exchanges : List Exchange}
    (path : Path Reads first exchanges last) :
    last
      = first ++ (exchanges.map Exchange.request).filterMap Request.word? := by
  induction path with
  | nil phase => simp
  | @cons phase next last exchange rest step _ induction =>
      rw [induction, step, List.append_assoc, List.map_cons,
        List.filterMap_cons]
      cases exchange.request.word? with
      | none => simp
      | some address => simp

section

variable {σ ε α β : Type} {reads : List Address}

theorem Script.Follows.wordsRead {script : Script σ α}
    {ends : α → List Address → Prop} (follows : script.Follows Reads [] ends)
    (host : Host σ) (state : σ) :
    ends (script host state).value (script host state).events.wordsRead := by
  obtain ⟨exchanges, last, made, path, fits⟩ := follows host state
  have words : (script host state).events.wordsRead = last := by
    rw [Transcript.wordsRead, made.requests, Reads.path path, List.nil_append]
  rw [words]
  exact fits

theorem Script.follows_wordless {request : Request}
    (wordless : request.word? = none) :
    Script.Follows Reads (Script.ask request : Script σ request.Response) reads
      fun _ after => after = reads := by
  refine Script.follows_ask fun response => ⟨reads, ?_, rfl⟩
  change reads = reads ++ request.word?.toList
  rw [wordless]
  exact (List.append_nil reads).symm

/-- An attempt that reads no word, and what its value is if it succeeds. -/
def Attempt.Wordless (attempt : Attempt σ ε α) (fits : α → Prop) : Prop :=
  ∀ reads, attempt.Follows Reads reads fun outcome after =>
    after = reads ∧ ∀ value, outcome = .ok value → fits value

namespace Attempt.Wordless

theorem pure {value : α} {fits : α → Prop} (holds : fits value) :
    (Pure.pure value : Attempt σ ε α).Wordless fits := by
  intro reads
  apply Attempt.follows_pure
  refine ⟨rfl, ?_⟩
  rintro _ ⟨⟩
  exact holds

theorem bind {attempt : Attempt σ ε α} {next : α → Attempt σ ε β}
    {between : α → Prop} {fits : β → Prop} (first : attempt.Wordless between)
    (second : ∀ value, between value → (next value).Wordless fits) :
    (attempt >>= next).Wordless fits := by
  intro reads
  refine Attempt.follows_bind (first reads) ?_ ?_
  · rintro value _ ⟨rfl, holds⟩
    exact second value (holds value rfl) _
  · rintro cause _ ⟨same, _⟩
    exact ⟨same, nofun⟩

theorem ofScript {script : Script σ (Except ε α)}
    (wordless : ∀ reads, script.Follows Reads reads fun _ after => after
      = reads) : (Attempt.ofScript script).Wordless fun _ => True := by
  intro reads
  apply Attempt.follows_ofScript
  apply (wordless reads).weaken
  intro _ after same
  exact ⟨same, fun _ _ => trivial⟩

theorem lift {script : Script σ α}
    (wordless :
      ∀ reads, script.Follows Reads reads fun _ after => after = reads) :
    Attempt.Wordless (ExceptT.lift script : Attempt σ ε α) fun _ => True := by
  intro reads
  apply Attempt.follows_lift
  apply (wordless reads).weaken
  intro _ after same
  exact ⟨same, fun _ _ => trivial⟩

end Attempt.Wordless

end

namespace MethodTable

variable {σ : Type} (tag className : String) (parent : NamespaceId)

theorem resolve_wordless (target : Address) :
    (resolve tag target : Attempt σ HostError _).Wordless fun _ => True := by
  refine .bind (.lift fun _ => Script.follows_wordless (by rfl)) ?_
  rintro (_ | function) _
  · refine .bind (.lift fun _ => Script.follows_wordless (by rfl)) ?_
    intro symbol _
    refine .bind (.lift fun _ => Script.follows_emit (by rfl)) ?_
    intro _ _
    refine .bind (.ofScript fun _ => Script.follows_wordless (by rfl)) ?_
    intro created _
    exact .pure trivial
  · exact .pure trivial

theorem adopt_wordless (function : FunctionId) :
    (adopt tag className parent function : Attempt σ HostError _).Wordless
      fun found => ∃ target : DataType, found.2 = target.pointerTo := by
  refine .bind (.ofScript fun _ => Script.follows_wordless (by rfl)) ?_
  intro _ _
  refine .bind (.ofScript fun _ => Script.follows_wordless (by rfl)) ?_
  intro name _
  refine .bind (.lift fun _ => Script.follows_emit (by rfl)) ?_
  intro _ _
  refine .bind (.ofScript fun _ => Script.follows_wordless (by rfl)) ?_
  intro definition _
  refine .bind (.ofScript fun _ => Script.follows_wordless (by rfl)) ?_
  intro stored _
  exact .pure ⟨stored, rfl⟩

/-- What a slot comes to: it is listed only together with its field. -/
def SlotTaken (table : Structure) (index : Nat) (address : Address) :
    Except HostError SlotOutcome → Prop
  | .ok (.added slot longer) =>
      slot.index = index ∧ slot.address = address
        ∧ ∃ target : DataType,
          longer = table.withPointer target slot.fieldName ""
  | _ => True

theorem takeSlot_reads (table : Structure) (index : Nat) (address : Address)
    (reads : List Address) :
    (takeSlot tag className parent table index address :
      Attempt σ HostError _).Follows Reads reads
      fun outcome after => after = reads ++ [address]
        ∧ SlotTaken table index address outcome := by
  have readWord : (Attempt.mapError HostError.memory
      (Attempt.ofScript (Script.ask (.readWord address))) :
        Attempt σ HostError Int32).Follows Reads
        reads fun _ after => after = reads ++ [address] := by
    apply Attempt.follows_mapError
    apply Attempt.follows_ofScript
    exact Script.follows_ask fun response => ⟨_, rfl, rfl⟩
  refine Attempt.follows_bind readWord ?_ fun _ _ same => ⟨same, trivial⟩
  rintro word _ rfl
  refine Attempt.follows_bind (resolve_wordless tag (.ofWord word) _) ?_
    fun _ _ ends => ⟨ends.1, trivial⟩
  rintro (_ | ⟨function, created⟩) _ ⟨rfl, _⟩
  · exact Attempt.follows_pure ⟨rfl, trivial⟩
  · refine Attempt.follows_bind
      (adopt_wordless tag className parent function _) ?_
      fun _ _ ends => ⟨ends.1, trivial⟩
    rintro ⟨name, field⟩ _ ⟨rfl, holds⟩
    obtain ⟨target, isPointer⟩ := holds _ rfl
    have pointer : field = target.pointerTo := isPointer
    subst pointer
    simp only [Structure.add_pointerTo]
    exact Attempt.follows_pure ⟨rfl, rfl, rfl, target, rfl⟩

/-- A component that stands for a slot. -/
def IsField (component : Component) (slot : Slot) : Prop :=
  component.name = slot.fieldName ∧ component.comment = ""

/-- A walk over at most `remaining` slots from the slot `index` on, that began
with the fields in `table`. -/
structure InStepFrom (base : Address) (index remaining : Nat)
    (table : Structure) (walk : Walk) : Prop where
  name : walk.table.name = table.name
  fields : ∃ added, walk.table.components = table.components ++ added
    ∧ List.Forall₂ IsField added walk.slots
  places : ∀ position slot, walk.slots[position]? = some slot →
    slot.index = index + position
      ∧ slot.address = slotPlace base (index + position)
  length_le : walk.slots.length ≤ remaining
  limitReached_iff : walk.stop = .limitReached ↔ walk.slots.length = remaining
  noFunction : ∀ slot target, walk.stop = .noFunction slot target →
    slot = slotPlace base (index + walk.slots.length)
  failed : ∀ failure, walk.stop = .failed failure →
    failure.index = index + walk.slots.length
      ∧ failure.address = slotPlace base (index + walk.slots.length)

def slotWords (base : Address) (index count : Nat) : List Address :=
  (List.range' index count).map (slotPlace base)

variable {base : Address} {index remaining : Nat} {table : Structure}

theorem InStepFrom.limitReached :
    InStepFrom base index 0 table ⟨[], .limitReached, table⟩ where
  name := rfl
  fields := ⟨[], (List.append_nil _).symm, .nil⟩
  places := by simp
  length_le := Nat.le_refl 0
  limitReached_iff := by simp
  noFunction := by simp
  failed := by simp

theorem InStepFrom.noFunction_stop (target : Address) :
    InStepFrom base index (remaining + 1) table
      ⟨[], .noFunction (slotPlace base index) target, table⟩ where
  name := rfl
  fields := ⟨[], (List.append_nil _).symm, .nil⟩
  places := by simp
  length_le := Nat.zero_le _
  limitReached_iff := by simp
  noFunction := by
    rintro _ _ ⟨⟩
    rfl
  failed := by simp

theorem InStepFrom.failed_stop (cause : HostError) :
    InStepFrom base index (remaining + 1) table
      ⟨[], .failed ⟨index, slotPlace base index, cause⟩, table⟩ where
  name := rfl
  fields := ⟨[], (List.append_nil _).symm, .nil⟩
  places := by simp
  length_le := Nat.zero_le _
  limitReached_iff := by simp
  noFunction := by simp
  failed := by
    rintro _ ⟨⟩
    exact ⟨rfl, rfl⟩

theorem InStepFrom.cons {slot : Slot}
    {target : DataType} {rest : Walk} (indexed : slot.index = index)
    (placed : slot.address = slotPlace base index)
    (later : InStepFrom base (index + 1) remaining
      (table.withPointer target slot.fieldName "") rest) :
    InStepFrom base index (remaining + 1) table
      { rest with slots := slot :: rest.slots } where
  name := later.name
  fields := by
    obtain ⟨added, components, matched⟩ := later.fields
    refine ⟨table.nextComponent target.pointerTo slot.fieldName "" :: added, ?_,
      .cons ⟨rfl, rfl⟩ matched⟩
    rw [components, Structure.withPointer, List.append_assoc,
      List.singleton_append]
  places := by
    intro position other found
    cases position with
    | zero =>
        cases found
        exact ⟨indexed, placed⟩
    | succ position =>
        have there := later.places position other found
        simpa [Nat.add_assoc, Nat.add_comm 1] using there
  length_le := Nat.succ_le_succ later.length_le
  limitReached_iff := by
    rw [List.length_cons, Nat.add_right_cancel_iff]
    exact later.limitReached_iff
  noFunction := by
    intro place target stop
    have there := later.noFunction place target stop
    simpa [Nat.add_assoc, Nat.add_comm 1] using there
  failed := by
    intro failure stop
    have there := later.failed failure stop
    simpa [Nat.add_assoc, Nat.add_comm 1] using there

theorem slotWords_succ (base : Address) (index count : Nat) :
    slotWords base index (count + 1)
      = slotPlace base index :: slotWords base (index + 1) count :=
  rfl

/-- The invariant of the walk: the fields are in step with the slots, and the
words read are those of the listed slots and of the one that ended the walk. -/
theorem walkFrom_inStepFrom (base : Address) (remaining index : Nat)
    (table : Structure) (reads : List Address) :
    (walkFrom tag className parent base remaining index table :
      Script σ Walk).Follows Reads reads
      fun walk after => InStepFrom base index remaining table walk
        ∧ after = reads
          ++ slotWords base index (min remaining (walk.slots.length + 1)) := by
  induction remaining generalizing index table reads with
  | zero =>
      apply Script.follows_pure
      refine ⟨.limitReached, ?_⟩
      simp [slotWords]
  | succ remaining induction =>
      have place : slotAddress base index = slotPlace base index :=
        slotAddress_eq base index
      rw [walkFrom, place]
      refine Script.follows_bind
        (takeSlot_reads tag className parent table index _ reads) ?_
      rintro (cause | ⟨slot, longer⟩ | target) _ ⟨rfl, taken⟩
      · refine Script.follows_bind (Script.follows_emit rfl) ?_
        rintro _ _ rfl
        apply Script.follows_pure
        refine ⟨.failed_stop cause, ?_⟩
        simp [slotWords]
      · obtain ⟨indexed, placed, target, rfl⟩ := taken
        refine Script.follows_bind (induction (index + 1) _ _) ?_
        rintro rest _ ⟨later, rfl⟩
        apply Script.follows_pure
        refine ⟨.cons indexed placed later, ?_⟩
        rw [List.length_cons, Nat.add_min_add_right, slotWords_succ,
          List.append_assoc, List.singleton_append]
      · refine Script.follows_bind Script.follows_log ?_
        rintro _ _ rfl
        apply Script.follows_pure
        refine ⟨.noFunction_stop target, ?_⟩
        simp [slotWords]

/-- The fields of a table and the listed slots keep in step, up to a limit. -/
structure InStep (base : Address) (limit : Nat) (walk : Walk) : Prop where
  sameLength : walk.table.components.length = walk.slots.length
  length_le : walk.slots.length ≤ limit
  field : ∀ (position : Nat) (component : Component) (slot : Slot),
    walk.table.components[position]? = some component →
      walk.slots[position]? = some slot →
      component.name = slot.fieldName ∧ component.comment = ""
  place : ∀ (position : Nat) (slot : Slot), walk.slots[position]? = some slot →
    slot.index = position ∧ slot.address = slotPlace base position
  limitReached_iff : walk.stop = .limitReached ↔ walk.slots.length = limit
  noFunction : ∀ slot target, walk.stop = .noFunction slot target →
    slot = slotPlace base walk.slots.length
  failed : ∀ failure, walk.stop = .failed failure →
    failure.index = walk.slots.length
      ∧ failure.address = slotPlace base walk.slots.length

theorem InStepFrom.inStep {limit : Nat} {name : String}
    {walk : Walk} (keeps : InStepFrom base 0 limit (.named name) walk) :
    InStep base limit walk := by
  obtain ⟨added, components, matched⟩ := keeps.fields
  have all : walk.table.components = added := components
  subst all
  constructor
  · exact matched.length_eq
  · exact keeps.length_le
  · intro position component slot found there
    obtain ⟨inside, rfl⟩ := List.getElem?_eq_some_iff.1 found
    obtain ⟨insideToo, rfl⟩ := List.getElem?_eq_some_iff.1 there
    exact matched.get inside insideToo
  · intro position slot there
    simpa using keeps.places position slot there
  · exact keeps.limitReached_iff
  · intro slot target stop
    simpa using keeps.noFunction slot target stop
  · intro failure stop
    simpa using keeps.failed failure stop

/-- For every host, the structure that a walk collects has one field for each
slot that it lists, and the words that it reads are those of the listed slots
and, unless the limit was reached, of one more. -/
theorem walk_inStep (host : Host σ) (state : σ) (base : Address)
    (maxSlots : UInt32) :
    InStep base maxSlots.toNat
      (walk tag className parent base maxSlots host state).value
      ∧ (walk tag className parent base maxSlots host state).value.table.name
        = className ++ "VT"
      ∧ (walk tag className parent base maxSlots host state).events.wordsRead
        = (List.range (min maxSlots.toNat
            ((walk tag className parent base maxSlots host
              state).value.slots.length + 1))).map
          (slotPlace base) := by
  have follows : (walk tag className parent base maxSlots :
      Script σ Walk).Follows Reads [] _ :=
    walkFrom_inStepFrom tag className parent base maxSlots.toNat 0
      (.named (className ++ "VT")) []
  obtain ⟨keeps, words⟩ := follows.wordsRead host state
  refine ⟨keeps.inStep, keeps.name, ?_⟩
  rw [words, List.nil_append, slotWords, List.range_eq_range']

end MethodTable

end DelphiRtti
