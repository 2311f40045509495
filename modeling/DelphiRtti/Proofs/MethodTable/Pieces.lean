import DelphiRtti.Proofs.MethodTable.Fields
import DelphiRtti.Proofs.MethodTable.Reference
import DelphiRtti.Proofs.MethodTable.Slots

/-!
# Walks in two pieces

A slot is taken in the same way wherever it stands in its table: only its index
and the offset of its field depend on the slots before it.  So a walk can be
interrupted at a limit and go on with a fresh structure behind the last slot.
This holds for every host, since both walks make the same requests.
-/

namespace DelphiRtti

open Text

/-- A component as many bytes further on. -/
def Component.movedBy (bytes : UInt32) (component : Component) : Component :=
  { component with offset := bytes + component.offset }

def Structure.followedBy (earlier later : Structure) : Structure :=
  ⟨earlier.name, earlier.components
    ++ later.components.map (Component.movedBy earlier.length)⟩

def Slot.movedBy (count : Nat) (slot : Slot) : Slot :=
  { slot with index := count + slot.index }

def WalkEnd.movedBy (count : Nat) : WalkEnd → WalkEnd
  | .limitReached => .limitReached
  | .noFunction slot target => .noFunction slot target
  | .failed failure => .failed { failure with index := count + failure.index }

/-- A walk that began with `count` slots and the components of
`earlier` before its own. -/
def Walk.movedBehind (earlier : Structure) (count : Nat) (walk : Walk) : Walk :=
  ⟨walk.slots.map (Slot.movedBy count), walk.stop.movedBy count,
    earlier.followedBy walk.table⟩

/-- Two walks as one, of which the first went on for `count` slots: the
slots of the second are counted on from there, and its fields lie
behind those of the first. -/
def Walk.followedBy (earlier : Walk) (count : UInt32)
    (later : Walk) : Walk where
  slots := earlier.slots ++ later.slots.map (Slot.movedBy count.toNat)
  stop := later.stop.movedBy count.toNat
  table :=
    ⟨earlier.table.name, earlier.table.components
      ++ later.table.components.map
        (Component.movedBy (count * MethodTable.slotSize))⟩

def MethodTable.SlotOutcome.movedBehind (earlier : Structure) (count : Nat) :
    MethodTable.SlotOutcome → MethodTable.SlotOutcome
  | .added slot table => .added (slot.movedBy count) (earlier.followedBy table)
  | .noFunction target => .noFunction target

namespace Structure

variable (earlier later : Structure)

theorem followedBy_named (name : String) :
    earlier.followedBy (.named name) = earlier := by
  obtain ⟨earlierName, components⟩ := earlier
  exact congrArg (Structure.mk earlierName) (List.append_nil components)

theorem length_followedBy :
    (earlier.followedBy later).length = earlier.length + later.length := by
  have moved (bytes : UInt32) (components : List Component) :
      Component.totalLength (components.map (Component.movedBy bytes))
        = Component.totalLength components := by
    induction components with
    | nil => rfl
    | cons component rest induction =>
        obtain ⟨offset, dataType, name, comment⟩ := component
        rw [List.map_cons, Component.movedBy, Component.totalLength,
          Component.totalLength, induction]
  obtain ⟨earlierName, earlierComponents⟩ := earlier
  obtain ⟨laterName, laterComponents⟩ := later
  rw [followedBy, length, Component.totalLength_append, moved, length, length]

theorem followedBy_withPointer (target : DataType) (name comment : String) :
    (earlier.followedBy later).withPointer target name comment
      = earlier.followedBy (later.withPointer target name comment) := by
  rw [withPointer, nextComponent, length_followedBy, withPointer, followedBy,
    followedBy, List.map_append, List.append_assoc]
  rfl

end Structure

namespace MethodTable

variable {σ : Type} (tag className : String) (parent : NamespaceId)
  (host : Host σ) (state : σ)

theorem slotAddress_slotAddress (base : Address) (count index : Nat) :
    slotAddress (slotAddress base count) index
      = slotAddress base (count + index) := by
  simp only [slotAddress_eq]
  apply Address.toNat_injective
  simp only [Address.ofNat, Address.toNat, UInt32.toNat_ofNat']
  omega

theorem adopt_pointer {function : FunctionId}
    {name : String} {field : DataType} {left : σ}
    (adopted : (adopt tag className parent function).result host state
      = (.ok (name, field), left)) :
    ∃ target : DataType, field = target.pointerTo := by
  obtain ⟨exchanges, last, _, _, _, fits⟩ :=
    adopt_wordless tag className parent function [] host state
  exact fits _ (Prod.mk.inj adopted).1

theorem takeSlot_result_followedBy (earlier table : Structure)
    (count index : Nat) (address : Address) :
    (takeSlot tag className parent (earlier.followedBy table)
      (count + index) address).result host state
      = let alone :=
          (takeSlot tag className parent table index address).result host state
        (alone.1.map (SlotOutcome.movedBehind earlier count), alone.2) := by
  simp only [takeSlot, Attempt.result_bind]
  rcases (Attempt.mapError HostError.memory
    (Attempt.ofScript (Script.ask (.readWord address)))).result host state
      with ⟨cause | word, read⟩
  · rfl
  simp only
  rcases (resolve tag (.ofWord word)).result host read
    with ⟨cause | none | ⟨function, created⟩, resolved⟩
  · rfl
  · rfl
  simp only [Attempt.result_bind]
  rcases adopted : (adopt tag className parent function).result host resolved
    with ⟨cause | ⟨name, field⟩, left⟩
  · rfl
  obtain ⟨target, rfl⟩ :=
    adopt_pointer tag className parent host resolved adopted
  simp only [Structure.add_pointerTo, Structure.followedBy_withPointer]
  rfl

/-- A walk that begins behind other slots finds what a walk from that
place finds by itself. -/
theorem walkFrom_result_followedBy (earlier table : Structure) (base : Address)
    (count remaining index : Nat) :
    (walkFrom tag className parent base remaining (count + index)
      (earlier.followedBy table)).result host state
      = let alone := (walkFrom tag className parent (slotAddress base count)
          remaining index table).result host state
        (alone.1.movedBehind earlier count, alone.2) := by
  induction remaining generalizing index table state with
  | zero => rfl
  | succ remaining induction =>
      rw [walkFrom_succ_result, walkFrom_succ_result, slotAddress_slotAddress,
        takeSlot_result_followedBy]
      rcases (takeSlot tag className parent table index
        (slotAddress base (count + index))).result host state
          with ⟨cause | ⟨slot, longer⟩ | target, left⟩
      · rfl
      · have later := induction left longer (index + 1)
        rw [← Nat.add_assoc] at later
        simp only [Except.map, SlotOutcome.movedBehind, later]
        rfl
      · rfl

/-- A walk goes on after a limit with the slots and the table that it
has by then. -/
theorem walkFrom_add_result (base : Address) (first second index : Nat)
    (table : Structure) :
    (walkFrom tag className parent base (first + second) index table).result
        host state
      = let earlier := (walkFrom tag className parent base first index
          table).result host state
        if earlier.1.stop = .limitReached then
          let later := (walkFrom tag className parent base second
            (index + first) earlier.1.table).result host earlier.2
          ({ later.1 with slots := earlier.1.slots ++ later.1.slots }, later.2)
        else earlier := by
  induction first generalizing index table state with
  | zero =>
      rw [walkFrom_zero_result, if_pos rfl, Nat.zero_add]
      rfl
  | succ first induction =>
      have total : first + 1 + second = first + second + 1 := by omega
      rw [total, walkFrom_succ_result, walkFrom_succ_result]
      rcases (takeSlot tag className parent table index
        (slotAddress base index)).result host state
        with ⟨cause | ⟨slot, longer⟩ | target, left⟩
      · rfl
      · have place : index + 1 + first = index + (first + 1) := by omega
        have later := induction left (index + 1) longer
        simp only [later, place]
        split
        · rfl
        · rfl
      · rfl

/-- Whether the components of a structure lie four bytes apart, and its end four
bytes after the last. -/
structure IsTable (table : Structure) : Prop where
  length : table.length = UInt32.ofNat (4 * table.components.length)
  offset : ∀ position component, table.components[position]? = some component →
    component.offset = UInt32.ofNat (4 * position)

theorem IsTable.named (name : String) : IsTable (.named name) where
  length := rfl
  offset := by
    intro position component found
    cases found

theorem IsTable.withPointer {table : Structure}
    (isTable : IsTable table) (target : DataType) (name comment : String) :
    IsTable (table.withPointer target name comment) where
  length := by
    rw [Structure.length_withPointer, isTable.length, Structure.withPointer,
      List.length_append, List.length_singleton, Nat.mul_add, UInt32.ofNat_add]
    rfl
  offset := by
    intro position component found
    rw [Structure.withPointer, List.getElem?_append] at found
    split at found
    case isTrue => exact isTable.offset position component found
    case isFalse behind =>
        obtain ⟨inside, rfl⟩ := List.getElem?_eq_some_iff.1 found
        have last : position = table.components.length := by
          rw [List.length_singleton] at inside
          omega
        rw [List.getElem_singleton, last]
        exact isTable.length

theorem takeSlot_longer {table longer : Structure} {index : Nat}
    {address : Address} {slot : Slot} {left : σ}
    (took : (takeSlot tag className parent table index address).result
      host state = (.ok (.added slot longer), left)) :
    ∃ target : DataType, longer
      = table.withPointer target slot.fieldName "" := by
  obtain ⟨exchanges, last, _, _, _, taken⟩ :=
    takeSlot_reads tag className parent table index address [] host state
  have outcome := (Prod.mk.inj took).1
  rw [Attempt.outcome] at outcome
  rw [Attempt.outcome, outcome] at taken
  exact taken.2.2

theorem walkFrom_isTable (base : Address) (remaining index : Nat)
    {table : Structure} (isTable : IsTable table) :
    IsTable ((walkFrom tag className parent base remaining index table).result
      host state).1.table := by
  induction remaining generalizing index table state with
  | zero => exact isTable
  | succ remaining induction =>
      rw [walkFrom_succ_result]
      rcases took : (takeSlot tag className parent table index
        (slotAddress base index)).result host state
          with ⟨cause | ⟨slot, longer⟩ | target, left⟩
      · exact isTable
      · obtain ⟨target, rfl⟩ :=
          takeSlot_longer tag className parent host state took
        exact induction left (index + 1)
          (isTable.withPointer target slot.fieldName "")
      · exact isTable

/-- A walk over at most `first` slots and, only if it reached that
limit, another one over at most `second` slots behind them, with a
structure of its own. -/
def walkInPieces (base : Address) (first second : UInt32) : Script σ Walk := do
  let earlier ← walk tag className parent base first
  if earlier.stop = .limitReached then
    let later ← walk tag className parent (base + first * slotSize) second
    return earlier.followedBy first later
  else return earlier

variable (base : Address) {first second : UInt32}

theorem walkInPieces_result_of_limitReached
    (reached : ((walk tag className parent base first).result host state).1.stop
      = .limitReached) :
    (walkInPieces tag className parent base first second).result host state
      = let earlier := (walk tag className parent base first).result host state
        let later :=
          (walk tag className parent (base + first * slotSize) second).result
            host earlier.2
        (earlier.1.followedBy first later.1, later.2) := by
  have holds : (walk tag className parent base first host state).value.stop
      = .limitReached := reached
  simp only [Script.result, walkInPieces, Script.bind_value, Script.bind_state,
    if_pos holds]
  rfl

theorem walkInPieces_result_of_ended
    (ended : ((walk tag className parent base first).result host state).1.stop
      ≠ .limitReached) :
    (walkInPieces tag className parent base first second).result host state
      = (walk tag className parent base first).result host state := by
  have fails : (walk tag className parent base first host state).value.stop
      ≠ .limitReached := ended
  simp only [Script.result, walkInPieces, Script.bind_value, Script.bind_state,
    if_neg fails]
  rfl

theorem slotAddress_toNat (base : Address) (count : UInt32) :
    slotAddress base count.toNat = base + count * slotSize := by
  rw [slotAddress, UInt32.ofNat_toNat]

/-- Where the limit is reached, every slot up to it has its field. -/
theorem walk_length_of_limitReached
    (reached : ((walk tag className parent base first).result host state).1.stop
      = .limitReached) :
    ((walk tag className parent base first).result host state).1.table.length
    = first * slotSize := by
  obtain ⟨inStep, _, _⟩ :=
    walk_inStep tag className parent host state base first
  have isTable :=
    walkFrom_isTable tag className parent host state base first.toNat 0
    (IsTable.named (className ++ "VT"))
  have fields :
      ((walk tag className parent base first).result host
        state).1.table.components.length = first.toNat :=
        inStep.sameLength.trans (inStep.limitReached_iff.1 reached)
  have length := isTable.length
  rw [walk] at fields ⊢
  rw [length, fields, UInt32.ofNat_mul, UInt32.ofNat_toNat, UInt32.mul_comm]
  rfl

theorem walk_eq_walkInPieces
    (bounded : first.toNat + second.toNat < wordBound) :
    (walk tag className parent base (first + second)).result host state
      = (walkInPieces tag className parent base first second).result
        host state := by
  have total : (first + second).toNat = first.toNat + second.toNat := by
    rw [UInt32.toNat_add]
    exact Nat.mod_eq_of_lt bounded
  rw [walk, total, walkFrom_add_result]
  dsimp only
  split
  case isTrue reached =>
      rw [walkInPieces_result_of_limitReached tag className parent host state
        base reached]
      have length :=
        walk_length_of_limitReached tag className parent host state base reached
      have later := walkFrom_result_followedBy tag className parent host
        ((walk tag className parent base first).result host state).2
        ((walk tag className parent base first).result host state).1.table
        (.named (className ++ "VT")) base first.toNat second.toNat 0
      rw [Structure.followedBy_named, slotAddress_toNat, Nat.add_comm] at later
      simp only [walk] at later length ⊢
      simp only [later, Walk.movedBehind, Walk.followedBy,
        Structure.followedBy, length]
  case isFalse ended =>
      rw [walkInPieces_result_of_ended tag className parent host
        state base ended]
      rfl

/-- Moving the fields of a second piece does not take their offsets
past 2^32. -/
theorem toNat_offset_movedBy
    (bounded : first.toNat + second.toNat ≤ 2 ^ 30) {component : Component}
    (listed : component ∈ ((walk tag className parent base second).result
      host state).1.table.components) :
    (component.movedBy (first * slotSize)).offset.toNat
    = 4 * first.toNat + component.offset.toNat := by
  obtain ⟨inStep, _, _⟩ :=
    walk_inStep tag className parent host state base second
  obtain ⟨position, found⟩ := List.getElem?_of_mem listed
  have isTable :=
    walkFrom_isTable tag className parent host state base second.toNat 0
    (IsTable.named (className ++ "VT"))
  have offset : component.offset = UInt32.ofNat (4 * position) :=
    isTable.offset position component found
  have below : position < second.toNat := by
    have inside := (List.getElem?_eq_some_iff.1 found).1
    exact Nat.lt_of_lt_of_le inside (inStep.sameLength ▸ inStep.length_le)
  have step : slotSize.toNat = 4 := rfl
  rw [Component.movedBy, offset, UInt32.toNat_add, UInt32.toNat_mul,
    UInt32.toNat_ofNat', step]
  omega

theorem walkInPieces_prefix :
    let earlier := (walk tag className parent base first).result host state
    let pieces :=
      (walkInPieces tag className parent base first second).result host state
    earlier.1.slots <+: pieces.1.slots
      ∧ earlier.1.table.components <+: pieces.1.table.components := by
  dsimp only
  by_cases reached : ((walk tag className parent base first).result host
    state).1.stop = .limitReached
  · rw [walkInPieces_result_of_limitReached tag className parent host state
      base reached]
    exact ⟨List.prefix_append _ _, List.prefix_append _ _⟩
  · rw [walkInPieces_result_of_ended tag className parent host state
      base reached]
    exact ⟨List.prefix_refl _, List.prefix_refl _⟩

/-- For every host, and so for every project, a walk over at most `first +
second` slots comes to the same state, slots, fields and end as a walk over at
most `first` slots that is followed, only if it reached its limit, by a walk
over at most `second` slots behind them.  The fields of the second piece are
moved by exactly four bytes for each slot of the first.  So a higher limit
changes no slot and no field that is found under a lower one. -/
theorem walk_in_pieces (bounded : first.toNat + second.toNat ≤ 2 ^ 30) :
    (walk tag className parent base (first + second)).result host state
        = (walkInPieces tag className parent base first second).result
          host state
      ∧ (∀ middle, ∀ component ∈ ((walk tag className parent
        (base + first * slotSize) second).result
          host middle).1.table.components,
        (component.movedBy (first * slotSize)).offset.toNat
          = 4 * first.toNat + component.offset.toNat)
      ∧ ((walk tag className parent base first).result host state).1.slots
        <+: ((walk tag className parent base (first + second)).result host
          state).1.slots
      ∧ ((walk tag className parent base first).result host
        state).1.table.components
        <+: ((walk tag className parent base (first + second)).result host
          state).1.table.components := by
  have small : first.toNat + second.toNat < wordBound :=
    Nat.lt_of_le_of_lt bounded (by decide)
  have whole := walk_eq_walkInPieces tag className parent host state base small
  refine ⟨whole, ?_, ?_⟩
  · intro middle component listed
    exact toNat_offset_movedBy tag className parent host middle _ bounded listed
  · rw [whole]
    exact walkInPieces_prefix tag className parent host state base

theorem walk_in_pieces_smallTable :
    let project := Project.perform (.map smallTable) .empty
    let whole :=
      (walk "" "T" .global smallTable.base (1 + 5)).result Project.host project
    let first :=
      (walk "" "T" .global smallTable.base 1).result Project.host project
    let second := (walk "" "T" .global
      (smallTable.base + 1 * slotSize) 5).result Project.host first.2
    (1 : UInt32).toNat + (5 : UInt32).toNat ≤ 2 ^ 30
      ∧ whole = (first.1.followedBy 1 second.1, second.2)
      ∧ whole.1.slots.map (·.index) = [0, 1]
      ∧ second.1.slots.map (·.index) = [0]
      ∧ whole.1.table.components.map (·.offset) = [0, 4]
      ∧ second.1.table.components.map (·.offset) = [0]
      ∧ whole.1.stop = .noFunction (.ofNat 4104) (.ofNat 0) := by
  have bounded : (1 : UInt32).toNat + (5 : UInt32).toNat ≤ 2 ^ 30 := by decide
  have reached : ((walk "" "T" .global smallTable.base 1).result Project.host
      (.perform (.map smallTable) .empty)).1.stop = .limitReached := by
        decide +kernel
  have pieces := (walk_in_pieces "" "T" .global Project.host
    (.perform (.map smallTable) .empty)
    smallTable.base bounded).1
  rw [walkInPieces_result_of_limitReached _ _ _ _ _ _ reached] at pieces
  refine ⟨bounded, pieces, ?_, ?_, ?_, ?_, ?_⟩
  all_goals decide +kernel

end MethodTable

end DelphiRtti
