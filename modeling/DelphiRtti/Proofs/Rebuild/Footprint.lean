import DelphiRtti.Proofs.MethodTable.Fields
import DelphiRtti.Proofs.Rebuild.Success

/-!
# What a rebuild leaves in a project

A rebuild that gives a class makes that class, files the functions of its
slots under it, defines those that were not there, and places the name.
Only the stored types change besides, and the slot at which the walk
stopped leaves no trace at all.
-/

namespace DelphiRtti

open Text

/-- How a project differs after a rebuild that gave a class, but for the stored
types.  The class is the only namespace that differs, as long as every namespace
has a number of its own.  Functions keep their places, and new ones come after
them in the order of their slots. -/
structure RebuiltClass.Footprint (rebuilt : RebuiltClass)
    (before after : Project) : Prop where
  image : after.image = before.image
  labels : after.labels = before.labels
  listing : after.listing
    = (before.afterName rebuilt.record.nameAddress).listing
  namespaces : after.namespaces.length ≤ wordBound →
    Project.ClassMade rebuilt.name.text rebuilt.parent before.namespaces
      after.namespaces
  functions : after.functions
    = before.functions.map
        (FunctionRecord.filedUnder rebuilt.parent
          (rebuilt.slots.map Slot.target))
      ++ (rebuilt.slots.filter Slot.created).map
        (Slot.newFunction rebuilt.parent)

/-- The same dialect with tables of at most this many slots. -/
def Dialect.limitedTo (dialect : Dialect) (count : Nat) : Dialect :=
  { dialect with maxSlots := UInt32.ofNat count }

namespace Rebuild

variable {project classed filled last : Project} {address : Address}
  {dialect : Dialect} {rebuilt : RebuiltClass} {table : Structure}

namespace Completes

theorem footprint (indexed : project.Indexed)
    (completes :
      Completes project address dialect rebuilt table classed filled last) :
    rebuilt.Footprint project last := by
  have lists := completes.listsSlots indexed
  have gains := completes.gainsClass
  have placed := project.afterName_frame rebuilt.record.nameAddress
  constructor
  · rw [lists.image, gains.frame, placed]
  · rw [lists.labels, gains.frame, placed]
  · rw [lists.listing, gains.frame]
  · intro numbered
    rw [lists.namespaces] at numbered ⊢
    have made := gains.made numbered
    rw [placed] at made
    exact made
  · have functions := lists.functions
    rw [gains.frame, placed] at functions
    exact functions

theorem inStepFrom
    (completes :
      Completes project address dialect rebuilt table classed filled last) :
    MethodTable.InStepFrom rebuilt.record.tableBase 0 dialect.maxSlots.toNat
      (.named (rebuilt.name.text ++ "VT"))
        ⟨rebuilt.slots, rebuilt.stop, table⟩ := by
  have inStep := ((MethodTable.walkFrom_inStepFrom dialect.tag rebuilt.name.text
    rebuilt.parent rebuilt.record.tableBase dialect.maxSlots.toNat 0
    (.named (rebuilt.name.text ++ "VT")) []).wordsRead Project.host classed).1
  have walk : (MethodTable.walk dialect.tag rebuilt.name.text rebuilt.parent
      rebuilt.record.tableBase dialect.maxSlots Project.host classed).value
        = ⟨rebuilt.slots, rebuilt.stop, table⟩ :=
    congrArg Prod.fst completes.walked
  rw [← walk]
  exact inStep

theorem length_slots_le
    (completes :
      Completes project address dialect rebuilt table classed filled last) :
    rebuilt.slots.length ≤ dialect.maxSlots.toNat :=
  completes.inStepFrom.length_le

theorem limited (indexed : project.Indexed)
    (completes :
      Completes project address dialect rebuilt table classed filled last) :
    Completes project address (dialect.limitedTo rebuilt.slots.length)
      { rebuilt with stop := .limitReached } table classed filled last where
  record := completes.record
  name := completes.name
  accepted := completes.accepted
  created := completes.created
  walked := by
    have fits : rebuilt.slots.length < wordBound :=
      Nat.lt_of_le_of_lt completes.length_slots_le dialect.maxSlots.toNat_lt
    have count : (dialect.limitedTo rebuilt.slots.length).maxSlots.toNat
        = rebuilt.slots.length :=
      UInt32.toNat_ofNat_of_lt' fits
    have limited := MethodTable.walkFrom_limited dialect.tag rebuilt.name.text
      rebuilt.record.tableBase
        (completes.classed_indexed indexed) completes.parent_known
      dialect.maxSlots.toNat 0
        (.named (rebuilt.name.text ++ "VT")) completes.walked
    rw [MethodTable.walk, count]
    exact limited
  stored := completes.stored

end Completes

end Rebuild

variable {project : Project} {address : Address} {dialect : Dialect}
  {rebuilt : RebuiltClass}

/-- What a rebuild that gives a class leaves in a project is its footprint.  The
slot at which the walk stopped is not part of it: a rebuild that is limited to
the listed slots gives the same class and leaves the same project. -/
theorem rebuild_footprint (reachable : project.Reachable)
    (built :
      (rebuild address dialect Project.host project).value = .ok rebuilt) :
    rebuilt.Footprint project
      (rebuild address dialect Project.host project).state
      ∧ (rebuild address
        (dialect.limitedTo rebuilt.slots.length) Project.host project).value
        = .ok { rebuilt with stop := .limitReached }
      ∧ (rebuild address
        (dialect.limitedTo rebuilt.slots.length) Project.host project).state
        = (rebuild address dialect Project.host project).state := by
  obtain ⟨table, classed, filled, completes⟩ := Rebuild.value_eq_ok_iff.1 built
  have limited := completes.limited reachable.indexed
  have ran := Rebuild.stages_eq_ok_iff.2 ⟨table, classed, filled, limited⟩
  refine ⟨completes.footprint reachable.indexed, ?_, ?_⟩
  · rw [rebuild_value, ran]
  · rw [rebuild_state, ran]

theorem rebuild_footprint_tabled :
    (rebuild (.ofNat 4096) .compact Project.host .tabled).state.functions
        = [⟨.ofNat 4100, "Known", .ofPosition 1, .undefined, .imported⟩,
          ⟨.ofNat 4096, "FUN_00001000", .ofPosition 1, .undefined,
            .userDefined⟩]
      ∧ ∃ rebuilt, (rebuild (.ofNat 4096) .compact Project.host .tabled).value
        = .ok rebuilt
        ∧ rebuilt.Footprint .tabled
          (rebuild (.ofNat 4096) .compact Project.host .tabled).state
        ∧ (rebuild (.ofNat 4096)
          (Dialect.compact.limitedTo 3) Project.host .tabled).state
          = (rebuild (.ofNat 4096) .compact Project.host .tabled).state := by
  constructor
  · decide +kernel
  · obtain ⟨rebuilt, built, _, _, slots⟩ := rebuild_tabled
    have count : rebuilt.slots.length = 3 := by
      rw [← List.length_map, slots]
      rfl
    obtain ⟨footprint, _, sameState⟩ :=
      rebuild_footprint Project.tabled_reachable built
    rw [count] at sameState
    exact ⟨rebuilt, built, footprint, sameState⟩

end DelphiRtti
