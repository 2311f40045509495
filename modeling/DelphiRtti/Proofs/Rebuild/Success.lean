import DelphiRtti.Proofs.MethodTable.Footprint
import DelphiRtti.Proofs.Project.Classes
import DelphiRtti.Proofs.Rebuild.Outcome

/-!
# Rebuilds that succeed

A rebuild succeeds exactly if each of its stages does, each on the project
that the one before it left.  What a successful rebuild does to a project is
read off stage by stage.
-/

namespace DelphiRtti

open Text

variable {project classed : Project}

namespace ClassNamespace

theorem create_eq_ok {name : ClassName} {parent : NamespaceId}
    (created :
      (create name).result Project.host project = (.ok parent, classed)) :
    ∃ middle record,
      project.findOrCreateNamespace .global name.text .userDefined
        = .ok (parent, middle)
        ∧ middle.namespace? parent = some record ∧ record.kind = .plain
        ∧ classed = middle.asClass parent record := by
  rw [create_result_eq] at created
  split at created
  case h_1 => cases created
  case h_2 id middle found =>
      split at created
      case h_1 => cases created
      case h_2 => cases created
      case h_3 other last converted =>
          cases created
          obtain ⟨record, known, plain, rfl, rfl⟩ :=
            Project.convertToClass_eq_ok converted
          exact ⟨middle, record, found, known, plain, rfl⟩

theorem create_of_hasClass {name : ClassName} {id : NamespaceId}
    {record : NamespaceRecord} (root : (project.namespace? .global).isSome)
    (has : project.HasClass name.text id record) :
    (create name).result Project.host project
      = (.error (.alreadyDefined name.text), project) := by
  obtain ⟨global, rootKnown⟩ := Option.isSome_iff_exists.1 root
  have found : project.findOrCreateNamespace .global name.text .userDefined
      = .ok (id, project) := by
    simp only [Project.findOrCreateNamespace, rootKnown, has.found]
  rw [create_result_eq, found]
  simp only [Project.convertToClass, has.known, has.isClass, failure]

end ClassNamespace

/-- What a successful class stage leaves: a class that is found by its name, and
everything else as it was. -/
structure Project.GainsClass (before : Project) (name : String)
    (id : NamespaceId) (after : Project) : Prop where
  frame : after = { before with namespaces := after.namespaces }
  root : (after.namespace? .global).isSome
  hasClass : ∃ record, after.HasClass name id record
  made : after.namespaces.length ≤ wordBound →
    ClassMade name id before.namespaces after.namespaces
  /-- No class that was there before has this name or this number. -/
  fresh : ∀ {other otherId record}, before.HasClass other otherId record →
    other ≠ name ∧ otherId ≠ id

theorem ClassNamespace.create_gainsClass
    {name : ClassName} {parent : NamespaceId}
    (created :
      (create name).result Project.host project = (.ok parent, classed)) :
    project.GainsClass name.text parent classed := by
  obtain ⟨middle, record, found, known, plain, rfl⟩ := create_eq_ok created
  have root := (Project.findOrCreateNamespace_eq_ok found).1
  have change := Project.findOrCreateNamespace_change found
  constructor
  · rw [Project.asClass, Project.findOrCreateNamespace_frame found]
  · apply Project.namespace?_isSome_of_length_le root
    rw [Project.length_asClass]
    rcases change with same | change
    · rw [same]
    · exact change.length_le
  · have foundAfter := Project.findNamespace?_of_findOrCreateNamespace found
    exact ⟨_, Project.hasClass_asClass foundAfter known⟩
  · intro numbered
    rw [Project.length_asClass] at numbered
    exact Project.classMade_asClass found known plain numbered
  · intro other otherId otherRecord has
    constructor
    · rintro rfl
      rw [create_of_hasClass root has] at created
      cases created
    · -- The namespace that becomes the class was a plain one, so its number is
      -- not that of a class.
      rintro rfl
      have stays : middle.HasClass other otherId otherRecord :=
        Project.keeps_of_change Project.HasClass.change has change
      cases known.symm.trans stays.known
      cases plain.symm.trans stays.isClass

namespace Rebuild

/-- Whether a rebuild goes through all its stages: first to a project with the
class, then to one whose table was walked, and then to the last one. -/
structure Completes (project : Project) (address : Address)
    (dialect : Dialect) (rebuilt : RebuiltClass) (table : Structure)
    (classed filled last : Project) : Prop where
  record : project.image.recordAt address dialect = .ok rebuilt.record
  name : project.nameAt rebuilt.record.nameAddress = .ok rebuilt.name
  accepted : rebuilt.name.Accepted dialect
  created : (ClassNamespace.create rebuilt.name).result Project.host
      (project.afterName rebuilt.record.nameAddress)
    = (.ok rebuilt.parent, classed)
  walked : (MethodTable.walk dialect.tag rebuilt.name.text rebuilt.parent
    rebuilt.record.tableBase
      dialect.maxSlots).result Project.host classed
    = (⟨rebuilt.slots, rebuilt.stop, table⟩, filled)
  stored :
    (MethodTable.storeTypes rebuilt.name.text table).result Project.host filled
    = (.ok (rebuilt.tableType, rebuilt.instanceType), last)

variable {address : Address} {dialect : Dialect} {rebuilt : RebuiltClass}
  {last : Project} {record : ClassRecord} {name : ClassName}

theorem read_result_of_ok
    (readable : project.image.recordAt address dialect = .ok record) :
    (Attempt.mapError RebuildError.metadataUnreadable
      (ClassRecord.read address dialect)).result
        Project.host project
      = (.ok record, project) := by
  rw [Attempt.result_mapError_eq_ok_iff, ClassRecord.read_result, readable]

theorem name_result_of_ok
    (named : project.nameAt record.nameAddress = .ok name) :
    (ClassName.read record.nameAddress).result Project.host project
      = (.ok name, project.afterName record.nameAddress) := by
  rw [ClassName.read_result, named]

theorem checked_result_of_accepted
    (accepted : name.Accepted dialect) (project : Project) :
    (stages.liftExcept (name.check dialect)).result Project.host project
      = (.ok (), project) := by
  rw [checked_result, if_pos accepted]

theorem stages_eq_ok_iff :
    (stages address dialect).result Project.host project = (.ok rebuilt, last)
      ↔ ∃ table classed filled, Completes project address dialect rebuilt table
        classed filled last := by
  constructor
  · intro ran
    rw [stages, Attempt.result_bind_eq_ok_iff] at ran
    obtain ⟨record, _, read, ran⟩ := ran
    rw [Attempt.result_mapError_eq_ok_iff, ClassRecord.read_result] at read
    obtain ⟨readable, rfl⟩ := Prod.mk.inj read
    rw [Attempt.result_bind_eq_ok_iff] at ran
    obtain ⟨name, _, named, ran⟩ := ran
    rw [ClassName.read_result] at named
    obtain ⟨decoded, rfl⟩ := Prod.mk.inj named
    rw [Attempt.result_bind_eq_ok_iff] at ran
    obtain ⟨_, _, checked, ran⟩ := ran
    rw [checked_result] at checked
    obtain ⟨passed, rfl⟩ := Prod.mk.inj checked
    have accepted : name.Accepted dialect := by
      by_contra refused
      rw [if_neg refused] at passed
      cases passed
    rw [Attempt.result_bind_eq_ok_iff] at ran
    obtain ⟨_, _, told, ran⟩ := ran
    obtain ⟨_, rfl⟩ := Prod.mk.inj told
    rw [Attempt.result_bind_eq_ok_iff] at ran
    obtain ⟨parent, classed, created, ran⟩ := ran
    rw [Attempt.result_bind_eq_ok_iff] at ran
    obtain ⟨walk, filled, walked, ran⟩ := ran
    rw [Attempt.result_bind_eq_ok_iff] at ran
    obtain ⟨types, _, stored, ran⟩ := ran
    rw [Attempt.result_mapError_eq_ok_iff] at stored
    cases ran
    cases walked
    exact ⟨_, _, _, readable, decoded, accepted, created, rfl, stored⟩
  · intro completes
    obtain ⟨table, classed, filled, record, name, accepted, created, walked,
        stored⟩ := completes
    have ran : Attempt.result
        (ExceptT.lift (MethodTable.walk dialect.tag rebuilt.name.text
          rebuilt.parent rebuilt.record.tableBase dialect.maxSlots) :
          Attempt Project RebuildError Walk) Project.host classed
        = (.ok ⟨rebuilt.slots, rebuilt.stop, table⟩, filled) :=
      congrArg (fun ran => (Except.ok ran.1, ran.2)) walked
    rw [stages, Attempt.result_bind_of_ok (read_result_of_ok record),
      Attempt.result_bind_of_ok (name_result_of_ok name),
      Attempt.result_bind_of_ok (checked_result_of_accepted accepted _),
      Attempt.result_bind_of_ok (Attempt.result_lift ..), Script.emit_state,
      Attempt.result_bind_of_ok created, Attempt.result_bind_of_ok ran,
      Attempt.result_bind_of_ok (Attempt.result_mapError_eq_ok_iff.2 stored)]
    rfl

/-- A rebuild that gives a class went through all its stages, and the last
project is the one it leaves. -/
theorem value_eq_ok_iff :
    (rebuild address dialect Project.host project).value = .ok rebuilt
      ↔ ∃ table classed filled,
        Completes project address dialect rebuilt table classed filled
          (rebuild address dialect Project.host project).state := by
  rw [← stages_eq_ok_iff, ← rebuild_result, Prod.mk.injEq, and_iff_left rfl]

namespace Completes

variable {table : Structure} {filled : Project}

theorem gainsClass
    (completes :
      Completes project address dialect rebuilt table classed filled last) :
    (project.afterName rebuilt.record.nameAddress).GainsClass
      rebuilt.name.text rebuilt.parent classed :=
  ClassNamespace.create_gainsClass completes.created

theorem classed_indexed (indexed : project.Indexed)
    (completes :
      Completes project address dialect rebuilt table classed filled last) :
    classed.Indexed := by
  rw [completes.gainsClass.frame, Project.afterName_frame]
  exact indexed.congr rfl rfl

theorem parent_known
    (completes :
      Completes project address dialect rebuilt table classed filled last) :
    (classed.namespace? rebuilt.parent).isSome := by
  obtain ⟨record, has⟩ := completes.gainsClass.hasClass
  rw [has.known]
  rfl

theorem filled_frame
    (completes :
      Completes project address dialect rebuilt table classed filled last) :
    last = { filled with types := last.types } := by
  have stored := completes.stored
  rw [MethodTable.storeTypes_result_eq] at stored
  obtain ⟨_, rfl⟩ := Prod.mk.inj stored
  rfl

theorem listsSlots (indexed : project.Indexed)
    (completes :
      Completes project address dialect rebuilt table classed filled last) :
    classed.ListsSlots rebuilt.parent rebuilt.slots last := by
  obtain ⟨walk, left, ran, lists⟩ :=
    MethodTable.walkFrom_footprint dialect.tag rebuilt.name.text
    rebuilt.record.tableBase
      (completes.classed_indexed indexed) completes.parent_known
    dialect.maxSlots.toNat 0 (.named (rebuilt.name.text ++ "VT"))
  cases ran.symm.trans completes.walked
  rw [completes.filled_frame]
  exact lists.withTypes _

end Completes

end Rebuild

/-- The records of two classes, `TA` and `TB`.  The table of the second is the
end of that of the first, and a zero word follows. -/
def Region.tabledImage : Region :=
  ⟨"image", .ofNat 4096,
    #[24, 16, 0, 0, 16, 16, 0, 0, 32, 16, 0, 0, 19, 16, 0, 0,
      2, 84, 65, 2, 84, 66, 0, 0,
      0, 16, 0, 0, 4, 16, 0, 0, 0, 16, 0, 0, 0, 0, 0, 0],
    ⟨true, false, true⟩⟩

/-- A project with the two records, in which one of the targets of the tables
is a function already. -/
def Project.tabled : Project :=
  .perform (.addFunction (.ofNat 4100) "Known" .undefined .imported)
    (.perform (.map .tabledImage) .empty)

theorem Project.tabled_reachable : Project.tabled.Reachable :=
  .perform _ (.perform _ .empty)

/-- The first class of this project has a slot with a new function, one with a
known function and one with the new function again. -/
theorem rebuild_tabled :
    ∃ rebuilt, (rebuild (.ofNat 4096) .compact Project.host .tabled).value
      = .ok rebuilt
      ∧ rebuilt.name.text = "TA" ∧ rebuilt.parent = .ofPosition 1
      ∧ rebuilt.slots.map (fun slot => (slot.target, slot.created))
        = [(.ofNat 4096, true), (.ofNat 4100, false),
          (.ofNat 4096, false)] := by
  have evaluated :
      (rebuild (.ofNat 4096) .compact Project.host .tabled).value.toOption.map
      (fun rebuilt => (rebuilt.name.text, rebuilt.parent,
        rebuilt.slots.map fun slot => (slot.target, slot.created)))
      = some ("TA", .ofPosition 1,
        [(.ofNat 4096, true), (.ofNat 4100, false), (.ofNat 4096, false)]) := by
    decide +kernel
  obtain ⟨rebuilt, built, view⟩ := map_toOption_eq_some_iff.1 evaluated
  simp only [Prod.mk.injEq] at view
  exact ⟨rebuilt, built, view⟩

end DelphiRtti
