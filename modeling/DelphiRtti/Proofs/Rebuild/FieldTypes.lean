import DelphiRtti.Proofs.Rebuild.StoredTypes

/-!
# What the fields of a table point to

A field of a table is a pointer to the type that is stored under the name of
its function.  That is a function type unless the project had some other type
under the name: prototypes share their names with structures, and a stored type
is kept whatever its kind.
-/

namespace DelphiRtti

/-- Whether a component is a pointer to a function type of its own name. -/
def Component.PointsToFunction (component : Component) : Prop :=
  ∃ signature, component.dataType
    = .pointer (.function ⟨component.name, signature⟩) 4

theorem DataType.isFunction_iff {dataType : DataType} :
    dataType.isFunction = true
      ↔ ∃ signature, dataType = .function ⟨dataType.name, signature⟩ := by
  constructor
  · intro isFunction
    cases dataType with
    | function definition => exact ⟨definition.signature, rfl⟩
    | _ => cases isFunction
  · rintro ⟨signature, same⟩
    rw [same]
    rfl

namespace Project

variable {project : Project} {slots : List Slot} {name : String}
  {target : DataType}

theorem firstPrototype?_eq_some
    (stored : project.firstPrototype? slots name = some target) :
    ∃ signature, target = .function ⟨name, signature⟩ := by
  obtain ⟨slot, _, rfl⟩ := Option.map_eq_some_iff.1 stored
  exact ⟨_, rfl⟩

theorem fieldType?_name (named : project.TypesNamed)
    (stored : project.fieldType? slots name = some target) :
    target.name = name := by
  rcases Option.or_eq_some_iff.1 stored with known | ⟨_, first⟩
  · exact named known
  · obtain ⟨signature, rfl⟩ := firstPrototype?_eq_some first
    rfl

theorem fieldType?_isFunction_iff
    (stored : project.fieldType? slots name = some target) :
    target.isFunction = true ↔ ∀ known, project.type? name = some known →
    known.isFunction = true := by
  rcases Option.or_eq_some_iff.1 stored with known | ⟨free, first⟩
  · simp [known]
  · obtain ⟨signature, rfl⟩ := firstPrototype?_eq_some first
    simp [free, DataType.isFunction]

end Project

namespace MethodTable

theorem pointsToFunction_fieldFor_iff {slot : Slot} {target : DataType}
    (named : target.name = slot.fieldName) :
    (fieldFor slot target).PointsToFunction ↔ target.isFunction = true := by
  rw [DataType.isFunction_iff, named]
  constructor
  · intro points
    obtain ⟨signature, same⟩ := points
    exact ⟨signature, (DataType.pointer.inj same).1⟩
  · intro isFunction
    obtain ⟨signature, same⟩ := isFunction
    refine ⟨signature, ?_⟩
    rw [same]
    rfl

variable {project : Project} {all slots : List Slot} {fields : List Component}

theorem fields_of_matched
    (matched : List.Forall₂ (fun field slot =>
      ∃ target, project.fieldType? all slot.fieldName = some target
      ∧ field = fieldFor slot target) fields slots) :
    fields.map Component.name = slots.map Slot.fieldName
      ∧ ∀ field ∈ fields, ∃ slot target,
        project.fieldType? all slot.fieldName = some target
          ∧ field = fieldFor slot target := by
  induction matched with
  | nil => simp
  | @cons field slot fields slots here rest induction =>
      constructor
      · obtain ⟨target, _, rfl⟩ := here
        rw [List.map_cons, List.map_cons, induction.1, fieldFor]
      · rw [List.forall_mem_cons]
        exact ⟨⟨slot, here⟩, induction.2⟩

end MethodTable

variable {project : Project} {address : Address} {dialect : Dialect}
  {rebuilt : RebuiltClass}

/-- The fields of the table of a class bear the names of the functions of its
slots.  Each is a pointer to a type of its own name, and to a function type
exactly if the project had no other kind of type under that name. -/
theorem fields_point_to_functions_iff (reachable : project.Reachable)
    (built :
      (rebuild address dialect Project.host project).value = .ok rebuilt) :
    ∃ fields, rebuilt.tableType = .struct ⟨rebuilt.name.text ++ "VT", fields⟩
      ∧ fields.map Component.name = rebuilt.slots.map Slot.fieldName
      ∧ ∀ field ∈ fields,
        (∃ target, field.dataType = .pointer target 4
          ∧ target.name = field.name)
          ∧ (field.PointsToFunction ↔
            ∀ stored, project.type? field.name = some stored →
              stored.isFunction = true) := by
  obtain ⟨table, classed, filled, completes⟩ := Rebuild.value_eq_ok_iff.1 built
  obtain ⟨fields, tableType, matched⟩ :=
    completes.tableType_eq reachable.indexed
  obtain ⟨names, pointing⟩ := MethodTable.fields_of_matched matched
  refine ⟨fields, tableType, names, ?_⟩
  intro field inside
  obtain ⟨slot, target, stored, rfl⟩ := pointing field inside
  have named := Project.fieldType?_name reachable.typesNamed stored
  constructor
  · exact ⟨target, rfl, named⟩
  · rw [MethodTable.pointsToFunction_fieldFor_iff named]
    exact Project.fieldType?_isFunction_iff stored

/-- A project in which one class is built and a function has got the
name of that class. -/
def Project.homonymous : Project :=
  .perform (.addFunction (.ofNat 4100) "TB" .undefined .imported)
    (.perform (.rebuild (.ofNat 4104) .compact)
      (.perform (.map .tabledImage) .empty))

theorem Project.homonymous_reachable : Project.homonymous.Reachable :=
  .perform _ (.perform _ (.perform _ .empty))

/-- The fields of the class next to it.  The second one stands for
that function, but points to the structure of the instances of the
class that has its name. -/
def Project.homonymousFields : List Component :=
  let undefined : DataType := .function ⟨"FUN_00001000", .undefined⟩
  let table : DataType :=
    .struct ⟨"TBVT", [⟨0, .pointer undefined 4, "FUN_00001000", ""⟩]⟩
  let instances : DataType :=
    .struct ⟨"TB", [⟨0, .pointer table 4, "vt", "Virtual Function Table"⟩]⟩
  [⟨0, .pointer undefined 4, "FUN_00001000", ""⟩,
    ⟨4, .pointer instances 4, "TB", ""⟩,
    ⟨8, .pointer undefined 4, "FUN_00001000", ""⟩]

theorem rebuild_homonymous :
    ∃ rebuilt, (rebuild (.ofNat 4096) .compact Project.host .homonymous).value
      = .ok rebuilt
      ∧ rebuilt.slots.map Slot.fieldName
        = ["FUN_00001000", "TB", "FUN_00001000"]
      ∧ rebuilt.tableType
        = .struct ⟨rebuilt.name.text ++ "VT", Project.homonymousFields⟩ := by
  have evaluated :
      (rebuild (.ofNat 4096) .compact
        Project.host .homonymous).value.toOption.map
      (fun rebuilt => (rebuilt.slots.map Slot.fieldName,
        decide (rebuilt.tableType
          = .struct ⟨rebuilt.name.text ++ "VT", Project.homonymousFields⟩)))
      = some (["FUN_00001000", "TB", "FUN_00001000"], true) := by
    decide +kernel
  obtain ⟨rebuilt, built, view⟩ := map_toOption_eq_some_iff.1 evaluated
  obtain ⟨names, tableType⟩ := Prod.mk.inj view
  exact ⟨rebuilt, built, names, of_decide_eq_true tableType⟩

theorem fields_point_to_functions_homonymous :
    Project.homonymous.Reachable
      ∧ ∃ rebuilt fields, (rebuild
        (.ofNat 4096) .compact Project.host .homonymous).value = .ok rebuilt
        ∧ rebuilt.tableType = .struct ⟨rebuilt.name.text ++ "VT", fields⟩
        ∧ fields.map Component.name = ["FUN_00001000", "TB", "FUN_00001000"]
        ∧ ∀ field ∈ fields, field.PointsToFunction ↔ field.name ≠ "TB" := by
  have reachable := Project.homonymous_reachable
  obtain ⟨rebuilt, built, slotNames, _⟩ := rebuild_homonymous
  obtain ⟨fields, tableType, names, pointing⟩ :=
    fields_point_to_functions_iff reachable built
  rw [slotNames] at names
  refine ⟨reachable, rebuilt, fields, built, tableType, names, ?_⟩
  intro field inside
  have listed : field.name ∈ ["FUN_00001000", "TB", "FUN_00001000"] := by
    rw [← names]
    exact List.mem_map_of_mem inside
  have kinds : ∀ name ∈ ["FUN_00001000", "TB", "FUN_00001000"],
      (Project.homonymous.type? name).all DataType.isFunction = true
        ↔ name ≠ "TB" := by
    decide +kernel
  rw [(pointing field inside).2, ← kinds field.name listed, Option.all_eq_true]

/-- A field may fail to point to a function. -/
theorem fields_point_to_functions_fails :
    Project.homonymous.Reachable
      ∧ ∃ rebuilt fields, (rebuild
        (.ofNat 4096) .compact Project.host .homonymous).value = .ok rebuilt
        ∧ rebuilt.tableType = .struct ⟨rebuilt.name.text ++ "VT", fields⟩
        ∧ ¬ ∀ field ∈ fields, field.PointsToFunction := by
  obtain ⟨rebuilt, built, _, tableType⟩ := rebuild_homonymous
  refine ⟨Project.homonymous_reachable, rebuilt, Project.homonymousFields,
    built, tableType, ?_⟩
  intro pointing
  obtain ⟨signature, same⟩ := pointing _ (.tail _ (.head _))
  cases same

end DelphiRtti
