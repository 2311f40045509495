import DelphiRtti.Proofs.MethodTable.Prototypes
import DelphiRtti.Proofs.Rebuild.Footprint

/-!
# The types that a rebuild stores

A rebuild that gives a class stores the structure of its table and that of its
instances in any case.  Under all other names it stores only what is free: the
function type of the first slot of that name.
-/

namespace DelphiRtti

namespace RebuiltClass

/-- What a class has stored in a project, and how its two structures
look.  Every field of the table points to the type that was stored
under its name before the rebuild, or else to the function type of the
first slot of that name. -/
structure StoresTypes (rebuilt : RebuiltClass)
    (before after : Project) : Prop where
  table : after.type? (rebuilt.name.text ++ "VT") = some rebuilt.tableType
  instances : after.type? rebuilt.name.text = some rebuilt.instanceType
  instanceType : rebuilt.instanceType
    = .struct ⟨rebuilt.name.text,
      [⟨0, .pointer rebuilt.tableType 4, "vt", "Virtual Function Table"⟩]⟩
  tableType : ∃ fields,
    rebuilt.tableType = .struct ⟨rebuilt.name.text ++ "VT", fields⟩
    ∧ fields.length = rebuilt.slots.length
    ∧ ∀ position slot, rebuilt.slots[position]? = some slot →
      ∃ offset target, offset.toNat = 4 * position
        ∧ before.fieldType? rebuilt.slots slot.fieldName = some target
        ∧ fields[position]?
          = some ⟨offset, .pointer target 4, slot.fieldName, ""⟩
  others : ∀ name, name ≠ rebuilt.name.text → name ≠ rebuilt.name.text ++ "VT" →
    after.type? name = before.fieldType? rebuilt.slots name
  functions : ∀ slot ∈ rebuilt.slots, ∃ record,
    after.function? slot.function = some record
    ∧ record.entry = slot.target ∧ record.name = slot.fieldName
    ∧ record.signature = before.signatureAt slot.target

/-- Whether a project has the two structures of a class under their names. -/
def TypesIn (rebuilt : RebuiltClass) (project : Project) : Prop :=
  project.type? rebuilt.name.text = some rebuilt.instanceType
    ∧ project.type? (rebuilt.name.text ++ "VT") = some rebuilt.tableType

end RebuiltClass

theorem MethodTable.append_table_ne (className : String) :
    className ++ "VT" ≠ className := by
  intro same
  have longer := congrArg String.length same
  rw [String.length_append] at longer
  have two : "VT".length = 2 := rfl
  omega

namespace Rebuild

variable {project classed filled last : Project} {address : Address}
  {dialect : Dialect} {rebuilt : RebuiltClass} {table : Structure}

namespace Completes

theorem classed_frame
    (completes :
      Completes project address dialect rebuilt table classed filled last) :
    classed = { project with
      listing := classed.listing, namespaces := classed.namespaces } := by
  have gains := completes.gainsClass.frame
  rw [Project.afterName_frame] at gains
  rw [gains]

theorem keepsFields (indexed : project.Indexed)
    (completes :
      Completes project address dialect rebuilt table classed filled last) :
    MethodTable.KeepsFields project (.named (rebuilt.name.text ++ "VT"))
      ⟨rebuilt.slots, rebuilt.stop, table⟩ filled := by
  have empty : (Structure.named (rebuilt.name.text ++ "VT")).length
      = UInt32.ofNat (4 * 0) := by
    rw [Structure.named, Structure.length, Component.totalLength]
    rfl
  have keeps := MethodTable.walkFrom_keepsFields dialect.tag rebuilt.name.text
    rebuilt.record.tableBase
      (completes.classed_indexed indexed) completes.parent_known
    dialect.maxSlots.toNat 0 _ empty completes.walked
  rw [completes.classed_frame] at keeps
  -- Placing the name and making the class touch neither types nor functions.
  have prototypes := keeps.prototypes
  exact ⟨⟨prototypes.types, prototypes.signatures, prototypes.known,
    prototypes.functions⟩, keeps.fields⟩

theorem stored_eq
    (completes :
      Completes project address dialect rebuilt table classed filled last) :
    rebuilt.tableType = .struct table
      ∧ rebuilt.instanceType
        = .struct ((Structure.named rebuilt.name.text).withPointer
        rebuilt.tableType "vt" "Virtual Function Table")
      ∧ last = (filled.withType rebuilt.tableType).withType
        rebuilt.instanceType := by
  have stored := completes.stored
  rw [MethodTable.storeTypes_result_eq] at stored
  obtain ⟨types, rfl⟩ := Prod.mk.inj stored
  obtain ⟨tableType, instanceType⟩ := Prod.mk.inj (Except.ok.inj types)
  rw [← instanceType, ← tableType]
  exact ⟨rfl, rfl, rfl⟩

theorem instanceType_eq
    (completes :
      Completes project address dialect rebuilt table classed filled last) :
    rebuilt.instanceType
      = .struct ⟨rebuilt.name.text,
        [⟨0, .pointer rebuilt.tableType 4, "vt",
          "Virtual Function Table"⟩]⟩ := by
  obtain ⟨_, instanceType, _⟩ := completes.stored_eq
  rw [instanceType, Structure.withPointer, Structure.nextComponent,
    Structure.named, Structure.length, Component.totalLength]
  rfl

/-- The fields of the table, slot by slot. -/
theorem tableType_eq (indexed : project.Indexed)
    (completes :
      Completes project address dialect rebuilt table classed filled last) :
    ∃ fields, rebuilt.tableType = .struct ⟨rebuilt.name.text ++ "VT", fields⟩
      ∧ List.Forall₂ (fun field slot => ∃ target,
        project.fieldType? rebuilt.slots slot.fieldName = some target
          ∧ field = MethodTable.fieldFor slot target) fields rebuilt.slots := by
  obtain ⟨prototypes, added, components, matched⟩ :=
    completes.keepsFields indexed
  obtain ⟨tableType, _⟩ := completes.stored_eq
  have name := completes.inStepFrom.name
  obtain ⟨title, fields⟩ := table
  cases name
  cases components
  refine ⟨_, tableType, matched.imp ?_⟩
  rintro field slot ⟨target, stored, rfl⟩
  rw [prototypes.types] at stored
  exact ⟨target, stored, rfl⟩

theorem type?_eq (indexed : project.Indexed)
    (completes :
      Completes project address dialect rebuilt table classed filled last)
    (name : String) :
    last.type? name
      = if rebuilt.name.text = name then some rebuilt.instanceType
        else if rebuilt.name.text ++ "VT" = name then some rebuilt.tableType
        else project.fieldType? rebuilt.slots name := by
  obtain ⟨fields, tableType, _⟩ := completes.tableType_eq indexed
  obtain ⟨_, _, rfl⟩ := completes.stored_eq
  have instanceName : rebuilt.instanceType.name = rebuilt.name.text := by
    rw [completes.instanceType_eq, DataType.name]
  have tableName : rebuilt.tableType.name = rebuilt.name.text ++ "VT" := by
    rw [tableType, DataType.name]
  rw [Project.type?_withType, Project.type?_withType, instanceName, tableName,
    (completes.keepsFields indexed).prototypes.types]

theorem typesIn (indexed : project.Indexed)
    (completes :
      Completes project address dialect rebuilt table classed filled last) :
    rebuilt.TypesIn last := by
  have types := completes.type?_eq indexed
  constructor
  · rw [types, if_pos rfl]
  · rw [types, if_neg (MethodTable.append_table_ne rebuilt.name.text).symm,
      if_pos rfl]

theorem storesTypes
    (indexed : project.Indexed) (limited : dialect.maxSlots.toNat ≤ 2 ^ 30)
    (completes :
      Completes project address dialect rebuilt table classed filled last) :
    rebuilt.StoresTypes project last := by
  have types := completes.type?_eq indexed
  constructor
  · exact (completes.typesIn indexed).2
  · exact (completes.typesIn indexed).1
  · exact completes.instanceType_eq
  · obtain ⟨fields, tableType, matched⟩ := completes.tableType_eq indexed
    refine ⟨fields, tableType, matched.length_eq, ?_⟩
    intro position slot there
    obtain ⟨inside, rfl⟩ := List.getElem?_eq_some_iff.1 there
    have index : rebuilt.slots[position].index = position := by
      rw [(completes.inStepFrom.places position _ there).1, Nat.zero_add]
    have insideFields : position < fields.length := by
      rw [matched.length_eq]
      exact inside
    have here : ∃ target,
        project.fieldType? rebuilt.slots rebuilt.slots[position].fieldName
          = some target
          ∧ fields[position]
            = MethodTable.fieldFor rebuilt.slots[position] target :=
      matched.get insideFields inside
    obtain ⟨target, stored, field⟩ := here
    refine ⟨UInt32.ofNat (4 * position), target, ?_, stored, ?_⟩
    · apply UInt32.toNat_ofNat_of_lt'
      have few := completes.length_slots_le
      rw [UInt32.size]
      omega
    · rw [List.getElem?_eq_getElem insideFields, field,
        MethodTable.fieldFor, index]
      rfl
  · intro name notInstances notTable
    rw [types, if_neg (Ne.symm notInstances), if_neg (Ne.symm notTable)]
  · intro slot listed
    obtain ⟨record, found, entry, definition⟩ :=
      (completes.keepsFields indexed).prototypes.functions slot listed
    obtain ⟨_, _, rfl⟩ := completes.stored_eq
    obtain ⟨name, signature⟩ := FunctionDefinition.mk.inj definition
    exact ⟨record, found, entry, name, signature⟩

end Completes

end Rebuild

variable {project : Project} {address : Address} {dialect : Dialect}
  {rebuilt : RebuiltClass}

/-- What a rebuild that gives a class stores is determined by the project that
it began with, by the class and by the names of its slots. -/
theorem rebuild_stores_types
    (reachable : project.Reachable) (limited : dialect.maxSlots.toNat ≤ 2 ^ 30)
    (built :
      (rebuild address dialect Project.host project).value = .ok rebuilt) :
    rebuilt.StoresTypes project
      (rebuild address dialect Project.host project).state := by
  obtain ⟨table, classed, filled, completes⟩ := Rebuild.value_eq_ok_iff.1 built
  exact completes.storesTypes reachable.indexed limited

theorem rebuild_stores_types_tabled :
    Dialect.compact.maxSlots.toNat ≤ 2 ^ 30
      ∧ (rebuild (.ofNat 4096) .compact Project.host .tabled).state.types.keys
        = ["FUN_00001000", "Known", "TA", "TAVT"]
      ∧ ∃ rebuilt, (rebuild (.ofNat 4096) .compact Project.host .tabled).value
        = .ok rebuilt
        ∧ rebuilt.StoresTypes .tabled
          (rebuild (.ofNat 4096) .compact Project.host .tabled).state := by
  obtain ⟨rebuilt, built, _⟩ := rebuild_tabled
  have limited : Dialect.compact.maxSlots.toNat ≤ 2 ^ 30 := by decide
  refine ⟨limited, by decide +kernel, rebuilt, built, ?_⟩
  exact rebuild_stores_types Project.tabled_reachable limited built

end DelphiRtti
