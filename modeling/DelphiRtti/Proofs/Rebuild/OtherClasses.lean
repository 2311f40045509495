import DelphiRtti.Proofs.Rebuild.Session
import DelphiRtti.Proofs.Rebuild.StoredTypes

/-!
# The types of two classes

All types are stored in one table by their names, and the two structures of a
class replace what has their names.  So a class loses a structure to the next
one exactly if one of their names is the name of the other one's table.
-/

namespace DelphiRtti

namespace Rebuild.Completes

variable {project classed filled last : Project} {address : Address}
  {dialect : Dialect} {rebuilt other earlier : RebuiltClass} {table : Structure}

theorem instanceType_ne_tableType
    {project' classed' filled' last' : Project} {address' : Address}
    {dialect' : Dialect} {table' : Structure} (indexed : project'.Indexed)
    (completes :
      Completes project address dialect rebuilt table classed filled last)
    (others : Completes project' address' dialect' other table' classed' filled'
      last') : rebuilt.instanceType ≠ other.tableType := by
  -- The field of the one has a comment and those of the other have none.
  intro same
  obtain ⟨fields, tableType, matched⟩ := others.tableType_eq indexed
  rw [completes.instanceType_eq, tableType] at same
  obtain ⟨_, rfl⟩ := Structure.mk.inj (DataType.struct.inj same)
  obtain ⟨slot, _, ⟨target, _, field⟩, _⟩ :=
    List.forall₂_cons_left_iff.1 matched
  have comments : "Virtual Function Table" = "" :=
    congrArg Component.comment field
  exact absurd comments (by decide)

theorem typesIn_iff (indexed : project.Indexed)
    (completes :
      Completes project address dialect rebuilt table classed filled last)
    (differ : earlier.name.text ≠ rebuilt.name.text)
    (stored : earlier.TypesIn project)
    (instances : earlier.instanceType ≠ rebuilt.tableType)
    (tables : rebuilt.instanceType ≠ earlier.tableType) :
    earlier.TypesIn last ↔ rebuilt.name.text ≠ earlier.name.text ++ "VT"
      ∧ earlier.name.text ≠ rebuilt.name.text ++ "VT" := by
  have types := completes.type?_eq indexed
  have tablesDiffer : rebuilt.name.text ++ "VT"
      ≠ earlier.name.text ++ "VT" := by
    intro same
    exact differ ((String.append_left_inj "VT").1 same).symm
  have instancesKept : last.type? earlier.name.text = some earlier.instanceType
      ↔ earlier.name.text ≠ rebuilt.name.text ++ "VT" := by
    rw [types, if_neg differ.symm, Project.fieldType?, stored.1, Option.some_or]
    by_cases replaced : rebuilt.name.text ++ "VT" = earlier.name.text
    · simp [replaced, instances.symm]
    · simp [replaced, Ne.symm replaced]
  have tableKept : last.type? (earlier.name.text ++ "VT")
      = some earlier.tableType
      ↔ rebuilt.name.text ≠ earlier.name.text ++ "VT" := by
    rw [types, if_neg tablesDiffer, Project.fieldType?, stored.2,
      Option.some_or]
    by_cases replaced : rebuilt.name.text = earlier.name.text ++ "VT"
    · simp [replaced, tables]
    · simp [replaced]
  rw [RebuiltClass.TypesIn, instancesKept, tableKept, and_comm]

end Rebuild.Completes

variable {project : Project} {address nextAddress : Address}
  {dialect nextDialect : Dialect} {earlier rebuilt : RebuiltClass}

/-- If one class is built right after another one, then the earlier one
keeps its two structures exactly if neither of the two has the name of
the other one's table. -/
theorem class_types_kept_iff (reachable : project.Reachable)
    (first : (rebuild address dialect Project.host project).value = .ok earlier)
    (second : (rebuild nextAddress nextDialect Project.host (rebuild address
      dialect Project.host project).state).value = .ok rebuilt) :
    earlier.TypesIn (rebuild nextAddress nextDialect Project.host
        (rebuild address dialect Project.host project).state).state
      ↔ rebuilt.name.text ≠ earlier.name.text ++ "VT"
        ∧ earlier.name.text ≠ rebuilt.name.text ++ "VT" := by
  have between := Project.Reachable.perform (.rebuild address dialect) reachable
  have apart := (rebuilt_standsIn reachable first).apart second
  have differ : earlier.name.text ≠ rebuilt.name.text := by
    intro same
    exact apart.1 (congrArg ClassName.bytes (ClassName.text_injective same))
  obtain ⟨_, _, _, earlierCompletes⟩ := Rebuild.value_eq_ok_iff.1 first
  obtain ⟨_, _, _, completes⟩ := Rebuild.value_eq_ok_iff.1 second
  exact completes.typesIn_iff between.indexed differ
    (earlierCompletes.typesIn reachable.indexed)
    (earlierCompletes.instanceType_ne_tableType between.indexed completes)
    (completes.instanceType_ne_tableType reachable.indexed earlierCompletes)

theorem class_types_kept_tabled :
    let left := (rebuild (.ofNat 4096) .compact Project.host .tabled).state
    ∃ earlier rebuilt,
      (rebuild (.ofNat 4096) .compact Project.host .tabled).value = .ok earlier
      ∧ (rebuild (.ofNat 4104) .compact Project.host left).value = .ok rebuilt
      ∧ earlier.name.text = "TA" ∧ rebuilt.name.text = "TB"
      ∧ earlier.TypesIn
        (rebuild (.ofNat 4104) .compact Project.host left).state := by
  have evaluated : (rebuild (.ofNat 4104) .compact Project.host
      (rebuild (.ofNat 4096) .compact Project.host
        .tabled).state).value.toOption.map
      (fun rebuilt => rebuilt.name.text) = some "TB" := by
    decide +kernel
  obtain ⟨earlier, first, earlierName, _⟩ := rebuild_tabled
  obtain ⟨rebuilt, second, name⟩ := map_toOption_eq_some_iff.1 evaluated
  refine ⟨earlier, rebuilt, first, second, earlierName, name, ?_⟩
  rw [class_types_kept_iff Project.tabled_reachable first second,
    earlierName, name]
  decide

/-- Two records without tables, and the name of the second class is that of the
table of the first one. -/
def Region.nestedNames : Region :=
  ⟨"image", .ofNat 4096,
    #[0, 0, 0, 0, 16, 16, 0, 0, 0, 0, 0, 0, 19, 16, 0, 0, 2, 84, 65, 4, 84,
      65, 86, 84, 0],
    ⟨true, false, false⟩⟩

def Project.nested : Project := .perform (.map .nestedNames) .empty

/-- When the second class is built, the structure of its instances replaces the
table of the first one. -/
theorem class_types_kept_fails :
    let left := (rebuild (.ofNat 4096) .compact Project.host .nested).state
    let last := (rebuild (.ofNat 4104) .compact Project.host left).state
    Project.nested.Reachable ∧ ∃ earlier rebuilt,
      (rebuild (.ofNat 4096) .compact Project.host .nested).value = .ok earlier
        ∧ (rebuild (.ofNat 4104) .compact Project.host left).value = .ok rebuilt
        ∧ earlier.name.text = "TA" ∧ rebuilt.name.text = "TAVT"
        ∧ earlier.tableType = .struct ⟨"TAVT", []⟩
        ∧ last.type? "TAVT" = some (.struct ⟨"TAVT",
          [⟨0, .pointer (.struct ⟨"TAVTVT", []⟩) 4, "vt",
            "Virtual Function Table"⟩]⟩)
        ∧ ¬ earlier.TypesIn last := by
  intro left last
  have firstView :
      (rebuild (.ofNat 4096) .compact Project.host .nested).value.toOption.map
      (fun earlier => (earlier.name.text, earlier.tableType))
      = some ("TA", .struct ⟨"TAVT", []⟩) := by
    decide +kernel
  have secondView :
      (rebuild (.ofNat 4104) .compact Project.host left).value.toOption.map
      (fun rebuilt => rebuilt.name.text) = some "TAVT" := by
    decide +kernel
  have replaced : last.type? "TAVT" = some (.struct ⟨"TAVT",
      [⟨0, .pointer (.struct ⟨"TAVTVT", []⟩) 4, "vt",
        "Virtual Function Table"⟩]⟩) := by
    decide +kernel
  obtain ⟨earlier, first, view⟩ := map_toOption_eq_some_iff.1 firstView
  obtain ⟨earlierName, tableType⟩ := Prod.mk.inj view
  obtain ⟨rebuilt, second, name⟩ := map_toOption_eq_some_iff.1 secondView
  refine ⟨.perform _ .empty, earlier, rebuilt, first, second, earlierName, name,
    tableType, replaced, ?_⟩
  intro kept
  have keptTable := kept.2
  have titled : "TA" ++ "VT" = "TAVT" := rfl
  rw [earlierName, titled, replaced, tableType] at keptTable
  cases keptTable

end DelphiRtti
