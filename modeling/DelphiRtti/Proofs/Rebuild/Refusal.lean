import DelphiRtti.Proofs.Rebuild.Success

/-!
# Rebuilds that fail

A rebuild fails at one of four stages: its record or its name is not read, the
name is not accepted, or there can be no namespace for the class.  Once the
class has its namespace, nothing fails any more.
-/

namespace DelphiRtti

open Text

variable {project last : Project} {address : Address} {dialect : Dialect}
  {cause : RebuildError}

/-- A class namespace is refused only because the class is there or nothing
came of the namespace. -/
theorem ClassNamespace.create_eq_error
    {name : ClassName} (root : (project.namespace? .global).isSome)
    (refused :
      (create name).result Project.host project = (.error cause, last)) :
    cause = .alreadyDefined name.text ∨ cause = .noNamespace name.text := by
  rw [create_result_eq] at refused
  split at refused
  case h_1 failure failed =>
      cases refused
      obtain ⟨scope, rfl⟩ := Project.findOrCreateNamespace_eq_error root failed
      exact .inl rfl
  case h_2 id found created =>
      split at refused
      case h_1 failure failed =>
          cases refused
          have known := Project.namespace?_of_findOrCreateNamespace created
          obtain ⟨_, scope, rfl⟩ := Project.convertToClass_eq_error known failed
          exact .inl rfl
      case h_2 =>
          cases refused
          exact .inr rfl
      case h_3 => cases refused

theorem Project.namespace?_afterName
    (project : Project) (start : Address) (id : NamespaceId) :
    (project.afterName start).namespace? id = project.namespace? id := by
  rw [afterName_frame]
  rfl

theorem Image.nameBytes_eq_error {image : Image}
    {start : Address} (failed : image.nameBytes start = .error cause) :
    ∃ failure, cause = .metadataUnreadable failure := by
  rw [nameBytes] at failed
  cases sized : image.readByte start with
  | error failure =>
      rw [sized] at failed
      cases failed
      exact ⟨failure, rfl⟩
  | ok length =>
      rw [sized] at failed
      cases read : image.read (start + (1 : UInt32)) length.toNat with
      | error failure =>
          simp only [mapError_ok, bind, Except.bind, read] at failed
          cases failed
          exact ⟨failure, rfl⟩
      | ok bytes =>
          simp only [mapError_ok, bind, Except.bind, read] at failed
          cases failed

/-- A name that is not decoded is unreadable, or cannot be placed. -/
theorem Project.nameAt_eq_error {start : Address}
    (failed : project.nameAt start = .error cause) :
    (∃ failure, cause = .metadataUnreadable failure) ∨ ∃ failure,
    cause = .host failure := by
  rw [nameAt_eq] at failed
  split at failed
  case h_1 refusal _ =>
      cases failed
      cases refusal with
      | memory failure => exact .inl ⟨failure, rfl⟩
      | _ => exact .inr ⟨_, rfl⟩
  case h_2 => exact .inl (Image.nameBytes_eq_error failed)

namespace Rebuild

/-- At which stage a rebuild fails, for which cause, and which project
it leaves. -/
inductive Refused (project : Project) (address : Address) (dialect : Dialect) :
    RebuildError → Project → Prop where
  | record {cause : MemoryError}
      (unread : project.image.recordAt address dialect = .error cause) :
      Refused project address dialect (.metadataUnreadable cause) project
  | name {record : ClassRecord} {cause : RebuildError}
      (readable : project.image.recordAt address dialect = .ok record)
      (unnamed : project.nameAt record.nameAddress = .error cause) :
      Refused project address dialect cause
        (project.afterName record.nameAddress)
  | check {record : ClassRecord} {name : ClassName}
      (readable : project.image.recordAt address dialect = .ok record)
      (named : project.nameAt record.nameAddress = .ok name)
      (refused : ¬ name.Accepted dialect) :
      Refused project address dialect
        (.badClassName name.text dialect.prefixList)
        (project.afterName record.nameAddress)
  | created {record : ClassRecord} {name : ClassName} {cause : RebuildError}
      {last : Project}
      (readable : project.image.recordAt address dialect = .ok record)
      (named : project.nameAt record.nameAddress = .ok name)
      (accepted : name.Accepted dialect)
      (refused : (ClassNamespace.create name).result Project.host
        (project.afterName record.nameAddress)
        = (.error cause, last)) :
      Refused project address dialect cause last

theorem read_result_of_error {unread : MemoryError}
    (unreadable : project.image.recordAt address dialect = .error unread) :
    (Attempt.mapError RebuildError.metadataUnreadable
      (ClassRecord.read address dialect)).result
        Project.host project
      = (.error (.metadataUnreadable unread), project) := by
  rw [Attempt.result_mapError, ClassRecord.read_result, unreadable]
  rfl

theorem name_result_of_error
    {start : Address} (unnamed : project.nameAt start = .error cause) :
    (ClassName.read start).result Project.host project
      = (.error cause, project.afterName start) := by
  rw [ClassName.read_result, unnamed]

theorem checked_result_of_refused {name : ClassName}
    (refused : ¬ name.Accepted dialect) (project : Project) :
    (stages.liftExcept (name.check dialect)).result Project.host project
      = (.error (.badClassName name.text dialect.prefixList), project) := by
  rw [checked_result, if_neg refused]

theorem stages_eq_error_iff :
    (stages address dialect).result Project.host project = (.error cause, last)
      ↔ Refused project address dialect cause last := by
  constructor
  · intro ran
    rw [stages] at ran
    cases readable : project.image.recordAt address dialect with
    | error unread =>
        rw [Attempt.result_bind_of_error (read_result_of_error readable)] at ran
        cases ran
        exact .record readable
    | ok record =>
        rw [Attempt.result_bind_of_ok (read_result_of_ok readable)] at ran
        cases named : project.nameAt record.nameAddress with
        | error failure =>
            rw [Attempt.result_bind_of_error
              (name_result_of_error named)] at ran
            cases ran
            exact .name readable named
        | ok name =>
            rw [Attempt.result_bind_of_ok (name_result_of_ok named)] at ran
            by_cases accepted : name.Accepted dialect
            · rw [Attempt.result_bind_of_ok (checked_result_of_accepted
                accepted _), Attempt.result_bind_of_ok (Attempt.result_lift ..),
                Script.emit_state] at ran
              rcases created : (ClassNamespace.create name).result Project.host
                (project.afterName record.nameAddress)
                  with ⟨failure | parent, classed⟩
              · rw [Attempt.result_bind_of_error created] at ran
                cases ran
                exact .created readable named accepted created
              · -- Once the class has its namespace, no stage fails any more.
                rw [Attempt.result_bind_of_ok created,
                  Attempt.result_bind_of_ok (Attempt.result_lift ..)] at ran
                rw [Attempt.result_bind_of_ok
                  (Attempt.result_mapError_eq_ok_iff.2
                  (MethodTable.storeTypes_result_eq ..))] at ran
                cases ran
            · rw [Attempt.result_bind_of_error
                (checked_result_of_refused accepted _)] at ran
              cases ran
              exact .check readable named accepted
  · intro refused
    cases refused with
    | record unread =>
        rw [stages, Attempt.result_bind_of_error (read_result_of_error unread)]
    | name readable unnamed =>
        rw [stages, Attempt.result_bind_of_ok (read_result_of_ok readable),
          Attempt.result_bind_of_error (name_result_of_error unnamed)]
    | check readable named refused =>
        rw [stages, Attempt.result_bind_of_ok (read_result_of_ok readable),
          Attempt.result_bind_of_ok (name_result_of_ok named),
          Attempt.result_bind_of_error (checked_result_of_refused refused _)]
    | created readable named accepted refused =>
        rw [stages, Attempt.result_bind_of_ok (read_result_of_ok readable),
          Attempt.result_bind_of_ok (name_result_of_ok named),
          Attempt.result_bind_of_ok (checked_result_of_accepted accepted _),
          Attempt.result_bind_of_ok (Attempt.result_lift ..), Script.emit_state,
          Attempt.result_bind_of_error refused]

end Rebuild

end DelphiRtti
