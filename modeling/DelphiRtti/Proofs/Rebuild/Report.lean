import DelphiRtti.Proofs.MethodTable.Messages
import DelphiRtti.Proofs.Rebuild.Refusal

/-!
# What a rebuild tells the analyst

The stages of a rebuild tell their progress and end where one of them fails;
the failure is reported afterwards.  Either way, what stands on the console can
be read off the outcome.
-/

namespace DelphiRtti

open Text

variable {project last : Project} {address : Address} {dialect : Dialect}
  {rebuilt : RebuiltClass} {cause : RebuildError}

namespace Rebuild

theorem record_silent (address : Address) (dialect : Dialect) :
    (Attempt.mapError RebuildError.metadataUnreadable
      (ClassRecord.read address dialect)
      : Attempt Project RebuildError ClassRecord).Silent := by
  refine .mapError _ (.bind (.ofScript (Script.silent_ask _)) fun base => ?_)
  refine .bind (.ofScript (Script.silent_ask _)) fun name => ?_
  exact .bind (.lift (Script.silent_log _ _)) fun _ => .pure _

theorem name_silent (start : Address) :
    (ClassName.read start : Attempt Project RebuildError ClassName).Silent := by
  refine .bind (.lift (Script.silent_ask _)) fun _ => ?_
  refine .bind (.mapError _ (.ofScript (Script.silent_ask _))) fun _ => ?_
  refine .bind (.mapError _ (.ofScript (Script.silent_ask _))) fun length => ?_
  refine .bind (.mapError _ (.ofScript (Script.silent_ask _))) fun bytes => ?_
  exact .bind (.lift (Script.silent_log _ _)) fun _ => .pure _

theorem checked_silent (outcome : Except RebuildError Unit) :
    (stages.liftExcept outcome : Attempt Project RebuildError Unit).Silent :=
  .ofScript (Script.silent_pure _)

theorem created_silent (name : ClassName) :
    (ClassNamespace.create name :
      Attempt Project RebuildError NamespaceId).Silent := by
  refine .bind (.mapError _ (.ofScript (Script.silent_ask _))) fun id => ?_
  refine .bind (.mapError _ (.ofScript (Script.silent_ask _)))
    fun converted => ?_
  cases converted with
  | none => exact .throw _
  | some id => exact .pure _

theorem stored_silent (className : String) (table : Structure) :
    (Attempt.mapError RebuildError.host (MethodTable.storeTypes className table)
      : Attempt Project RebuildError (DataType × DataType)).Silent := by
  refine .mapError _ (.bind (.ofScript (Script.silent_ask _)) fun stored => ?_)
  cases layout : MethodTable.instanceLayout className stored with
  | error failure => exact .throw _
  | ok layout => exact .bind (.ofScript (Script.silent_ask _)) fun _ => .pure _

/-- What the analyst is told while the stages go on, by what they come to and
the project that they leave. -/
def progress (left : Project) : Except RebuildError RebuiltClass → List String
  | .ok rebuilt => ("Creating class " ++ rebuilt.name.text)
      :: (rebuilt.slots.flatMap (Slot.messages rebuilt.name.text)
        ++ rebuilt.stop.messages left)
  | .error (.alreadyDefined name) => ["Creating class " ++ name]
  | .error (.noNamespace name) => ["Creating class " ++ name]
  | .error _ => []

variable {table : Structure} {classed filled : Project}

theorem Completes.walk_tells (indexed : project.Indexed)
    (completes :
      Completes project address dialect rebuilt table classed filled last) :
    (MethodTable.walk dialect.tag rebuilt.name.text rebuilt.parent
      rebuilt.record.tableBase
        dialect.maxSlots).Tells Project.host classed dialect.tag
        (rebuilt.slots.flatMap (Slot.messages rebuilt.name.text)
          ++ rebuilt.stop.messages last)
      ∧ ∀ slot target, rebuilt.stop = .noFunction slot target →
        last.functionAt? target = none := by
  rw [completes.filled_frame, WalkEnd.messages_withTypes]
  exact MethodTable.walkFrom_tells rebuilt.record.tableBase
    (completes.classed_indexed indexed)
    completes.parent_known dialect.maxSlots.toNat 0 _ completes.walked

theorem Completes.tells (indexed : project.Indexed)
    (completes :
      Completes project address dialect rebuilt table classed filled last) :
    (stages address dialect).Tells Project.host project dialect.tag
      (progress last (.ok rebuilt)) := by
  obtain ⟨tells, _⟩ := completes.walk_tells indexed
  rw [stages, progress]
  apply (record_silent address dialect).tells_bind
    (read_result_of_ok completes.record)
  apply (name_silent _).tells_bind (name_result_of_ok completes.name)
  apply (checked_silent _).tells_bind
    (checked_result_of_accepted completes.accepted _)
  apply Attempt.tells_write_bind
  apply (created_silent _).tells_bind completes.created
  apply Attempt.tells_bind_silent (Attempt.tells_lift tells)
  intro walk
  refine .bind (stored_silent _ _) fun types => ?_
  exact .bind (.lift (Script.silent_log _ _)) fun _ => .pure _

theorem Refused.tells (root : (project.namespace? .global).isSome)
    (refused : Refused project address dialect cause last) :
    (stages address dialect).Tells Project.host project dialect.tag
      (progress last (.error cause)) := by
  rw [stages]
  cases refused with
  | record unread =>
      exact Attempt.tells_bind_of_error (record_silent address dialect _ _ _)
        (read_result_of_error unread)
  | @name record _ readable unnamed =>
      have untold :
          progress (project.afterName record.nameAddress) (.error cause)
            = [] := by
        rcases Project.nameAt_eq_error unnamed
          with ⟨failure, rfl⟩ | ⟨failure, rfl⟩
        · rfl
        · rfl
      rw [untold]
      apply (record_silent address dialect).tells_bind
        (read_result_of_ok readable)
      exact Attempt.tells_bind_of_error (name_silent _ _ _ _)
        (name_result_of_error unnamed)
  | check readable named refused =>
      apply (record_silent address dialect).tells_bind
        (read_result_of_ok readable)
      apply (name_silent _).tells_bind (name_result_of_ok named)
      exact Attempt.tells_bind_of_error (checked_silent _ _ _ _)
        (checked_result_of_refused refused _)
  | @created record name _ _ readable named accepted refused =>
      rw [← project.namespace?_afterName record.nameAddress] at root
      have told : progress last (.error cause)
          = ["Creating class " ++ name.text] := by
        rcases ClassNamespace.create_eq_error root refused with rfl | rfl
        · rfl
        · rfl
      rw [told]
      apply (record_silent address dialect).tells_bind
        (read_result_of_ok readable)
      apply (name_silent _).tells_bind (name_result_of_ok named)
      apply (checked_silent _).tells_bind
        (checked_result_of_accepted accepted _)
      apply Attempt.tells_write_bind
      exact Attempt.tells_bind_of_error (created_silent _ _ _ _) refused

/-- What the analyst is told of a rebuild with an outcome, which left
a certain project. -/
def messages (left : Project) : Except RebuildError RebuiltClass → List String
  | .ok rebuilt => ("Creating class " ++ rebuilt.name.text)
      :: (rebuilt.slots.flatMap (Slot.messages rebuilt.name.text)
        ++ rebuilt.stop.messages left)
  | .error (.metadataUnreadable _) => []
  | .error (.badClassName name expected) =>
      ["Expected class to be prefixed with " ++ expected
        ++ ", class name given was " ++ name ++ "."]
  | .error (.alreadyDefined name) =>
      ["Creating class " ++ name, "Class " ++ name
        ++ " already exists, stopping"]
  | .error (.noNamespace name) => ["Creating class " ++ name]
  | .error (.host cause) => ["Host error: " ++ cause.message]

def popups : Except RebuildError RebuiltClass → List String
  | .error (.metadataUnreadable _) => [unreadableMessage]
  | _ => []

/-- Whether a transcript shows the analyst what belongs to an outcome. -/
structure Shows (transcript : Transcript) (tag : String) (left : Project)
    (outcome : Except RebuildError RebuiltClass) : Prop where
  lines : transcript.lines = (messages left outcome).map fun message =>
    "[" ++ tag ++ "] " ++ message
  popups : transcript.popups = popups outcome

/-- The report of a failure completes what was told on the way to it. -/
theorem Shows.of_report {transcript : Transcript} {left : Project}
    (tells : transcript.Tells dialect.tag (progress left (.error cause))) :
    Shows (transcript ++ report address dialect cause) dialect.tag left
      (.error cause) := by
  constructor
  · rw [Transcript.lines_append, tells.lines]
    cases cause with
    | _ => rfl
  · rw [Transcript.popups_append, tells.popups]
    cases cause with
    | _ => rfl

end Rebuild

theorem rebuild_events_of_error
    (ran : (Rebuild.stages address dialect).result Project.host project
      = (.error cause, last)) :
    (rebuild address dialect Project.host project).events
      = ((Rebuild.stages address dialect).outcome Project.host project).events
        ++ Rebuild.report address dialect cause := by
  obtain ⟨value, rfl⟩ := Prod.mk.inj ran
  rw [rebuild, Script.bind_events]
  simp only [value]
  exact congrArg _ (List.append_nil _)

theorem rebuild_events_of_ok
    (ran : (Rebuild.stages address dialect).result Project.host project
      = (.ok rebuilt, last)) :
    (rebuild address dialect Project.host project).events
      = ((Rebuild.stages address dialect).outcome Project.host
        project).events := by
  obtain ⟨value, rfl⟩ := Prod.mk.inj ran
  rw [rebuild, Script.bind_events]
  simp only [value]
  exact List.append_nil _

theorem rebuild_shows (reachable : project.Reachable) (address : Address)
    (dialect : Dialect) :
    Rebuild.Shows
      (rebuild address dialect Project.host project).events dialect.tag
      (rebuild address dialect Project.host project).state
      (rebuild address dialect Project.host project).value := by
  rw [rebuild_value, rebuild_state]
  rcases ran : (Rebuild.stages address dialect).result Project.host project
    with ⟨cause | rebuilt, last⟩
  · rw [rebuild_events_of_error ran]
    exact .of_report
      ((Rebuild.stages_eq_error_iff.1 ran).tells reachable.rooted.global_known)
  · obtain ⟨table, classed, filled, completes⟩ := Rebuild.stages_eq_ok_iff.1 ran
    have tells := completes.tells reachable.indexed
    rw [rebuild_events_of_ok ran]
    exact ⟨tells.lines, tells.popups⟩

/-- What a rebuild of a reachable project shows on the console is determined by
its outcome.  Where the walk ended because no function can be at a target,
there is none, so the name that is told for the target is the one that a new
function would have got. -/
theorem rebuild_console_eq (reachable : project.Reachable) (address : Address)
    (dialect : Dialect) :
    let run := rebuild address dialect Project.host project
    run.events.lines
        = (Rebuild.messages run.state run.value).map
          (fun message => "[" ++ dialect.tag ++ "] " ++ message)
      ∧ run.events.popups = Rebuild.popups run.value
      ∧ ∀ rebuilt slot target, run.value = .ok rebuilt →
        rebuilt.stop = .noFunction slot target →
        run.state.functionAt? target = none := by
  intro run
  have shows := rebuild_shows reachable address dialect
  refine ⟨shows.lines, shows.popups, ?_⟩
  intro rebuilt slot target built stop
  obtain ⟨table, classed, filled, completes⟩ := Rebuild.value_eq_ok_iff.1 built
  exact (completes.walk_tells reachable.indexed).2 slot target stop

theorem rebuild_console_tabled :
    (rebuild (.ofNat 4096) .compact Project.host .tabled).events.lines
        = ["[Dhrake] Creating class TA",
          "[Dhrake] defining function at 0x00001000, name FUN_00001000",
          "[Dhrake] adding function TA::FUN_00001000",
          "[Dhrake] adding function TA::Known",
          "[Dhrake] adding function TA::FUN_00001000",
          "[Dhrake] defining function at 0x00000000, name FUN_00000000"]
      ∧ (rebuild (.ofNat 4096) .compact Project.host .tabled).events.popups
        = [] := by
  obtain ⟨lines, popups, _⟩ :=
    rebuild_console_eq Project.tabled_reachable (.ofNat 4096) .compact
  rw [lines, popups]
  exact ⟨by decide +kernel, by decide +kernel⟩

end DelphiRtti
