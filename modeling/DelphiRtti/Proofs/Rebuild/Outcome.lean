import DelphiRtti.Proofs.Rebuild.Stages

/-!
# What a rebuild comes to on a project

The outcome is decided by the state that the rebuild begins with: the
checks come in a fixed order, and once the class has its namespace nothing
fails any more.  A rebuild that fails leaves at most its mark on the
listing around the name.
-/

namespace DelphiRtti

open Text

/-- Whether a name begins as a dialect's class names do. -/
def ClassName.Accepted (name : ClassName) (dialect : Dialect) : Prop :=
  ∃ first rest, latinText name.bytes = first :: rest
    ∧ ∃ capital ∈ capitals first, capital ∈ dialect.classPrefixes

theorem ClassName.hasAcceptedPrefix_iff {name : ClassName} {dialect : Dialect} :
    name.hasAcceptedPrefix dialect = true ↔ name.Accepted dialect := by
  rw [hasAcceptedPrefix, Accepted]
  cases latinText name.bytes with
  | nil => simp
  | cons first rest => simp

instance (name : ClassName) (dialect : Dialect) :
    Decidable (name.Accepted dialect) :=
  decidable_of_iff _ ClassName.hasAcceptedPrefix_iff

theorem ClassName.check_eq (name : ClassName) (dialect : Dialect) :
    name.check dialect
      = if name.Accepted dialect then .ok ()
        else .error (.badClassName name.text dialect.prefixList) := by
  simp only [check, hasAcceptedPrefix_iff]

namespace Project

/-- What a rebuild decides before it walks the table. -/
def classAt (project : Project) (address : Address) (dialect : Dialect) :
    Except RebuildError (ClassRecord × ClassName × NamespaceId) := do
  let record ← (project.image.recordAt address dialect).mapError
      .metadataUnreadable
  let name ← project.nameAt record.nameAddress
  (if name.Accepted dialect then .ok () else
    .error (.badClassName name.text dialect.prefixList))
  let parent ← project.classNamespace name.text
  return (record, name, parent)

def afterFailure (project : Project) (address : Address)
    (dialect : Dialect) : Project :=
  match project.image.recordAt address dialect with
  | .ok record => project.afterName record.nameAddress
  | .error _ => project

end Project

/-- The class of a rebuild, as far as it is known before the walk. -/
def RebuiltClass.key (rebuilt : RebuiltClass) :
    ClassRecord × ClassName × NamespaceId :=
  (rebuilt.record, rebuilt.name, rebuilt.parent)

variable {project : Project}

namespace MethodTable

theorem storeTypes_result (className : String) (table : Structure) :
    ∃ types after, (storeTypes className table).result Project.host project
      = (.ok types, after) :=
  ⟨_, _, storeTypes_result_eq className table⟩

end MethodTable

theorem Project.withClass_of_error {name : String} {cause : RebuildError}
    (refused : project.classNamespace name = .error cause) :
    project.withClass name = project := by
  rw [classNamespace] at refused
  rw [withClass]
  cases found : project.namedNamespace? .global name with
  | some entry =>
      simp only [found] at refused ⊢
      cases kind : entry.2.kind with
      | plain => simp [kind] at refused
      | _ => rfl
  | none =>
      simp only [found] at refused ⊢
      split at refused
      case isTrue taken => exact if_pos taken
      case isFalse => cases refused

theorem Project.classNamespace_afterName (project : Project) (start : Address)
    (name : String) :
    (project.afterName start).classNamespace name
      = project.classNamespace name := by
  rw [afterName_frame]
  rfl

namespace Rebuild

theorem checked_result {σ : Type} (dialect : Dialect) (name : ClassName)
    {host : Host σ} (state : σ) :
    (stages.liftExcept (name.check dialect)).result host state
      = (if name.Accepted dialect then .ok ()
          else .error (.badClassName name.text dialect.prefixList), state) := by
  rw [stages.liftExcept, name.check_eq, Attempt.result_ofScript,
    Script.pure_apply]

theorem created_afterName (rooted : project.Rooted)
    (numbered : project.namespaces.length < wordBound) (start : Address)
    (name : ClassName) :
    (ClassNamespace.create name).result Project.host (project.afterName start)
      = (project.classNamespace name.text,
        (project.afterName start).withClass name.text) := by
  -- The namespace stage decides by what the rebuild began with, for placing
  -- a name touches the listing alone.
  have rootedAfter : (project.afterName start).Rooted := by
    rw [Project.afterName_frame]
    exact rooted.congr rfl
  have numberedAfter : (project.afterName start).namespaces.length
      < wordBound := by
    rw [Project.afterName_frame]
    exact numbered
  rw [← project.classNamespace_afterName start]
  exact ClassNamespace.create_result rootedAfter numberedAfter name

theorem stages_decide (rooted : project.Rooted)
    (numbered : project.namespaces.length < wordBound) (address : Address)
    (dialect : Dialect) :
    (stages address dialect).Decides Project.host project RebuiltClass.key
      (project.classAt address dialect)
        (project.afterFailure address dialect) := by
  refine Attempt.decides_bind
    (by rw [Attempt.result_mapError, ClassRecord.read_result]) ?_ ?_
  · intro cause failure
    cases record : project.image.recordAt address dialect with
    | error => simp only [Project.afterFailure, record]
    | ok => simp [record] at failure
  intro record found
  have failed : project.afterFailure address dialect
      = project.afterName record.nameAddress := by
    cases known : project.image.recordAt address dialect with
    | error => simp [known] at found
    | ok other =>
        simp only [known, mapError_ok, Except.ok.injEq] at found
        simp only [Project.afterFailure, known, found]
  rw [failed]
  refine Attempt.decides_bind (ClassName.read_result _) (fun _ _ => rfl) ?_
  intro name _
  refine Attempt.decides_bind (checked_result dialect name _)
    (fun _ _ => rfl) ?_
  intro _ _
  refine Attempt.decides_lift_bind ?_
  refine Attempt.decides_bind
    (created_afterName rooted numbered record.nameAddress name) ?_ ?_
  · intro _ refused
    exact Project.withClass_of_error
      ((project.classNamespace_afterName ..).trans refused)
  intro parent _
  refine Attempt.decides_lift_bind ?_
  obtain ⟨types, after, stored⟩ := MethodTable.storeTypes_result name.text _
  -- From here on nothing fails on a project, so the decision has been made.
  change Attempt.Decides _ _ _ _ (Except.ok types >>= fun _ =>
    .ok (record, name, parent)) _
  refine Attempt.decides_bind
    (by rw [Attempt.result_mapError, stored]; rfl) nofun ?_
  intro _ _
  refine Attempt.decides_lift_bind ?_
  exact Attempt.decides_pure _

end Rebuild

theorem rebuild_result {σ : Type} (address : Address) (dialect : Dialect)
    (host : Host σ) (state : σ) :
    ((rebuild address dialect host state).value,
      (rebuild address dialect host state).state)
      = (Rebuild.stages address dialect).result host state := by
  simp only [rebuild, Script.bind_value, Script.bind_state, Attempt.result]
  cases (Attempt.outcome (Rebuild.stages address dialect) host state).value with
  | ok rebuilt => rfl
  | error failure => rfl

theorem rebuild_value {σ : Type} (address : Address) (dialect : Dialect)
    (host : Host σ) (state : σ) :
    (rebuild address dialect host state).value
      = ((Rebuild.stages address dialect).result host state).1 :=
  congrArg Prod.fst (rebuild_result ..)

theorem rebuild_state {σ : Type} (address : Address) (dialect : Dialect)
    (host : Host σ) (state : σ) :
    (rebuild address dialect host state).state
      = ((Rebuild.stages address dialect).result host state).2 :=
  congrArg Prod.snd (rebuild_result ..)

/-- On every project that can be reached, and while the numbers of namespaces
suffice, a rebuild comes to what `Project.classAt` decides: the record, the name
and the namespace of the class, or the first failure of a fixed order of checks.
The walk and the storing of the structures add no failure. -/
theorem rebuild_outcome_eq_classAt (reachable : project.Reachable)
    (numbered : project.namespaces.length < wordBound) (address : Address)
    (dialect : Dialect) :
    (rebuild address dialect Project.host project).value.map RebuiltClass.key
      = project.classAt address dialect := by
  rw [rebuild_value]
  exact (Rebuild.stages_decide reachable.rooted numbered address
    dialect).outcome

def Region.smallImage : Region :=
  ⟨"image", .ofNat 4096, #[0, 0, 0, 0, 8, 16, 0, 0, 2, 84, 65],
    ⟨true, false, false⟩⟩

def Project.small : Project := .perform (.map .smallImage) .empty

/-- A dialect whose records are two words long. -/
def Dialect.compact : Dialect := { Dialect.standard with nameOffset := 4 }

theorem rebuild_outcome_small :
    Project.small.Reachable ∧ Project.small.namespaces.length < wordBound
      ∧ (rebuild (.ofNat 4096) .compact Project.host .small).value.map
        RebuiltClass.key
        = .ok (⟨.ofNat 4096, .ofNat 0, .ofNat 4104⟩, ⟨[84, 65]⟩,
          .ofPosition 1) :=
  ⟨.perform _ .empty, by decide,
    (rebuild_outcome_eq_classAt (.perform _ .empty) (by decide) _ _).trans
      (by rfl)⟩

theorem Project.afterName_agrees (keyed : project.listing.Keyed)
    (start : Address) :
    project.listing.AgreeAwayFrom start (project.afterName start).listing := by
  have cleared := Listing.agreeAwayFrom_clear project.listing start
  rw [afterName]
  split
  case h_1 placed created =>
      obtain ⟨length, _, _, _, _, rfl⟩ := createData_eq_ok created
      exact cleared.insert keyed length .pascalString
  case h_2 => exact cleared

theorem rebuild_value_of_refused
    (rooted : project.Rooted) (numbered : project.namespaces.length < wordBound)
    {address : Address} {dialect : Dialect} {cause : RebuildError}
    (refused : project.classAt address dialect = .error cause) :
    (rebuild address dialect Project.host project).value = .error cause := by
  have outcome :=
    (Rebuild.stages_decide rooted numbered address dialect).outcome
  rw [refused, ← rebuild_value] at outcome
  cases result : (rebuild address dialect Project.host project).value with
  | error other =>
      rw [result] at outcome
      cases outcome
      rfl
  | ok rebuilt =>
      rw [result] at outcome
      cases outcome

theorem rebuild_state_of_error (reachable : project.Reachable)
    (numbered : project.namespaces.length < wordBound)
    {address : Address} {dialect : Dialect} {cause : RebuildError}
    (failed : (rebuild address dialect Project.host project).value
      = .error cause) :
    (rebuild address dialect Project.host project).state
      = project.afterFailure address dialect := by
  have decides :=
    Rebuild.stages_decide reachable.rooted numbered address dialect
  rw [rebuild_value] at failed
  rw [rebuild_state]
  refine decides.state cause ?_
  rw [← decides.outcome, failed]
  rfl

/-- A rebuild that fails changes nothing but the listing, and the listing only
in items that start at the name or cover its first byte.  Where the record could
not be read, the listing is unchanged too. -/
theorem failed_rebuild_changes_listing_only (reachable : project.Reachable)
    (numbered : project.namespaces.length < wordBound)
    {address : Address} {dialect : Dialect} {cause : RebuildError}
    (failed :
      (rebuild address dialect Project.host project).value = .error cause) :
    (rebuild address dialect Project.host project).state
        = { project with
            listing :=
              (rebuild address dialect Project.host project).state.listing }
      ∧ match project.image.recordAt address dialect with
        | .error _ =>
            (rebuild address dialect Project.host project).state.listing
          = project.listing
        | .ok record => project.listing.AgreeAwayFrom record.nameAddress
            (rebuild address dialect Project.host project).state.listing := by
  rw [rebuild_state_of_error reachable numbered failed, Project.afterFailure]
  cases project.image.recordAt address dialect with
  | error unreadable => exact ⟨rfl, rfl⟩
  | ok record => exact ⟨Project.afterName_frame ..,
    Project.afterName_agrees reachable.keyed _⟩

def Dialect.closed : Dialect := { Dialect.compact with classPrefixes := [] }

theorem failed_rebuild_small :
    (rebuild (.ofNat 4096) .closed Project.host .small).value = .error
    (.badClassName "TA" "")
      ∧ (rebuild (.ofNat 4096) .closed Project.host .small).state
        = { Project.small with
            listing := (rebuild
              (.ofNat 4096) .closed Project.host .small).state.listing }
      ∧ Project.small.listing.AgreeAwayFrom (.ofNat 4104)
        (rebuild (.ofNat 4096) .closed Project.host .small).state.listing := by
  have reachable : Project.small.Reachable := .perform _ .empty
  have refused : Project.small.classAt (.ofNat 4096) .closed
      = .error (.badClassName "TA" "") := rfl
  have failed := rebuild_value_of_refused reachable.rooted (by decide) refused
  exact ⟨failed,
    failed_rebuild_changes_listing_only reachable (by decide) failed⟩

end DelphiRtti
