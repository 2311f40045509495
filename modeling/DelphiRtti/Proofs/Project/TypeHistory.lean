import DelphiRtti.Proofs.Project.Classes
import DelphiRtti.Proofs.Project.Types
import DelphiRtti.Proofs.Rebuild.Session

/-!
# The stored types after a session

Types are added to a project by requests of their own and by rebuilds, which
make such requests, too.  Whatever else happens in between, what is stored under
a name is determined by the additions of types of this name: it is the last one
that was to replace, or else the first one that was to be kept.
-/

namespace DelphiRtti

/-- A type that is added to a project, and what becomes of a stored
type of its name. -/
structure Addition where
  dataType : DataType
  policy : ConflictPolicy
deriving DecidableEq

def Request.addition? : Request → Option Addition
  | .addType dataType policy => some ⟨dataType, policy⟩
  | _ => none

namespace Addition

/-- The last type of a name that was to replace the stored one. -/
def lastReplacing (name : String) (history : List Addition) : Option DataType :=
  (history.filter fun addition =>
    addition.policy = .replace
      && addition.dataType.name = name).getLast?.map Addition.dataType

/-- The first type of a name that was to give way to a stored one. -/
def firstKept (name : String) (history : List Addition) : Option DataType :=
  (history.filter fun addition =>
    addition.policy = .keep
      && addition.dataType.name = name).head?.map Addition.dataType

/-- What is stored under a name after some additions, where `before` is
what was stored at first. -/
def stored (name : String) (before : Option DataType)
    (history : List Addition) : Option DataType :=
  (lastReplacing name history).or (before.or (firstKept name history))

theorem lastReplacing_append (name : String) (earlier later : List Addition) :
    lastReplacing name (earlier ++ later)
      = (lastReplacing name later).or (lastReplacing name earlier) := by
  simp [lastReplacing, List.getLast?_append, Option.map_or]

theorem firstKept_append (name : String) (earlier later : List Addition) :
    firstKept name (earlier ++ later)
      = (firstKept name earlier).or (firstKept name later) := by
  simp [firstKept, List.head?_append, Option.map_or]

theorem stored_nil (name : String) (before : Option DataType) :
    stored name before [] = before := by
  simp [stored, lastReplacing, firstKept]

theorem stored_replace (name : String) (before : Option DataType)
    (dataType : DataType) :
    stored name before [⟨dataType, .replace⟩]
      = if dataType.name = name then some dataType else before := by
  by_cases same : dataType.name = name
  · simp [stored, lastReplacing, firstKept, same]
  · simp [stored, lastReplacing, firstKept, same]

theorem stored_keep (name : String) (before : Option DataType)
    (dataType : DataType) :
    stored name before [⟨dataType, .keep⟩]
      = before.or (if dataType.name = name then some dataType else none) := by
  by_cases same : dataType.name = name
  · simp [stored, lastReplacing, firstKept, same]
  · simp [stored, lastReplacing, firstKept, same]

/-- A history starts from what an earlier one left behind. -/
theorem stored_append (name : String) (before : Option DataType)
    (earlier later : List Addition) :
    stored name before (earlier ++ later)
      = stored name (stored name before earlier) later := by
  simp only [stored, lastReplacing_append, firstKept_append, Option.or_assoc]

end Addition

namespace Project

variable {project next last : Project}

/-- Whether a project has exactly the types that some additions lead to from
those of another one. -/
def Adds (project : Project) (history : List Addition)
    (next : Project) : Prop :=
  ∀ name, next.type? name = Addition.stored name (project.type? name) history

theorem adds_of_types_eq (same : next.types = project.types) :
    project.Adds [] next := by
  intro name
  rw [Addition.stored_nil, type?, type?, same]

theorem Adds.append {earlier later : List Addition}
    (first : project.Adds earlier next) (second : next.Adds later last) :
    project.Adds (earlier ++ later) last := by
  intro name
  rw [Addition.stored_append, ← first name, second name]

/-- One addition stores its type, unless another one of its name is to
be kept. -/
theorem adds_addType (project : Project) (dataType : DataType)
    (policy : ConflictPolicy) :
    project.Adds [⟨dataType, policy⟩] (project.addType dataType policy).2 := by
  intro name
  cases policy with
  | replace =>
      rw [Addition.stored_replace]
      exact project.type?_withType dataType name
  | keep =>
      rw [Addition.stored_keep]
      exact project.type?_addType_keep dataType name

theorem type?_addType_of_ne
    {name : String} {dataType : DataType} (other : name ≠ dataType.name)
    (project : Project) (policy : ConflictPolicy) :
    (project.addType dataType policy).2.type? name = project.type? name := by
  rw [project.adds_addType dataType policy name]
  cases policy with
  | replace => simp [Addition.stored_replace, other.symm]
  | keep => simp [Addition.stored_keep, other.symm]

theorem types_updateFunction (project : Project)
    (id : FunctionId) (change : FunctionRecord → FunctionRecord) :
    (project.updateFunction id change).types = project.types := by
  rw [updateFunction]
  split
  · rfl
  · rfl

theorem types_addFunction {entry : Address}
    {name : String} {signature : Signature} {source : Source} {id : FunctionId}
    (added : project.addFunction entry name signature source = .ok (id, next)) :
    next.types = project.types := by
  rw [addFunction] at added
  split at added
  case isTrue => cases added
  case isFalse =>
      cases added
      rfl

theorem types_map {region : Region} (mapped : project.map region = .ok next) :
    next.types = project.types := by
  rw [Project.map] at mapped
  split at mapped
  case h_1 =>
      cases mapped
      rfl
  case h_2 => cases mapped

theorem types_addLibrary (project : Project) (name : String) :
    (project.addLibrary name).2.types = project.types := by
  rw [addLibrary]
  split
  case h_1 => rfl
  case h_2 => rfl

theorem types_settle {ε α : Type} {result : Except ε (α × Project)}
    (kept : ∀ value next, result = .ok (value, next) → next.types
      = project.types) : (project.settle result).2.types = project.types := by
  cases result with
  | ok pair => exact kept pair.1 pair.2 rfl
  | error => rfl

theorem types_settleUnit {ε : Type} {result : Except ε Project}
    (kept : ∀ next, result = .ok next → next.types = project.types) :
    (project.settleUnit result).2.types = project.types := by
  cases result with
  | ok next => exact kept next rfl
  | error => rfl

theorem types_createData {address : Address} {dataType : DataType}
    (created : project.createData address dataType = .ok next) :
    next.types = project.types := by
  obtain ⟨_, _, _, _, _, rfl⟩ := createData_eq_ok created
  rfl

theorem types_convertToClass {id : NamespaceId} {found : Option NamespaceId}
    (converted : project.convertToClass id = .ok (found, next)) :
    next.types = project.types := by
  rw [convertToClass] at converted
  split at converted
  case h_1 => cases converted
  case h_2 record known =>
      split at converted
      case h_1 =>
          cases converted
          rfl
      case h_2 => cases converted
      case h_3 =>
          cases converted
          rfl
      case h_4 =>
          cases converted
          rfl

theorem types_createFunction {entry : Address}
    {name : String} {found : Option FunctionId}
    (created : project.createFunction entry name = .ok (found, next)) :
    next.types = project.types := by
  rw [createFunction] at created
  split at created
  case isTrue =>
      cases created
      rfl
  case isFalse =>
      split at created
      case h_1 id added result =>
          cases created
          exact types_addFunction result
      case h_2 => cases created

theorem types_setParent {function : FunctionId} {parent : NamespaceId}
    (filed : project.setParent function parent = .ok next) :
    next.types = project.types := by
  rw [setParent] at filed
  split at filed
  case h_1 => cases filed
  case h_2 => cases filed
  case h_3 =>
      cases filed
      exact types_updateFunction project function _

theorem types_respond
    {request : Request} (addsNothing : request.addition? = none) :
    (project.respond request).2.types = project.types := by
  cases request with
  | createData address dataType =>
      exact types_settleUnit fun _ created => types_createData created
  | findOrCreateNamespace parent name source =>
      apply types_settle
      intro id next created
      rw [findOrCreateNamespace_frame created]
  | convertToClass id =>
      exact types_settle fun _ _ converted => types_convertToClass converted
  | createFunction entry name =>
      exact types_settle fun _ _ created => types_createFunction created
  | setParent function parent =>
      exact types_settleUnit fun _ filed => types_setParent filed
  | addType dataType policy => simp [Request.addition?] at addsNothing
  | _ => rfl

theorem adds_respond (project : Project) (request : Request) :
    project.Adds request.addition?.toList (project.respond request).2 := by
  cases asked : request.addition? with
  | none => exact adds_of_types_eq (types_respond asked)
  | some addition =>
      cases request with
      | addType dataType policy =>
          obtain rfl : ⟨dataType, policy⟩ = addition := by
            simpa [Request.addition?] using asked
          exact project.adds_addType dataType policy
      | _ => simp [Request.addition?] at asked

theorem adds_answers {exchanges : List Exchange}
    (answers : host.Answers project exchanges last) :
    project.Adds
      ((exchanges.map Exchange.request).filterMap Request.addition?) last := by
  induction answers with
  | nil => exact adds_of_types_eq rfl
  | @cons state request rest last answers induction =>
      have first := adds_respond state request
      have both := first.append induction
      cases asked : request.addition? with
      | none => simpa [asked] using both
      | some addition => simpa [asked] using both

def Operation.additions : Operation → Project → List Addition
  | .answer request, _ => request.addition?.toList
  | .rebuild address dialect, project =>
      (DelphiRtti.rebuild address dialect host
        project).events.requests.filterMap Request.addition?
  | _, _ => []

/-- The types that some operations in a row add, in order. -/
def additions : List Operation → Project → List Addition
  | [], _ => []
  | operation :: later, project =>
      operation.additions project ++ additions later (perform operation project)

theorem adds_rebuild (project : Project) (address : Address)
    (dialect : Dialect) :
    project.Adds ((Operation.rebuild address dialect).additions project)
      (DelphiRtti.rebuild address dialect host project).state := by
  obtain ⟨exchanges, _, made, _⟩ := rebuild_follows address dialect host project
  rw [Operation.additions, made.requests]
  exact adds_answers made.answers

theorem adds_perform (operation : Operation) (project : Project) :
    project.Adds (operation.additions project) (perform operation project) := by
  cases operation with
  | map region =>
      apply adds_of_types_eq
      rw [perform]
      split
      case h_1 mapped => exact types_map mapped
      case h_2 => rfl
  | addLabel address label => exact adds_of_types_eq rfl
  | addFunction entry name signature source =>
      apply adds_of_types_eq
      rw [perform]
      split
      case h_1 added => exact types_addFunction added
      case h_2 => rfl
  | editFunction id change =>
      exact adds_of_types_eq (types_updateFunction project id change)
  | addLibrary name => exact adds_of_types_eq (types_addLibrary project name)
  | answer request => exact project.adds_respond request
  | rebuild address dialect => exact project.adds_rebuild address dialect

theorem adds_performAll (operations : List Operation) (project : Project) :
    project.Adds (additions operations project)
      (performAll operations project) := by
  induction operations generalizing project with
  | nil => exact adds_of_types_eq rfl
  | cons operation later induction =>
      exact (adds_perform operation project).append (induction _)

/-- After any session that begins with the empty project, the last type of a
name that was to replace is stored under this name, or else the first one that
was to be kept, and every type is stored under its own name.  An addition always
succeeds, gives the type that is then stored under the name of the added one,
and touches no other name. -/
theorem stored_types_follow_policies (operations : List Operation) :
    (∀ name, (performAll operations .empty).type? name
        = (Addition.lastReplacing name (additions operations .empty)).or
          (Addition.firstKept name (additions operations .empty)))
      ∧ (∀ name dataType, (performAll operations .empty).type? name
        = some dataType → dataType.name = name)
      ∧ ∀ (before : Project) (dataType : DataType) (policy : ConflictPolicy),
        ∃ stored after,
        before.respond (.addType dataType policy) = (.ok stored, after)
          ∧ after.type? dataType.name = some stored
          ∧ ∀ name, name ≠ dataType.name →
            after.type? name = before.type? name := by
  refine ⟨?_, ?_, ?_⟩
  · intro name
    have nothing : empty.type? name = none := SortedMap.get?_empty name
    have settled := adds_performAll operations .empty name
    simpa [Addition.stored, nothing] using settled
  · intro name dataType found
    exact (Reachable.empty.performAll operations).typesNamed found
  · intro before dataType policy
    refine ⟨_, _, rfl, type?_addType_name before dataType policy, ?_⟩
    intro name other
    exact type?_addType_of_ne other before policy

/-- A rebuild adds the function types of its slots, which are to be kept, and
then its two structures. -/
example : (additions tabledSession .empty).map
    (fun addition => (addition.dataType.name, addition.policy))
    = [("FUN_00001000", .keep), ("FUN_00001004", .keep),
      ("FUN_00001000", .keep), ("TAVT", .replace), ("TA", .replace),
      ("FUN_00001000", .keep), ("TBVT", .replace), ("TB", .replace)] := by
  decide +kernel

end Project

end DelphiRtti
