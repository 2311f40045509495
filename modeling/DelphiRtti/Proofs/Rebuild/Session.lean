import DelphiRtti.Proofs.Rebuild.Success

/-!
# Classes built in a session

In a session, rebuilds and other operations follow each other in any order.  A
class that was built stays a class under its name and its number, so no later
rebuild builds a class of that name or with that number.
-/

namespace DelphiRtti

open Text

namespace Project

/-- The class that an operation builds, if it is a rebuild that succeeds. -/
def Operation.built? : Operation → Project → Option RebuiltClass
  | .rebuild address dialect, project =>
      (DelphiRtti.rebuild address dialect host project).value.toOption
  | _, _ => none

def performAll : List Operation → Project → Project
  | [], project => project
  | operation :: later, project => performAll later (perform operation project)

variable {project : Project}

theorem performAll_keeps {property : Project → Prop}
    (kept : ∀ {before after : Project}, property before →
      Change before after → property after)
    (operations : List Operation) (initially : property project) :
    property (performAll operations project) := by
  induction operations generalizing project with
  | nil => exact initially
  | cons operation later induction =>
      exact induction (perform_keeps kept operation initially)

theorem Reachable.performAll
    (reachable : project.Reachable) (operations : List Operation) :
    (Project.performAll operations project).Reachable := by
  induction operations generalizing project with
  | nil => exact reachable
  | cons operation later induction =>
      exact induction (.perform operation reachable)

/-- The classes that some operations in a row build, in the order of
the operations. -/
def classesBuilt : List Operation → Project → List RebuiltClass
  | [], _ => []
  | operation :: later, project =>
      (operation.built? project).toList
        ++ classesBuilt later (perform operation project)

end Project

open Project

/-- Whether a class that was built can still be found by its name and has its
number.  As long as every namespace has a number of its own, the record with
that number bears that name. -/
def RebuiltClass.StandsIn (rebuilt : RebuiltClass) (project : Project) : Prop :=
  ∃ record, project.HasClass rebuilt.name.text rebuilt.parent record
    ∧ (project.namespaces.length ≤ wordBound →
      record.name = rebuilt.name.text ∧ record.parent = .global)

/-- Whether two classes differ in their names and in their numbers. -/
def RebuiltClass.Apart (earlier later : RebuiltClass) : Prop :=
  earlier.name.bytes ≠ later.name.bytes ∧ earlier.parent ≠ later.parent

variable {project next : Project} {rebuilt earlier : RebuiltClass}
  {address : Address} {dialect : Dialect}

namespace RebuiltClass.StandsIn

theorem change (stands : rebuilt.StandsIn project)
    (change : Change project next) : rebuilt.StandsIn next := by
  obtain ⟨record, has, named⟩ := stands
  refine ⟨record, has.change change, ?_⟩
  intro numbered
  apply named
  exact Nat.le_trans change.length_le numbered

theorem perform (stands : rebuilt.StandsIn project) (operation : Operation) :
    rebuilt.StandsIn (Project.perform operation project) :=
  perform_keeps StandsIn.change operation stands

theorem performAll
    (stands : rebuilt.StandsIn project) (operations : List Operation) :
    rebuilt.StandsIn (Project.performAll operations project) :=
  performAll_keeps StandsIn.change operations stands

end RebuiltClass.StandsIn

theorem rebuilt_standsIn (reachable : project.Reachable)
    (built :
      (rebuild address dialect Project.host project).value = .ok rebuilt) :
    rebuilt.StandsIn (rebuild address dialect Project.host project).state := by
  obtain ⟨table, classed, filled, completes⟩ := Rebuild.value_eq_ok_iff.1 built
  have namespaces := (completes.listsSlots reachable.indexed).namespaces
  obtain ⟨record, has⟩ := completes.gainsClass.hasClass
  refine ⟨record, has.congr namespaces, ?_⟩
  intro numbered
  rw [namespaces] at numbered
  exact (completes.gainsClass.made numbered).record_of_known has.known

theorem RebuiltClass.StandsIn.apart (stands : earlier.StandsIn project)
    (built : (rebuild address dialect Project.host project).value
      = .ok rebuilt) : earlier.Apart rebuilt := by
  obtain ⟨table, classed, filled, completes⟩ := Rebuild.value_eq_ok_iff.1 built
  obtain ⟨record, has, _⟩ := stands
  have hasPlaced :
      (project.afterName rebuilt.record.nameAddress).HasClass
        earlier.name.text earlier.parent record := by
    apply has.congr
    rw [afterName_frame]
  obtain ⟨otherName, otherNumber⟩ := completes.gainsClass.fresh hasPlaced
  constructor
  · intro sameBytes
    apply otherName
    rw [ClassName.text, sameBytes]
    rfl
  · exact otherNumber

theorem Project.Operation.built?_eq_some {operation : Operation}
    (built : operation.built? project = some rebuilt) :
    ∃ address dialect, operation = .rebuild address dialect
      ∧ (DelphiRtti.rebuild address dialect Project.host project).value
        = .ok rebuilt := by
  cases operation with
  | rebuild address dialect =>
      refine ⟨address, dialect, rfl, ?_⟩
      exact toOption_eq_some_iff.1 built
  | _ => cases built

theorem built_standsIn (reachable : project.Reachable) {operation : Operation}
    (built : operation.built? project = some rebuilt) :
    rebuilt.StandsIn (perform operation project) := by
  obtain ⟨address, dialect, rfl, value⟩ := Operation.built?_eq_some built
  exact rebuilt_standsIn reachable value

/-- A class that stands in a project is apart from all that are built
from there on. -/
theorem RebuiltClass.StandsIn.apart_of_mem
    (stands : earlier.StandsIn project) {operations : List Operation}
    (built : rebuilt ∈ classesBuilt operations project) :
    earlier.Apart rebuilt := by
  induction operations generalizing project with
  | nil => cases built
  | cons operation later induction =>
      rcases List.mem_append.1 built with now | afterwards
      · obtain ⟨address, dialect, rfl, value⟩ :=
          Operation.built?_eq_some (Option.mem_toList.1 now)
        exact stands.apart value
      · exact induction (stands.perform operation) afterwards

theorem classesBuilt_pairwise_apart
    (reachable : project.Reachable) (operations : List Operation) :
    (classesBuilt operations project).Pairwise RebuiltClass.Apart := by
  induction operations generalizing project with
  | nil => exact .nil
  | cons operation later induction =>
      have rest := induction (.perform operation reachable)
      rw [classesBuilt]
      cases built : operation.built? project with
      | none => exact rest
      | some first =>
          -- What is built first still stands when any of the later ones is
          -- built.
          apply List.pairwise_cons.2
          refine ⟨?_, rest⟩
          intro other afterwards
          exact (built_standsIn reachable built).apart_of_mem afterwards

theorem standsIn_of_mem_classesBuilt
    (reachable : project.Reachable) {operations : List Operation}
    (built : rebuilt ∈ classesBuilt operations project) :
    rebuilt.StandsIn (performAll operations project) := by
  induction operations generalizing project with
  | nil => cases built
  | cons operation later induction =>
      rcases List.mem_append.1 built with now | afterwards
      · have stands := built_standsIn reachable (Option.mem_toList.1 now)
        exact stands.performAll later
      · exact induction (.perform operation reachable) afterwards

/-- In every session that begins with the empty project, no two rebuilds build
classes of the same name or with the same number, and in the end every number
still stands for a class.  That class bears its name under the global namespace
as long as no number of a namespace is given twice. -/
theorem classes_built_once (operations : List Operation) :
    (classesBuilt operations .empty).Pairwise
        (fun earlier later => earlier.name.bytes ≠ later.name.bytes
          ∧ earlier.parent ≠ later.parent)
      ∧ ∀ rebuilt ∈ classesBuilt operations .empty, ∃ record,
          (performAll operations .empty).namespace? rebuilt.parent = some record
            ∧ record.kind = .ofClass
            ∧ ((performAll operations .empty).namespaces.length ≤ wordBound →
              record.name = rebuilt.name.text ∧ record.parent = .global) := by
  constructor
  · exact classesBuilt_pairwise_apart .empty operations
  · intro rebuilt built
    obtain ⟨record, has, named⟩ := standsIn_of_mem_classesBuilt .empty built
    exact ⟨record, has.known, has.isClass, named⟩

/-- A session that rebuilds both classes of one image, and the first
one a second time. -/
def Project.tabledSession : List Operation :=
  [.map .tabledImage, .rebuild (.ofNat 4096) .compact,
    .rebuild (.ofNat 4104) .compact,
    .rebuild (.ofNat 4096) .compact]

theorem classes_built_once_tabled :
    (classesBuilt tabledSession .empty).map
    (fun rebuilt => (rebuilt.name.text, rebuilt.parent))
        = [("TA", .ofPosition 1), ("TB", .ofPosition 2)]
      ∧ ∀ rebuilt ∈ classesBuilt tabledSession .empty, ∃ record,
          (performAll tabledSession .empty).namespace? rebuilt.parent
            = some record
            ∧ record.name = rebuilt.name.text := by
  constructor
  · decide +kernel
  · intro rebuilt built
    obtain ⟨record, known, _, named⟩ :=
      (classes_built_once tabledSession).2 rebuilt built
    have numbered : (performAll tabledSession .empty).namespaces.length
        ≤ wordBound := by
      decide +kernel
    exact ⟨record, known, (named numbered).1⟩

end DelphiRtti
