import DelphiRtti.Proofs.Project.Forest
import DelphiRtti.Proofs.Rebuild.Session

/-!
# Qualified names

A qualified name is found by climbing from a namespace to its parent until the
global namespace or an unknown one is reached.  In a forest every climb ends,
within as many steps as there are namespaces, and from a known namespace it ends
at the global one, so its names are those on the path down to the namespace.
-/

namespace DelphiRtti

open Text

namespace Project

variable {project : Project} {id : NamespaceId} {record : NamespaceRecord}
  {names : List String}

/-- The climb from a namespace, which has no bound, with the names
that are met on the way. -/
inductive Climbs (project : Project) : NamespaceId → List String → Prop where
  | top : Climbs project .global []
  | lost {id : NamespaceId} (below : id ≠ .global)
      (unknown : project.namespace? id = none) :
      Climbs project id []
  | up {id : NamespaceId} {record : NamespaceRecord} {names : List String}
      (below : id ≠ .global)
      (known : project.namespace? id = some record)
      (rest : Climbs project record.parent names) :
      Climbs project id (record.name :: names)

/-- The names on the path from the global namespace down to a namespace. -/
inductive PathTo (project : Project) : NamespaceId → List String → Prop where
  | root : PathTo project .global []
  | child {id : NamespaceId} {record : NamespaceRecord} {names : List String}
      (below : id ≠ .global)
      (known : project.namespace? id = some record)
      (path : PathTo project record.parent names) :
      PathTo project id (names ++ [record.name])

theorem PathTo.climbs (path : project.PathTo id names) :
    project.Climbs id names.reverse := by
  induction path with
  | root => exact .top
  | child below known _ induction =>
      rw [List.reverse_append]
      exact .up below known induction

theorem PathTo.ne_nil (path : project.PathTo id names) (below : id ≠ .global) :
    names ≠ [] := by
  cases path with
  | root => exact (below rfl).elim
  | child => exact List.append_ne_nil_of_right_ne_nil _ (List.cons_ne_nil _ _)

theorem Climbs.namesUpward_eq (climbs : project.Climbs id names) {steps : Nat}
    (enough : names.length ≤ steps) : project.namesUpward steps id = names := by
  induction climbs generalizing steps with
  | top =>
      cases steps with
      | zero => rfl
      | succ steps => exact if_pos rfl
  | lost below unknown =>
      cases steps with
      | zero => rfl
      | succ steps => rw [namesUpward, if_neg below, unknown]
  | up below known _ induction =>
      cases steps with
      | zero => cases enough
      | succ steps =>
          rw [namesUpward, if_neg below, known]
          exact congrArg (List.cons _)
            (induction (Nat.le_of_succ_le_succ enough))

namespace Forest

theorem parent_below (forest : project.Forest)
    (below : id ≠ .global) (known : project.namespace? id = some record) :
    record.parent.position < id.position :=
  forest.earlier known (NamespaceId.position_ne_zero_iff.2 below)

theorem exists_pathTo
    (forest : project.Forest) (known : (project.namespace? id).isSome) :
    ∃ names, project.PathTo id names := by
  -- Positions get smaller on the way up, so a known namespace is on a path
  -- from the root.
  induction position : id.position using Nat.strong_induction_on
    generalizing id with
  | _ position induction =>
      subst position
      by_cases top : id = .global
      · subst top
        exact ⟨[], .root⟩
      · obtain ⟨record, found⟩ := Option.isSome_iff_exists.1 known
        have smaller := forest.parent_below top found
        have parentKnown : (project.namespace? record.parent).isSome := by
          have inside := (List.getElem?_eq_some_iff.1 found).1
          rw [namespace?, isSome_getElem?]
          exact Nat.lt_trans smaller inside
        obtain ⟨names, path⟩ := induction _ smaller parentKnown rfl
        exact ⟨_, .child top found path⟩

theorem exists_climbs (forest : project.Forest) (id : NamespaceId) :
    ∃ names, project.Climbs id names := by
  cases found : project.namespace? id with
  | none =>
      have below : id ≠ .global := by
        rintro rfl
        cases forest.rooted.root.symm.trans found
      exact ⟨[], .lost below found⟩
  | some record =>
      have known : (project.namespace? id).isSome := by
        rw [found]
        rfl
      obtain ⟨names, path⟩ := forest.exists_pathTo known
      exact ⟨_, path.climbs⟩

theorem length_le_position (forest : project.Forest)
    (climbs : project.Climbs id names) : names.length ≤ id.position := by
  induction climbs with
  | top => exact Nat.zero_le _
  | lost => exact Nat.zero_le _
  | up below known _ induction =>
      exact Nat.lt_of_le_of_lt induction (forest.parent_below below known)

theorem length_le_namespaces
    (forest : project.Forest) (climbs : project.Climbs id names) :
    names.length ≤ project.namespaces.length := by
  cases climbs with
  | top => exact Nat.zero_le _
  | lost => exact Nat.zero_le _
  | up below known rest =>
      have inside := (List.getElem?_eq_some_iff.1 known).1
      have short := forest.length_le_position (.up below known rest)
      exact Nat.le_trans short (Nat.le_of_lt inside)

theorem namesUpward_eq
    (forest : project.Forest) (climbs : project.Climbs id names)
    {steps : Nat} (enough : project.namespaces.length ≤ steps) :
    project.namesUpward steps id = names :=
  climbs.namesUpward_eq
    (Nat.le_trans (forest.length_le_namespaces climbs) enough)

theorem qualifiedName_eq (forest : project.Forest)
    (path : project.PathTo id names) (below : id ≠ .global) :
    project.qualifiedName id = "::".intercalate names := by
  have climbed := forest.namesUpward_eq path.climbs (Nat.le_refl _)
  rw [qualifiedName, climbed]
  split
  case h_1 nothing =>
      exact (path.ne_nil below (List.reverse_eq_nil_iff.1 nothing)).elim
  case h_2 => rw [List.reverse_reverse]

end Forest

theorem KeepsNamespaces.performAll
    (operations : List Operation) (project : Project) :
    project.KeepsNamespaces (Project.performAll operations project) := by
  refine performAll_keeps ?_ operations (of_namespaces_eq rfl)
  intro before after kept change
  exact kept.trans (of_change change)

/-- In every reachable project, and while the numbers of namespaces suffice, the
namespaces are a forest with unique names: only the first record is global,
every other one is filed under an earlier one, and no two share parent and name.
Whatever is done afterwards, a record stays what it is, except that a plain
namespace may become a class.  So the climb for a qualified name ends at every
number, known or not, no bound on its steps that is as large as the table cuts
it off, and the name of a known namespace is its path from the root.  Looking a
parent and a name up finds exactly the one namespace that has them. -/
theorem namespaces_form_forest (reachable : project.Reachable)
    (numbered : project.namespaces.length < wordBound) :
    project.Forest
      ∧ (∀ operations,
        project.KeepsNamespaces (Project.performAll operations project))
      ∧ (∀ id, ∃ names, project.Climbs id names
        ∧ ∀ steps, project.namespaces.length ≤ steps →
          project.namesUpward steps id = names)
      ∧ (∀ id, id ≠ .global → (project.namespace? id).isSome → ∃ names,
        project.PathTo id names
          ∧ project.qualifiedName id = "::".intercalate names)
      ∧ ∀ parent name id, project.findNamespace? parent name = some id
        ↔ id ≠ .global ∧ ∃ record, project.namespace? id = some record
          ∧ record.parent = parent ∧ record.name = name := by
  have forest := reachable.forest
  refine ⟨forest,
    fun operations => KeepsNamespaces.performAll operations project, ?_, ?_, ?_⟩
  · intro id
    obtain ⟨names, climbs⟩ := forest.exists_climbs id
    exact ⟨names, climbs, fun _ enough => forest.namesUpward_eq climbs enough⟩
  · intro id below known
    obtain ⟨names, path⟩ := forest.exists_pathTo known
    exact ⟨names, path, forest.qualifiedName_eq path below⟩
  · intro parent name id
    exact forest.findNamespace?_eq_some_iff (Nat.le_of_lt numbered)

/-- A project with a library, a namespace in the library, a class below the
global namespace of the same name, and a namespace in the class. -/
def namesakes : Project :=
  Project.performAll
    [.addLibrary "System",
      .answer (.findOrCreateNamespace (.ofPosition 1) "TList" .analysis),
      .answer (.findOrCreateNamespace .global "TList" .userDefined),
      .answer (.convertToClass (.ofPosition 3)),
      .answer (.findOrCreateNamespace (.ofPosition 2) "Items" .userDefined)]
    .empty

theorem namespaces_form_forest_namesakes :
    namesakes.Reachable ∧ namesakes.namespaces.length < wordBound
      ∧ namesakes.findNamespace? .global "TList" = some (.ofPosition 3)
      ∧ namesakes.namesUpward 100 (.ofPosition 4) = ["Items", "TList", "System"]
      ∧ ∃ names, namesakes.PathTo (.ofPosition 4) names
        ∧ namesakes.qualifiedName (.ofPosition 4) = "::".intercalate names := by
  have reachable : namesakes.Reachable := Reachable.empty.performAll _
  have numbered : namesakes.namespaces.length < wordBound := by decide
  obtain ⟨_, _, climb, path, found⟩ := namespaces_form_forest reachable numbered
  refine ⟨reachable, numbered, ?_, ?_, ?_⟩
  · exact (found _ _ _).2
      ⟨by decide, ⟨"TList", .global, .ofClass, .userDefined⟩, rfl, rfl, rfl⟩
  · obtain ⟨names, _, same⟩ := climb (.ofPosition 4)
    rw [same 100 (by decide), ← same 5 (by decide)]
    rfl
  · exact path _ (by decide) (by decide)

example : namesakes.qualifiedName (.ofPosition 4) = "System::TList::Items" := by
    decide +kernel

end Project

end DelphiRtti
