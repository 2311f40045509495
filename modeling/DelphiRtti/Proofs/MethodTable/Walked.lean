import DelphiRtti.Proofs.MethodTable.Slots

/-!
# The project in the middle of a walk

Every slot of a walk changes the functions that later slots look up.  The
project in the middle of a walk differs from the first one only by the
functions at the targets so far, so what it says of a target is
determined by the first project.
-/

namespace DelphiRtti

open Text

namespace Project

/-- Whether a target has a function or can get one. -/
def TakesFunction (project : Project) (target : Address) : Prop :=
  (project.functionAt? target).isSome ∨ project.image.isExecutable target = true

/-- The name of the field for a target: that of the function there, or else what
the address is called, or else a name made of its digits. -/
def fieldName (project : Project) (target : Address) : String :=
  match (project.functionAt? target).bind project.function? with
  | some record => record.name
  | none =>
      match project.symbolAt? target with
      | some symbol => symbol.displayName
      | none => "FUN_" ++ String.ofList (hexDigits capitalDigit 8 target.toNat)

/-- Whether every function is still found where it was. -/
def KeepsFunctions (before after : Project) : Prop :=
  ∀ address id, before.functionAt? address = some id →
    after.functionAt? address = some id

theorem KeepsFunctions.refl (project : Project) :
    project.KeepsFunctions project := by
  intro address id known
  exact known

theorem KeepsFunctions.trans
    {first second third : Project} (earlier : first.KeepsFunctions second)
    (later : second.KeepsFunctions third) : first.KeepsFunctions third := by
  intro address id known
  apply later
  exact earlier address id known

theorem keepsFunctions_withFunction {project : Project}
    {record : FunctionRecord} (free : project.functionAt? record.entry = none) :
    project.KeepsFunctions (project.withFunction record) := by
  intro address id known
  have elsewhere : record.entry ≠ address := by
    intro here
    rw [here, known] at free
    cases free
  rw [functionAt?_withFunction, if_neg elsewhere]
  exact known

/-- Whether a project may be what walking over slots with these
targets made of another one. -/
structure Walked (initial : Project) (targets : List Address)
    (project : Project) : Prop where
  image : project.image = initial.image
  labels : project.labels = initial.labels
  namespaces : project.namespaces = initial.namespaces
  indexed : project.Indexed
  defined : ∀ address,
    project.functionAt? address = none ↔ initial.functionAt? address = none
      ∧ address ∉ targets
  kept : initial.KeepsFunctions project
  named : ∀ {id record},
    project.function? id = some record →
      record.name = initial.fieldName record.entry
  taken : ∀ address ∈ targets, initial.TakesFunction address

namespace Walked

variable {initial project : Project} {targets : List Address} {target : Address}

theorem refl (indexed : initial.Indexed) : Walked initial [] initial where
  image := rfl
  labels := rfl
  namespaces := rfl
  indexed := indexed
  defined := by simp
  kept := .refl initial
  named := by
    intro id record found
    have placed : initial.functionAt? record.entry = some id :=
      indexed.functionAt?_eq_some_iff.2 ⟨record, found, rfl⟩
    simp [fieldName, placed, found]
  taken := by simp

theorem free_before (walked : Walked initial targets project)
    (free : project.functionAt? target = none) :
    initial.functionAt? target = none :=
  ((walked.defined target).1 free).1

theorem takesFunction_iff (walked : Walked initial targets project) :
    project.TakesFunction target ↔ initial.TakesFunction target := by
  rw [TakesFunction, TakesFunction, walked.image]
  constructor
  · intro takes
    cases takes with
    | inl known =>
        by_cases before : initial.functionAt? target = none
        · by_cases visited : target ∈ targets
          · exact walked.taken target visited
          · have stillFree := (walked.defined target).2 ⟨before, visited⟩
            simp [stillFree] at known
        · apply Or.inl
          exact Option.isSome_iff_ne_none.2 before
    | inr executable => exact .inr executable
  · intro takes
    cases takes with
    | inl known =>
        obtain ⟨id, found⟩ := Option.isSome_iff_exists.1 known
        have still := walked.kept target id found
        simp [still]
    | inr executable => exact .inr executable

theorem stub_name (walked : Walked initial targets project)
    (free : project.functionAt? target = none) :
    (MethodTable.stub target (project.symbolAt? target)).name
    = initial.fieldName target := by
  have freeBefore := walked.free_before free
  have sameSymbol : project.symbolAt? target = initial.symbolAt? target :=
    symbolAt?_of_free freeBefore free walked.labels walked.namespaces
  rw [sameSymbol, fieldName, freeBefore]
  cases initial.symbolAt? target with
  | some symbol => rfl
  | none => rfl

theorem define (walked : Walked initial targets project)
    (free : project.functionAt? target = none)
    (executable : project.image.isExecutable target = true) :
    Walked initial (targets ++ [target])
      (project.withFunction
        (MethodTable.stub target (project.symbolAt? target))) where
  image := walked.image
  labels := walked.labels
  namespaces := walked.namespaces
  indexed := walked.indexed.withFunction free
  defined := by
    intro address
    rw [functionAt?_withFunction]
    by_cases here : target = address
    · simp [MethodTable.stub, here]
    · simp [MethodTable.stub, here, walked.defined, Ne.symm here]
  kept := walked.kept.trans (keepsFunctions_withFunction free)
  named := by
    intro id record found
    rw [function?_withFunction] at found
    split at found
    case isTrue =>
        cases found
        exact walked.stub_name free
    case isFalse => exact walked.named found
  taken := by
    intro address visited
    cases List.mem_append.1 visited with
    | inl earlier => exact walked.taken address earlier
    | inr last =>
        cases List.mem_singleton.1 last
        apply Or.inr
        rw [← walked.image]
        exact executable

theorem again (walked : Walked initial targets project) {id : FunctionId}
    (known : project.functionAt? target = some id) :
    Walked initial (targets ++ [target]) project where
  image := walked.image
  labels := walked.labels
  namespaces := walked.namespaces
  indexed := walked.indexed
  defined := by
    intro address
    by_cases here : address = target
    · simp [here, known]
    · simp [here, walked.defined]
  kept := walked.kept
  named := walked.named
  taken := by
    intro address visited
    cases List.mem_append.1 visited with
    | inl earlier => exact walked.taken address earlier
    | inr last =>
        cases List.mem_singleton.1 last
        apply walked.takesFunction_iff.1
        apply Or.inl
        simp [known]

theorem file (walked : Walked initial targets project) {function : FunctionId}
    {record : FunctionRecord} (known : project.function? function = some record)
    (parent : NamespaceId) (types : SortedMap String DataType) :
    Walked initial targets
      { project.setFunction function { record with parent } with types } where
  image := walked.image
  labels := walked.labels
  namespaces := walked.namespaces
  indexed := by
    have filed :
        (project.setFunction function { record with parent }).Indexed :=
      walked.indexed.setFunction known rfl
    exact filed.congr rfl rfl
  defined := walked.defined
  kept := walked.kept
  named := by
    intro id other found
    change (project.setFunction function { record with parent }).function? id
      = some other at found
    rw [function?_setFunction known] at found
    split at found
    case isTrue =>
        cases found
        have named := walked.named known
        exact named
    case isFalse => exact walked.named found
  taken := walked.taken

end Walked

end Project

end DelphiRtti
