import DelphiRtti.Proofs.Binary.Reading
import DelphiRtti.Proofs.Binary.Sections
import DelphiRtti.Proofs.Project.Functions

/-!
# The project of a binary

A binary becomes the project that its tables describe: the regions of its
sections, one function for each address of code that has a name, and the imports
as labels in the namespaces of their libraries.
-/

namespace DelphiRtti

open Text

def FoundFunction.record (function : FoundFunction) : FunctionRecord where
  entry := function.address
  name := function.name
  parent := .global
  signature := .undefined
  source := if function.exported then .imported else .analysis

/-- Of several functions at one address, the first. -/
def firstByAddress (functions : List FoundFunction) : List FoundFunction :=
  functions.eraseDupsBy fun later earlier => later.address = earlier.address

theorem firstByAddress_cons (function : FoundFunction)
    (rest : List FoundFunction) :
    firstByAddress (function :: rest)
      = function :: firstByAddress
        (rest.filter fun other => other.address ≠ function.address) := by
  rw [firstByAddress, List.eraseDupsBy_cons]
  simp only [decide_eq_false_iff_not]
  rfl

namespace Binary

variable {project : Project} {function : FoundFunction}

/-- Whether a project can have another function at an address. -/
def takesFunction (project : Project) (address : Address) : Bool :=
  project.image.isExecutable address && (project.functionAt? address).isNone

theorem defineFunction_of_refused
    (refused : takesFunction project function.address = false) :
    (defineFunction project function).1 = project := by
  rw [defineFunction]
  split
  case isTrue inside =>
      rw [takesFunction, inside, Bool.true_and, Option.isNone_eq_false_iff,
        Option.isSome_iff_exists] at refused
      obtain ⟨id, taken⟩ := refused
      simp only [Project.addFunction_of_taken taken]
  case isFalse => rfl

theorem defineFunction_of_takes
    (takes : takesFunction project function.address = true) :
    (defineFunction project function).1
    = project.withFunction function.record := by
  rw [takesFunction, Bool.and_eq_true, Option.isNone_iff_eq_none] at takes
  simp only [defineFunction, if_pos takes.1,
    Project.addFunction_of_free takes.2]
  rfl

theorem defineFunctions_cons (project : Project) (function : FoundFunction)
    (rest : List FoundFunction) :
    (defineFunctions project (function :: rest)).1
      = (defineFunctions (defineFunction project function).1 rest).1 := rfl

theorem takesFunction_withFunction (project : Project) (record : FunctionRecord)
    (address : Address) :
    takesFunction (project.withFunction record) address
      = (takesFunction project address && decide (address ≠ record.entry)) := by
  rw [takesFunction, takesFunction, Project.functionAt?_withFunction]
  by_cases here : record.entry = address
  · simp [here]
  · have apart : address ≠ record.entry := fun same => here same.symm
    simp [here, apart, Project.withFunction]

theorem defineFunctions_functions (project : Project)
    (functions : List FoundFunction) :
    (defineFunctions project functions).1.functions
      = project.functions ++ (firstByAddress (functions.filter fun function =>
          takesFunction project function.address)).map
            FoundFunction.record := by
  induction functions generalizing project with
  | nil => exact (List.append_nil _).symm
  | cons function rest induction =>
      rw [defineFunctions_cons, induction]
      cases takes : takesFunction project function.address with
      | false =>
          rw [defineFunction_of_refused takes,
            List.filter_cons_of_neg (by simp [takes])]
      | true =>
          have others : (rest.filter fun other =>
              takesFunction (project.withFunction function.record)
                other.address)
            = (rest.filter fun other =>
              takesFunction project other.address).filter
                fun other => other.address ≠ function.address := by
            rw [List.filter_filter]
            apply List.filter_congr
            intro other _
            rw [takesFunction_withFunction, Bool.and_comm]
            rfl
          rw [defineFunction_of_takes takes, others,
            List.filter_cons_of_pos (by simpa using takes), firstByAddress_cons,
            List.map_cons, ← List.singleton_append, ← List.append_assoc]
          rfl

theorem defineFunctions_frame (project : Project)
    (functions : List FoundFunction) :
    (defineFunctions project functions).1
      = { project with
          functions := (defineFunctions project functions).1.functions
          entries := (defineFunctions project functions).1.entries } := by
  induction functions generalizing project with
  | nil => rfl
  | cons function rest induction =>
      rw [defineFunctions_cons, induction]
      cases takes : takesFunction project function.address with
      | false => rw [defineFunction_of_refused takes]
      | true => rw [defineFunction_of_takes takes, Project.withFunction]

/-- Whether an address lies in an executable section. -/
def IsCode (binary : Binary) (address : Address) : Prop :=
  ∃ entry ∈ binary.sections, address.toNat ∈ entry.range
    ∧ entry.protection.executable = true

instance (binary : Binary) (address : Address) :
    Decidable (binary.IsCode address) :=
  inferInstanceAs (Decidable (∃ entry ∈ binary.sections, _))

/-- Whether no two sections that take up memory meet. -/
def SectionsApart (binary : Binary) : Prop :=
  (Section.notEmpty binary.sections).Pairwise fun left right =>
    Disjoint left.range right.range

instance (binary : Binary) : Decidable binary.SectionsApart :=
  inferInstanceAs (Decidable (List.Pairwise _ _))

/-- Whether a project holds what the tables of a binary say and nothing else. -/
structure Describes (binary : Binary) (project : Project) : Prop where
  regions :
    project.image.regions.Perm (Section.regions binary.data binary.sections)
  functions : project.functions
    = (firstByAddress (binary.functions.filter fun function =>
      binary.IsCode function.address)).map
        FoundFunction.record
  namespaces : project.namespaces
    = .global :: (librariesOf binary.imports).map .ofLibraryNamed
  /-- The labels of a library, which are its imports by address. -/
  labels : (librariesOf binary.imports).length ≤ wordBound →
    ∀ item ∈ binary.imports,
    ∃ id, project.findNamespace? .global item.library = some id
      ∧ project.labelsIn id
        = ((binary.imports.filter fun other => other.library
          = item.library).mergeSort
            (noLaterBy fun other => other.address.toNat)).map fun other =>
              (other.address, other.name)
  /-- The labels under a number, which two libraries share only where
  there are more than 2^32. -/
  labelsByNumber : ∀ id, project.labelsIn id
    = ((binary.imports.filter fun item =>
          libraryId (librariesOf binary.imports) item.library = id).mergeSort
        (noLaterBy fun item => item.address.toNat)).map fun item =>
          (item.address, item.name)
  listing : project.listing = ∅
  types : project.types = ∅

theorem toProject_eq (binary : Binary) :
    binary.toProject.1 = (mapSections binary.data .empty binary.sections).1.map
      fun project =>
      binary.imports.foldl fileImport
        (defineFunctions project binary.functions).1 := by
  rw [toProject]
  rcases mapSections binary.data .empty binary.sections
    with ⟨failure | project, records⟩
  · rfl
  · rfl

theorem exists_mapped_iff (binary : Binary) :
    (∃ mapped, (mapSections binary.data .empty binary.sections).1 = .ok mapped)
    ↔ binary.SectionsApart :=
  (exists_mapSections_eq_ok_iff Image.apart_empty binary.data
    binary.sections).trans
    (Section.regions_apart_iff binary.data binary.sections)

theorem exists_toProject_iff (binary : Binary) :
    (∃ project, binary.toProject.1 = .ok project) ↔ binary.SectionsApart := by
  rw [toProject_eq, ← exists_mapped_iff]
  cases (mapSections binary.data .empty binary.sections).1 with
  | error failure => simp [Except.map]
  | ok mapped => simp [Except.map]

theorem exists_toProject_eq_error_iff (binary : Binary) :
    (∃ failure, binary.toProject.1 = .error failure)
    ↔ ¬ binary.SectionsApart := by
  rw [← exists_toProject_iff]
  cases binary.toProject.1 with
  | error failure => simp
  | ok project => simp

variable {binary : Binary}

theorem takesFunction_mapped {mapped : Project}
    (done : (mapSections binary.data .empty binary.sections).1 = .ok mapped)
    (address : Address) :
    takesFunction mapped address = decide (binary.IsCode address) := by
  have free : mapped.functionAt? address = none := by
    rw [(mapSections_empty_eq_ok done).1]
    rfl
  rw [takesFunction, free, Option.isNone_none, Bool.and_true, Bool.eq_iff_iff,
    decide_eq_true_eq]
  exact isExecutable_mapSections_iff done address

/-- The memory comes first, then the functions, then the imports. -/
theorem toProject_eq_ok (loaded : binary.toProject.1 = .ok project) :
    ∃ mapped, (mapSections binary.data .empty binary.sections).1 = .ok mapped
      ∧ project = binary.imports.foldl fileImport
        (defineFunctions mapped binary.functions).1 := by
  rw [toProject_eq] at loaded
  cases done : (mapSections binary.data .empty binary.sections).1 with
  | error failure =>
      rw [done] at loaded
      cases loaded
  | ok mapped =>
      rw [done] at loaded
      exact ⟨mapped, rfl, (Except.ok.inj loaded).symm⟩

theorem sectionsApart_of_toProject (loaded : binary.toProject.1 = .ok project) :
    binary.SectionsApart :=
  (exists_toProject_iff binary).1 ⟨project, loaded⟩

theorem describes_of_toProject (loaded : binary.toProject.1 = .ok project) :
    binary.Describes project := by
  obtain ⟨mapped, done, rfl⟩ := toProject_eq_ok loaded
  obtain ⟨onlyImage, _, listed⟩ := mapSections_empty_eq_ok done
  have functions := defineFunctions_functions mapped binary.functions
  have defined := defineFunctions_frame mapped binary.functions
  simp only [takesFunction_mapped done] at functions
  generalize (defineFunctions mapped binary.functions).1 = named
    at functions defined ⊢
  have files :
      named.Files binary.imports (binary.imports.foldl fileImport named) := by
    apply Project.Files.of_foldl
    · exact (congrArg Project.namespaces defined).trans
        (congrArg Project.namespaces onlyImage)
    · exact (congrArg Project.labels defined).trans
        (congrArg Project.labels onlyImage)
  generalize binary.imports.foldl fileImport named = loaded at files ⊢
  constructor
  · rw [congrArg Project.image files.frame, congrArg Project.image defined]
    exact listed
  · rw [congrArg Project.functions files.frame, functions,
      congrArg Project.functions onlyImage]
    rfl
  · exact files.namespaces
  · intro numbered item itemListed
    exact files.labelsIn_library numbered itemListed
  · exact files.labelsIn_eq
  · rw [congrArg Project.listing files.frame, congrArg Project.listing defined]
    exact congrArg Project.listing onlyImage
  · rw [congrArg Project.types files.frame, congrArg Project.types defined]
    exact congrArg Project.types onlyImage

/-- A binary becomes a project exactly if no two of its sections meet, and then
it is the project that the tables of the binary describe.  For a binary that is
read from a file by its import tables, the numbers of the libraries suffice. -/
theorem toProject_describes (binary : Binary) :
    ((∃ failure, binary.toProject.1 = .error failure)
        ↔ ¬ binary.SectionsApart)
      ∧ (∀ project, binary.toProject.1 = .ok project →
        binary.Describes project)
      ∧ ∀ (reader : Executable.Reader) data path, reader.FollowsTables data →
        ofBytesBy reader data path = .ok binary →
        (librariesOf binary.imports).length ≤ wordBound := by
  refine ⟨exists_toProject_eq_error_iff binary, ?_, ?_⟩
  · intro project loaded
    exact describes_of_toProject loaded
  · intro reader data path follows loaded
    exact libraries_numbered follows loaded

/-- A binary with its sections out of order and an empty one inside another, two
names for one address, a name outside the code, and two libraries by turns. -/
def shuffled : Binary where
  path := "shuffled"
  data := #[0xc3, 0xc3, 0xc3, 0xc3]
  entry := .ofNat 4097
  imageBase := .ofNat 0
  functions :=
    [⟨"first", .ofNat 4096, true⟩, ⟨"second", .ofNat 4096, true⟩,
      ⟨"table", .ofNat 8192, true⟩,
      ⟨"entry", .ofNat 4097, false⟩]
  imports :=
    [⟨"b.dll", "late", .ofNat 8200⟩, ⟨"a.dll", "other", .ofNat 8196⟩,
      ⟨"b.dll", "early", .ofNat 8196⟩,
      ⟨"b.dll", "later", .ofNat 8200⟩]
  sections :=
    [⟨".data", .ofNat 8192, 16, 0, 4, ⟨true, true, false⟩⟩,
      ⟨".none", .ofNat 4098, 0, 0, 0, ⟨true, false, true⟩⟩,
      ⟨".text", .ofNat 4096, 0, 0, 4, ⟨true, false, true⟩⟩]

theorem toProject_describes_shuffled :
    ∃ project, shuffled.toProject.1 = .ok project ∧ shuffled.Describes project
      ∧ project.image.regions.map (·.name) = [".text", ".data"]
      ∧ project.functions.map (·.name) = ["first", "entry"]
      ∧ project.namespaces.map (·.name) = ["Global", "b.dll", "a.dll"]
      ∧ project.labelsIn (.ofPosition 1)
        = [(.ofNat 8196, "early"), (.ofNat 8200, "late"),
          (.ofNat 8200, "later")] := by
  have apart : shuffled.SectionsApart := by decide +kernel
  cases loaded : shuffled.toProject.1 with
  | error failure =>
      exact absurd apart ((toProject_describes shuffled).1.1 ⟨failure, loaded⟩)
  | ok project =>
      have regions : shuffled.toProject.1.toOption.map
          (fun project => project.image.regions.map (·.name))
          = some [".text", ".data"] := by decide +kernel
      have labels : shuffled.toProject.1.toOption.map
          (fun project => project.labelsIn (.ofPosition 1))
          = some [(.ofNat 8196, "early"), (.ofNat 8200, "late"),
            (.ofNat 8200, "later")] := by decide +kernel
      have describes := (toProject_describes shuffled).2.1 project loaded
      rw [loaded] at regions labels
      refine ⟨project, rfl, describes, Option.some.inj regions, ?_, ?_,
        Option.some.inj labels⟩
      · rw [describes.functions]
        decide +kernel
      · rw [describes.namespaces]
        decide +kernel

end Binary

end DelphiRtti
