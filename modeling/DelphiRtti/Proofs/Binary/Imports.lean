import Mathlib.Data.List.Basic
import Mathlib.Data.List.Induction
import DelphiRtti.Binary
import DelphiRtti.Proofs.SortedMap
import DelphiRtti.Proofs.StableSort

/-!
# Imports as labels

Every import becomes a label at its address, filed under the namespace of its
library.  The libraries are numbered in the order in which the imports name them
first, and the labels of a library are its imports by address, those of one
address in the order of the imports.
-/

namespace DelphiRtti

open Text

/-- The names of the libraries, each where it is named first. -/
def librariesOf (imports : List FoundImport) : List String :=
  (imports.map fun item => item.library).eraseDups

/-- The number of a library's namespace: the global one comes first. -/
def libraryId (libraries : List String) (name : String) : NamespaceId :=
  .ofPosition (libraries.idxOf name + 1)

def NamespaceRecord.ofLibraryNamed (name : String) : NamespaceRecord :=
  ⟨name, .global, .ofLibrary, .imported⟩

def FoundImport.label (libraries : List String) (item : FoundImport) : Label :=
  ⟨item.name, libraryId libraries item.library, .imported, .imported⟩

theorem mem_librariesOf {imports : List FoundImport} {item : FoundImport}
    (listed : item ∈ imports) : item.library ∈ librariesOf imports :=
  List.mem_eraseDups.2 (List.mem_map_of_mem listed)

theorem librariesOf_concat (imports : List FoundImport) (item : FoundImport) :
    librariesOf (imports ++ [item])
      = if item.library ∈ librariesOf imports then librariesOf imports
        else librariesOf imports ++ [item.library] := by
  have named : item.library ∈ imports.map (fun item => item.library)
      ↔ item.library ∈ librariesOf imports :=
    List.mem_eraseDups.symm
  rw [librariesOf, List.map_append, List.eraseDups_append, List.removeAll,
    List.map_singleton]
  by_cases known : item.library ∈ librariesOf imports
  · rw [if_pos known, List.filter_cons_of_neg (by simpa using named.2 known),
      List.filter_nil, List.eraseDups_nil, List.append_nil]
    rfl
  · have fresh : item.library ∉ imports.map fun item => item.library :=
      fun listed => known (named.1 listed)
    rw [if_neg known, List.filter_cons_of_pos (by simpa using fresh),
      List.filter_nil, List.eraseDups_cons, List.filter_nil, List.eraseDups_nil]
    rfl

theorem libraryId_concat {imports : List FoundImport}
    {name : String} (known : name ∈ librariesOf imports) (item : FoundImport) :
    libraryId (librariesOf (imports ++ [item])) name
      = libraryId (librariesOf imports) name := by
  rw [librariesOf_concat]
  split
  case isTrue => rfl
  case isFalse => rw [libraryId, List.idxOf_append_of_mem known, libraryId]

/-- Up to 2^32 libraries have different numbers. -/
theorem libraryId_injective {libraries : List String}
    (numbered : libraries.length ≤ wordBound) {name other : String}
    (known : name ∈ libraries) (otherKnown : other ∈ libraries)
    (same : libraryId libraries name = libraryId libraries other) :
    name = other := by
  have below := List.idxOf_lt_length_iff.2 known
  have otherBelow := List.idxOf_lt_length_iff.2 otherKnown
  have positions := congrArg UInt32.toNat (congrArg NamespaceId.index same)
  rw [libraryId, libraryId, NamespaceId.ofPosition, NamespaceId.ofPosition,
    UInt32.toNat_ofNat', UInt32.toNat_ofNat'] at positions
  have bound : wordBound = 2 ^ 32 := rfl
  exact (List.idxOf_inj known).1 (by omega)

namespace Project

variable {project : Project} {libraries : List String}

theorem findNamespace?_of_libraries
    (allLibraries : project.namespaces
      = .global :: libraries.map .ofLibraryNamed) (name : String) :
    project.findNamespace? .global name
      = if name ∈ libraries then some (libraryId libraries name) else none := by
  have accepts : (fun record : NamespaceRecord => record.parent = .global
      && record.name = name)
      ∘ NamespaceRecord.ofLibraryNamed = (· == name) := by
    funext library
    simp only [Function.comp_apply, NamespaceRecord.ofLibraryNamed, decide_true,
      Bool.true_and]
    rfl
  rw [findNamespace?, allLibraries, List.drop_one, List.tail_cons,
    List.findIdx?_map, accepts]
  split
  case isTrue known =>
      have found : libraries.findIdx? (· == name)
          = some (libraries.idxOf name) :=
        List.findIdx?_eq_some_iff_findIdx_eq.2
          ⟨List.idxOf_lt_length_iff.2 known, rfl⟩
      rw [found]
      rfl
  case isFalse unknown =>
      have absent : libraries.findIdx? (· == name) = none := by
        rw [List.findIdx?_eq_none_iff]
        intro library listed
        exact beq_false_of_ne fun same => unknown (same ▸ listed)
      rw [absent]
      rfl

/-- The namespaces after a library was asked for: those of all libraries
that were named by then. -/
theorem addLibrary_of_libraries
    {imports : List FoundImport} (item : FoundImport)
    (allLibraries : project.namespaces
      = .global :: (librariesOf imports).map .ofLibraryNamed) :
    project.addLibrary item.library
      = (libraryId (librariesOf (imports ++ [item])) item.library,
          { project with
            namespaces := .global
              :: (librariesOf (imports ++ [item])).map .ofLibraryNamed }) := by
  rw [addLibrary, findNamespace?_of_libraries allLibraries, librariesOf_concat]
  by_cases known : item.library ∈ librariesOf imports
  · simp only [if_pos known]
    rw [← allLibraries]
  · have last : libraryId (librariesOf imports ++ [item.library]) item.library
        = .ofPosition ((librariesOf imports).length + 1) := by
      rw [libraryId, List.idxOf_append_of_notMem known, List.idxOf_cons_self,
        Nat.add_zero]
    simp only [if_neg known, appendNamespace, allLibraries, last,
      List.length_cons, List.length_map, List.map_append, List.cons_append]
    rfl

end Project

namespace Project

theorem labelsIn_eq_items (project : Project) (id : NamespaceId) :
    project.labelsIn id = project.labels.items.filterMap fun item =>
      if item.2.parent = id then some (item.1, item.2.name) else none := rfl

theorem labelsIn_ascends (project : Project) (id : NamespaceId) :
    (project.labelsIn id).Pairwise fun first second => first.1.toNat
    ≤ second.1.toNat := by
  have sameAddress {item : Address × Label} {shown : Address × String}
      (isShown : (if item.2.parent = id then some (item.1, item.2.name) else
        none) = some shown) :
      item.1 = shown.1 := by
    split at isShown
    · cases isShown
      rfl
    · cases isShown
  rw [labelsIn_eq_items, List.pairwise_filterMap]
  apply project.labels.items_ascending.imp
  intro left right notBefore first isFirst second isSecond
  rw [← sameAddress isFirst, ← sameAddress isSecond]
  exact Nat.not_lt.1 (of_decide_eq_false notBefore)

theorem labelsIn_filter (project : Project) (id : NamespaceId)
    (address : Address) :
    ((project.labelsIn id).filter fun item => item.1 = address)
      = (((project.labels.get? address).getD []).filter fun label =>
        label.parent = id).map
          fun label => (address, label.name) := by
  have narrowed : ((project.labelsIn id).filter fun item => item.1 = address)
      = (project.labels.items.filter fun item => item.1
        = address).filterMap fun item =>
          if item.2.parent = id then some (item.1, item.2.name) else none := by
    rw [labelsIn_eq_items, List.filter_filterMap, List.filterMap_filter]
    congr
    funext item
    by_cases inside : item.2.parent = id
    · by_cases here : item.1 = address
      · simp [here, inside]
      · simp [here, inside]
    · simp [inside]
  rw [narrowed, SortedMap.items_filter, List.filterMap_map,
    ← List.filterMap_eq_map, List.filterMap_filter]
  simp

end Project

/-- What the imports add to a project that has no libraries and no labels. -/
structure Project.Files (start : Project) (imports : List FoundImport)
    (project : Project) : Prop where
  frame : project = { start with
    namespaces := project.namespaces, labels := project.labels }
  namespaces : project.namespaces
    = .global :: (librariesOf imports).map .ofLibraryNamed
  labels : ∀ address, (project.labels.get? address).getD []
    = (imports.filter fun item => item.address = address).map
      (FoundImport.label (librariesOf imports))

namespace Project.Files

variable {start project : Project} {imports : List FoundImport}

theorem nil (onlyGlobal : start.namespaces = [.global])
    (noLabels : start.labels = ∅) : start.Files [] start where
  frame := rfl
  namespaces := onlyGlobal
  labels := by
    intro address
    rw [noLabels]
    rfl

theorem concat (files : start.Files imports project) (item : FoundImport) :
    start.Files (imports ++ [item]) (Binary.fileImport project item) := by
  have filed : Binary.fileImport project item
      = { project with
          namespaces :=
            .global :: (librariesOf (imports ++ [item])).map .ofLibraryNamed
          labels := project.labels.insert item.address
            ((project.labels.get? item.address).getD []
              ++ [item.label (librariesOf (imports ++ [item]))]) } := by
    rw [Binary.fileImport, addLibrary_of_libraries item files.namespaces]
    rfl
  have before : ∀ other ∈ imports, other.label (librariesOf (imports ++ [item]))
      = other.label (librariesOf imports) := by
    intro other listed
    rw [FoundImport.label, FoundImport.label,
      libraryId_concat (mem_librariesOf listed)]
  rw [filed]
  constructor
  · rw [files.frame]
  · rfl
  · intro address
    have earlier : ((imports.filter fun other => other.address = address).map
        (FoundImport.label (librariesOf (imports ++ [item]))))
          = (project.labels.get? address).getD [] := by
      rw [files.labels]
      apply List.map_congr_left
      intro other listed
      exact before other (List.mem_filter.1 listed).1
    rw [SortedMap.get?_insert, List.filter_append, List.map_append, earlier]
    by_cases here : item.address = address
    · subst here
      simp
    · simp [here]

theorem of_foldl (onlyGlobal : start.namespaces = [.global])
    (noLabels : start.labels = ∅) (imports : List FoundImport) :
    start.Files imports (imports.foldl Binary.fileImport start) := by
  induction imports using List.reverseRecOn with
  | nil => exact nil onlyGlobal noLabels
  | append_singleton imports item induction =>
      rw [List.foldl_append]
      exact induction.concat item

theorem labelsIn_filter (files : start.Files imports project) (id : NamespaceId)
    (address : Address) :
    ((project.labelsIn id).filter fun item => item.1 = address)
      = ((imports.filter fun item =>
        libraryId (librariesOf imports) item.library = id).filter
          fun item => item.address = address).map fun item => (item.address,
            item.name) := by
  rw [Project.labelsIn_filter, files.labels, List.filter_map, List.map_map,
    List.filter_filter, List.filter_filter]
  simp only [Function.comp_def, FoundImport.label, Bool.and_comm]
  apply List.map_congr_left
  intro item listed
  have here := (List.mem_filter.1 listed).2
  rw [Bool.and_eq_true, decide_eq_true_eq] at here
  rw [here.1]

/-- The labels in a namespace are the imports whose library has its
number, sorted by address. -/
theorem labelsIn_eq (files : start.Files imports project) (id : NamespaceId) :
    project.labelsIn id
      = ((imports.filter fun item =>
        libraryId (librariesOf imports) item.library = id).mergeSort
          (noLaterBy fun item => item.address.toNat)).map fun item =>
            (item.address, item.name) := by
  have sameAddress (left right : Address) : (left.toNat = right.toNat)
      = (left = right) :=
    propext ⟨Address.toNat_injective, congrArg Address.toNat⟩
  apply eq_of_ascending_of_filter_eq (fun item => item.1.toNat)
    (labelsIn_ascends project id)
  · rw [List.pairwise_map]
    exact pairwise_mergeSort_noLaterBy
      (fun item : FoundImport => item.address.toNat) _
  · intro found
    have sorted :=
      filter_mergeSort_noLaterBy (fun item : FoundImport => item.address.toNat)
      (imports.filter fun item => libraryId (librariesOf imports) item.library
        = id) found.1.toNat
    simp only [sameAddress] at sorted ⊢
    rw [files.labelsIn_filter, List.filter_map, ← sorted]
    rfl

theorem labelsIn_library (files : start.Files imports project)
    (numbered : (librariesOf imports).length ≤ wordBound) {item : FoundImport}
    (listed : item ∈ imports) :
    ∃ id, project.findNamespace? .global item.library = some id
      ∧ project.labelsIn id
        = ((imports.filter fun other => other.library = item.library).mergeSort
            (noLaterBy fun other => other.address.toNat)).map fun other =>
              (other.address, other.name) := by
  have known := mem_librariesOf listed
  refine ⟨libraryId (librariesOf imports) item.library, ?_, ?_⟩
  · rw [findNamespace?_of_libraries files.namespaces, if_pos known]
  · have sameLibrary : ∀ other ∈ imports,
        decide (libraryId (librariesOf imports) other.library
          = libraryId (librariesOf imports) item.library)
          = decide (other.library = item.library) := by
      intro other otherListed
      rw [decide_eq_decide]
      exact ⟨libraryId_injective numbered (mem_librariesOf otherListed) known,
        fun same => by rw [same]⟩
    rw [files.labelsIn_eq, List.filter_congr sameLibrary]

end Project.Files

end DelphiRtti
